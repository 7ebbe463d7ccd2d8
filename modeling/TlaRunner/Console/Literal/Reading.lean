import Std.Data.HashMap
import TlaRunner.Console.Literal.Expression

/-!
# Reading tokens

A reading takes tokens from the front and yields what they stand for; or it misses, and
another one may be tried from the same place; or it refuses the whole expression.  The
choice between readings is ordered: the first that does not miss is taken for good.

Readings of a rule may be kept.  What a rule gave at a place is then looked up when it
is asked for again, so that the work stays in proportion to the number of tokens.

An expression is read twice.  The second time is for one that was missed, and searches
for the common mistakes: `inSearch` adds a reading then.
-/

namespace TlaRunner.Console.Literal

/-- The rules that are read by name.  Each starts at a token before which no rule is
open that it could lead back to. -/
inductive Rule
  | expression | starExpression | misnamed | disjunction | conjunction | inversion | bitOr
  | bitXor | bitAnd | shift | sum | term | factor | awaited | primary | strings | arguments
  | target | plainTarget | targetOwner
  deriving DecidableEq, Hashable, Repr

/-- What a reading reads. -/
structure Source where
  /-- The tokens. -/
  tokens : Array Token
  /-- The fault behind the last of them. -/
  fault : Option TokenFault
  /-- Whether common mistakes are searched for. -/
  searching : Bool
  /-- Checks an expression in a template. -/
  inner : Text → Except Fault Unit

/-- How far a reading has come. -/
structure Place where
  /-- The number of tokens taken. -/
  taken : Nat
  /-- The last token that was looked at. -/
  reached : Nat
  /-- What rules gave at places, and how many tokens were taken then. -/
  known : Std.HashMap (Rule × Nat) (Option (Expression × Nat))

/-- The outcome of a reading. -/
inductive Outcome (α : Type)
  | found (value : α) (place : Place)
  | missed (place : Place)
  | refused (fault : Fault) (place : Place)

/-- A reading. -/
def Reading (α : Type) : Type :=
  Source → Place → Outcome α

namespace Reading

variable {α β : Type}

/-- Yields a value and takes nothing. -/
def yields (a : α) : Reading α := fun _ p => .found a p

/-- Goes on with what was found. -/
def andThen (r : Reading α) (f : α → Reading β) : Reading β := fun s p =>
  match r s p with
  | .found a p => f a s p
  | .missed p => .missed p
  | .refused fault p => .refused fault p

instance : Monad Reading where
  pure := yields
  bind := andThen

/-- Misses. -/
def misses : Reading α := fun _ p => .missed p

/-- Refuses the expression. -/
def refuse (fault : Fault) : Reading α := fun _ p => .refused fault p

/-- Tries one reading and, if it misses, another one from the same place. -/
def either (first second : Reading α) : Reading α := fun s p =>
  match first s p with
  | .missed q => second s { q with taken := p.taken }
  | out => out

/-- Takes the first of some readings that does not miss. -/
def firstOf : List (Reading α) → Reading α
  | [] => misses
  | r :: rest => either r (firstOf rest)

/-- Tries a reading, and takes nothing if it misses. -/
def optional (r : Reading α) : Reading (Option α) :=
  either (andThen r fun a => yields (some a)) (yields none)

/-- Reads without taking anything. -/
def ahead (r : Reading α) : Reading α := fun s p =>
  match r s p with
  | .found a q => .found a { q with taken := p.taken }
  | out => out

/-- Misses where a reading does not. -/
def absent (r : Reading α) : Reading Unit := fun s p =>
  match r s p with
  | .found _ q => .missed q
  | .missed q => .found () { q with taken := p.taken }
  | .refused fault q => .refused fault q

/-- Repeats a reading up to a number of times, until it misses. -/
def repeatUpTo (r : Reading α) : Nat → Reading (List α)
  | 0 => yields []
  | n + 1 => either (andThen r fun a => andThen (repeatUpTo r n) fun as => yields (a :: as))
      (yields [])

/-- Repeats a reading that takes tokens until it misses. -/
def many (r : Reading α) : Reading (List α) := fun s p =>
  repeatUpTo r s.tokens.size s p

/-- Repeats a reading at least once. -/
def some1 (r : Reading α) : Reading (List α) :=
  andThen r fun a => andThen (many r) fun as => yields (a :: as)

/-- Goes on from a value with what readings make of it, until they miss. -/
def growUpTo (step : α → Reading α) : Nat → α → Reading α
  | 0, a => yields a
  | n + 1, a => fun s p =>
    match step a s p with
    | .missed q => .found a { q with taken := p.taken }
    | .found a p => growUpTo step n a s p
    | .refused fault p => .refused fault p

/-- Goes on from a value with readings that take tokens, until they miss. -/
def grow (a : α) (step : α → Reading α) : Reading α := fun s p =>
  growUpTo step s.tokens.size a s p

/-- Adds a reading to the search for mistakes. -/
def inSearch (r : Reading α) : Reading α := fun s p =>
  if s.searching then r s p else .missed p

/-- Reads without a search for mistakes. -/
def withoutSearch (r : Reading α) : Reading α := fun s p =>
  r { s with searching := false } p

/-- Takes a kind of mistake.  The first pattern that fits decides: it refuses the
expression, or gives no fault and thereby shows that there is none of this kind. -/
def refuseBy (patterns : List (Reading (Option Fault))) : Reading α :=
  andThen (firstOf patterns) fun fault? =>
    match fault? with
    | some fault => refuse fault
    | none => misses

/-- Takes a kind of mistake in the search for mistakes. -/
def mistake (patterns : List (Reading (Option Fault))) : Reading α :=
  inSearch (refuseBy patterns)

/-! ## Tokens -/

/-- Takes a token that passes a test. -/
def token (test : Token → Bool) : Reading Token := fun s p =>
  let q := { p with reached := max p.reached p.taken }
  match s.tokens[p.taken]? with
  | some t => if test t then .found t { q with taken := p.taken + 1 } else .missed q
  | none =>
    match s.fault with
    | some fault => .refused (.token fault) q
    | none => .missed q

/-- The words that are no names. -/
def reservedWords : List Text :=
  ["False", "None", "True", "and", "as", "assert", "async", "await", "break", "class",
    "continue", "def", "del", "elif", "else", "except", "finally", "for", "from", "global",
    "if", "import", "in", "is", "lambda", "nonlocal", "not", "or", "pass", "raise", "return",
    "try", "while", "with", "yield"].map String.toList

/-- Takes a name. -/
def name : Reading Text :=
  andThen (token fun t => t.kind = .name && !reservedWords.contains t.text) fun t => yields t.text

/-- Takes a word. -/
def word (w : String) : Reading Unit :=
  andThen (token fun t => t.kind = .name && t.text = w.toList) fun _ => yields ()

/-- Takes a sign. -/
def sign (w : String) : Reading Unit :=
  andThen (token fun t => t.kind = .sign && t.text = w.toList) fun _ => yields ()

/-- Takes a token of a kind. -/
def ofKind (kind : TokenKind) : Reading Token :=
  token (·.kind = kind)

/-- The number of brackets that are open behind the last token. -/
def depth : Reading Nat := fun s p =>
  .found ((s.tokens[p.taken - 1]?.map (·.depth)).getD 0) p

/-- Reads a list with commas between its items. -/
def commas (r : Reading α) : Reading (List α) :=
  andThen r fun a => andThen (many (andThen (sign ",") fun _ => r)) fun as => yields (a :: as)

/-! ## Rules -/

/-- Keeps what a rule gives at a place. -/
def keep (rule : Rule) (r : Reading Expression) : Reading Expression := fun s p =>
  match p.known[(rule, p.taken)]? with
  | some (some (e, taken)) => .found e { p with taken }
  | some none => .missed p
  | none =>
    let note (q : Place) (out : Option (Expression × Nat)) : Place :=
      { q with known := q.known.insert (rule, p.taken) out }
    match r s p with
    | .found e q => .found e (note q (some (e, q.taken)))
    | .missed q => .missed (note q none)
    | .refused fault q => .refused fault q

end Reading

end TlaRunner.Console.Literal
