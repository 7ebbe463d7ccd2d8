import TlaRunner.Console.Literal.Reading
import TlaRunner.Console.Literal.Template

/-!
# Single things

The rules for what stands alone in an expression: names, words, numbers, strings, and
what stands in brackets, which may be filled by loops over other values.

Every rule is a reading, given the readings of the rules it leads to by name.
-/

namespace TlaRunner.Console.Literal.Reading

variable (self : Rule → Reading Expression)

/-- What the alternative without a fault of its own stands for. -/
def blame {α : Type} (fault : Fault) (r : Reading α) : Reading (Option Fault) := do
  let _ ← r
  return some fault

/-! ## Loops -/

/-- The targets of a loop. -/
def targets : Reading Unit := do
  let _ ← self .target
  firstOf [absent (sign ","), do
    let _ ← many (do sign ","; self .target)
    let _ ← optional (sign ",")]

/-- Reads several things with commas between them, perhaps with one at the end. -/
def starExpressions : Reading Expression := do
  let first ← self .starExpression
  let more ← many (do sign ","; self .starExpression)
  match ← optional (sign ","), more with
  | none, [] => return first
  | _, more => return .tuple (first :: more)

/-- One loop over values. -/
def loop : Reading Unit := fun s p =>
  let start : Reading Unit := do
    let _ ← optional (word "async")
    word "for"
    targets self
    word "in"
  let misled : Reading Unit := mistake [do
    let _ ← optional (word "async")
    word "for"
    let e ← starExpressions self
    return e.fixedPart?.map (Fault.target ·.describe)]
  match start s p with
  | .missed q => misled s { q with taken := p.taken }
  | .refused fault q => .refused fault q
  | .found _ q =>
    (do
      let _ ← self .disjunction
      let _ ← many (do word "if"; self .disjunction)) s q

/-- Loops over values. -/
def loops : Reading Unit := do
  let _ ← some1 (loop self)

/-! ## Values -/

/-- A value that gets a name. -/
def assignment : Reading Expression := do
  let _ ← name
  sign ":="
  let _ ← self .expression
  return .other .assignment

/-- An expression that no colon and equals sign follow. -/
def unnamed : Reading Expression := do
  let e ← self .expression
  absent (sign ":=")
  return e

/-- An expression that may get a name. -/
def named : Reading Expression :=
  firstOf [assignment self, self .misnamed, unnamed self]

/-- An expression to unpack. -/
def unpacked : Reading Expression := do
  sign "*"
  return .starred (← self .bitOr)

/-- An item of a tuple or a set. -/
def item : Reading Expression :=
  either (unpacked self) (named self)

/-- The items of a tuple or a set. -/
def items : Reading (List Expression) := do
  let es ← commas (item self)
  let _ ← optional (sign ",")
  return es

/-- What a function yields on the way. -/
def yielded : Reading Expression := do
  word "yield"
  firstOf [do word "from"; let _ ← self .expression, do let _ ← optional (starExpressions self)]
  return .other .yields

/-- The mistakes in what a loop yields. -/
def loopMistakes : Reading Expression :=
  mistake [
    blame .yieldUnpacked do
      either (sign "(") (sign "\x7b")
      sign "*"
      let _ ← self .expression
      loops self,
    blame .yieldSeveral do
      sign "\x7b"
      let _ ← item self
      sign ","
      let _ ← items self
      loops self,
    blame .yieldSeveral do
      sign "\x7b"
      let _ ← item self
      sign ","
      loops self]

/-- A tuple in brackets. -/
def tuple : Reading Expression := do
  sign "("
  let es ← optional (do
    let first ← item self
    sign ","
    return first :: (← optional (items self)).getD [])
  sign ")"
  return .tuple (es.getD [])

/-- An expression in brackets. -/
def group : Reading Expression :=
  firstOf [do
      sign "("
      let e ← either (yielded self) (named self)
      sign ")"
      return e,
    mistake [
      blame (.starred false) do sign "("; sign "*"; let _ ← self .expression; sign ")",
      blame (.starred true) do sign "("; sign "**"; let _ ← self .expression; sign ")"]]

/-- A loop in brackets. -/
def generator : Reading Expression :=
  firstOf [do
      sign "("
      let _ ← either (assignment self) (unnamed self)
      loops self
      sign ")"
      return .other .generator,
    loopMistakes self]

/-- A key and its value. -/
def pair : Reading Entry := do
  let key ← self .expression
  sign ":"
  return .pair key (← self .expression)

/-- An entry of a table. -/
def entry : Reading Entry :=
  firstOf [do sign "**"; return .all (← self .bitOr), pair self]

/-- The mistakes in the value of an entry. -/
def valueMistakes : List (Reading (Option Fault)) := [
  blame .starredValue do let _ ← self .expression; sign ":"; sign "*"; self .bitOr,
  blame .noValue do
    let _ ← self .expression
    sign ":"
    ahead (either (sign "\x7d") (sign ","))]

/-- The mistakes in the entries of a table, which are told before others are searched
for. -/
def entryMistakes : Reading Unit :=
  firstOf [
    do
      let _ ← commas (entry self)
      sign ","
      refuseBy (blame .noColon (do let _ ← self .expression; absent (sign ":"))
        :: valueMistakes self),
    refuseBy (valueMistakes self)]

/-- A table. -/
def table : Reading Expression :=
  firstOf [do
      sign "\x7b"
      let es ← optional (do
        let es ← commas (entry self)
        let _ ← optional (sign ",")
        return es)
      sign "\x7d"
      return .table (es.getD []),
    do sign "\x7b"; entryMistakes self; misses]

/-- A set. -/
def set : Reading Expression := do
  sign "\x7b"
  let es ← items self
  sign "\x7d"
  return .set es

/-- A table that a loop fills. -/
def tableLoop : Reading Expression :=
  firstOf [do
      sign "\x7b"
      let _ ← pair self
      loops self
      sign "\x7d"
      return .other .tableLoop,
    mistake [blame .yieldTable do
      sign "\x7b"
      sign "**"
      let _ ← self .bitOr
      loops self
      sign "\x7d"]]

/-- A set that a loop fills. -/
def setLoop : Reading Expression :=
  firstOf [do
      sign "\x7b"
      let _ ← named self
      loops self
      sign "\x7d"
      return .other .setLoop,
    loopMistakes self]

/-! ## Strings and numbers -/

/-- Checks strings that stand behind each other, and tells whether one is a template.
`isBytes` tells what the strings before them hold. -/
def joinStrings (inner : Text → Except Fault Unit) (isBytes : Option Bool) :
    List Token → Except Fault Bool
  | [] => .ok false
  | t :: rest => do
    let q := Quote.ofText t.text
    q.check.mapError .string
    if isBytes.any (· ≠ q.isBytes) then throw (.string .mixed)
    if q.isTemplate then
      let _ ← checkTemplate inner q.isRaw 0 (q.body.length + 1) q.body
    let later ← joinStrings inner (some q.isBytes) rest
    return q.isTemplate || later

/-- Strings. -/
def strings : Reading Expression := do
  let ts ← some1 (ofKind .string)
  fun s p =>
    match joinStrings s.inner none ts with
    | .ok true => .found (.other .template) p
    | .ok false => .found .string p
    | .error fault => .refused fault p

/-- A number. -/
def number : Reading Expression := do
  let t ← ofKind .number
  match Number.ofText t.text with
  | .ok n => return .number n
  | .error e => refuse (.numeral e)

/-- A word that stands for a value. -/
def valueWord (w : String) : Reading Expression := do
  word w
  return .word w.toList

/-- A single thing. -/
def atom : Reading Expression :=
  firstOf [do return .name (← name),
    valueWord "True", valueWord "False", valueWord "None",
    do let _ ← ahead (ofKind .string); self .strings,
    number,
    do ahead (sign "("); firstOf [tuple self, group self, generator self],
    do ahead (sign "\x7b"); firstOf [table self, set self, tableLoop self, setLoop self],
    do sign "..."; return .dots]

end TlaRunner.Console.Literal.Reading
