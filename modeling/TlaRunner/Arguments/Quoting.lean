import TlaRunner.Text.Quoted

/-!
# Splitting option strings

An option string is cut at runs of separators outside quotes.  Single and double
quotes group characters and are removed; a quote closes only at its own kind.  A
pair of quotes with nothing inside is a token, the empty one.  No other character
is special, a backslash included, so that file names of every system survive.
Only the space, the tab, the carriage return and the line feed separate.

The one way to fail is a quote that is still open at the end.
-/

namespace TlaRunner.Arguments

/-- Whether a character separates tokens. -/
def isSeparator (c : Char) : Bool :=
  c = ' ' || c = '\t' || c = '\r' || c = '\n'

/-- Whether a character opens a quoted segment. -/
def isQuote (c : Char) : Bool :=
  c = '"' || c = '\''

/-- Where the splitter stands. -/
inductive Place
  /-- Between two tokens. -/
  | between
  /-- In a token, of which these characters were read, last first. -/
  | token (held : Text)
  /-- In a quoted segment of a token, closed by this quote. -/
  | quote (mark : Char) (held : Text)
  deriving DecidableEq, Repr

/-- The characters read of the current token, last first. -/
def Place.held : Place → Text
  | .between => []
  | .token held => held
  | .quote _ held => held

/-- The tokens from a place on, or nothing if a quote stays open. -/
def splitFrom : Place → Text → Option (List Text)
  | .between, [] => some []
  | .token held, [] => some [held.reverse]
  | .quote _ _, [] => none
  | .between, c :: s =>
    if isSeparator c then splitFrom .between s
    else if isQuote c then splitFrom (.quote c []) s
    else splitFrom (.token [c]) s
  | .token held, c :: s =>
    if isSeparator c then (splitFrom .between s).map (held.reverse :: ·)
    else if isQuote c then splitFrom (.quote c held) s
    else splitFrom (.token (c :: held)) s
  | .quote mark held, c :: s =>
    if c = mark then splitFrom (.token held) s
    else splitFrom (.quote mark (c :: held)) s

/-- An option string with a quote that is never closed. -/
structure OpenQuote where
  /-- The option string. -/
  options : Text
  deriving DecidableEq, Repr

/-- The wording of an open quote. -/
def OpenQuote.message (e : OpenQuote) : Text :=
  "Cannot split options ".toList ++ Text.quoted e.options ++ ": No closing quotation".toList

/-- The tokens of an option string. -/
def split (options : Text) : Except OpenQuote (List Text) :=
  match splitFrom .between options with
  | some tokens => .ok tokens
  | none => .error ⟨options⟩

/-- The tokens of several option strings in order.  The first open quote counts. -/
def splitAll : List Text → Except OpenQuote (List Text)
  | [] => .ok []
  | options :: rest => do
    let tokens ← split options
    return tokens ++ (← splitAll rest)

example : splitFrom .between "-x 'a b'\"c\" ''" = some ["-x".toList, "a bc".toList, []] := by
  decide

end TlaRunner.Arguments
