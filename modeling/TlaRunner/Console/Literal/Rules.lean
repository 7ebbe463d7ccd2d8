import TlaRunner.Console.Literal.Call
import TlaRunner.Console.Literal.Parameter

/-!
# The rules of expressions

`body` says what a rule stands for, given a reading for each rule, and `read` ties the
knot.  From the loosest to the tightest, an expression is a condition, a function, a
combination by `or`, `and` or `not`, a comparison, a combination by signs, a power, a call
or a member, or a single thing.

The mistakes among the alternatives are only read in the search for mistakes, but for
those in tables.  Where a mistake stands among them decides which of several is told.
-/

namespace TlaRunner.Console.Literal.Reading

variable (self : Rule → Reading Expression)

/-- Reads operands from the left with signs between them. -/
def chain (join : Expression → Expression → Expression) (operand : Reading Expression)
    (signs : List String) : Reading Expression := do
  grow (← operand) fun left => do
    firstOf (signs.map sign)
    return join left (← operand)

/-- Reads operands from the left with signs between them that make no value. -/
def signChain : Reading Expression → List String → Reading Expression :=
  chain fun _ _ => .other .operation

/-- Reads operands with a word between them. -/
def wordChain (operand : Reading Expression) (w : String) : Reading Expression := do
  let first ← operand
  match ← many (do word w; operand) with
  | [] => return first
  | _ => return .other .operation

/-! ## Combinations -/

/-- The sign or the words of a comparison, and whether they ask what something holds. -/
def comparer : Reading Bool :=
  let plain (r : Reading Unit) : Reading Bool := do r; return false
  firstOf [plain (sign "=="), plain (sign "!="), plain (sign "<="), plain (sign "<"),
    plain (sign ">="), plain (sign ">"), plain (do word "not"; word "in"),
    do word "in"; return true,
    plain (do word "is"; let _ ← optional (word "not"))]

/-- A comparison. -/
def comparison : Reading Expression := do
  let left ← self .bitOr
  match ← many (do let asks ← comparer; let _ ← self .bitOr; return asks) with
  | [] => return left
  | true :: _ => return .inclusion left
  | false :: _ => return .other .comparison

/-- A condition. -/
def condition : Reading Expression := do
  let _ ← self .disjunction
  word "if"
  let _ ← self .disjunction
  word "else"
  let _ ← self .expression
  return .other .conditional

/-- The procedures that were once called without brackets. -/
def oldProcedures : List Text := ["print".toList, "exec".toList]

/-- The names that may be words. -/
def softWords : List Text := ["_".toList, "case".toList, "match".toList]

/-- A name that may be a word, as far as it is written. -/
def softWord : Reading Unit := do
  let n ← name
  if softWords.any (Text.startsWith n) then pure () else misses

/-- The mistakes in an expression. -/
def expressionMistakes : Reading Expression :=
  firstOf [
    mistake [
      do
        absent (either (do let _ ← name; let _ ← ofKind .string) softWord)
        let first ← self .disjunction
        let _ ← withoutSearch (firstOf [condition self, self .disjunction, lambda self])
        let procedure := match first with
          | .name n => oldProcedures.contains n
          | _ => false
        return if procedure || (← depth) = 0 then none else some .noComma,
      blame .noElse do
        let _ ← self .disjunction
        word "if"
        let _ ← self .disjunction
        absent (either (word "else") (sign ":"))],
    mistake [do
      let n ← name
      absent (sign "(")
      let _ ← starExpressions self
      return if oldProcedures.contains n then some (.bareCall n) else none]]

/-- The mistakes in an expression that may get a name. -/
def misnamed : Reading Expression :=
  mistake [
    do
      let e ← self .expression
      sign ":="
      let _ ← self .expression
      return some (.named e.describe),
    blame .equals do
      let _ ← name
      sign "="
      let _ ← self .bitOr
      absent (either (sign "=") (sign ":=")),
    do
      absent (firstOf [do let _ ← tuple self, do let _ ← generator self, word "True",
        word "None", word "False"])
      let e ← self .bitOr
      sign "="
      let _ ← self .bitOr
      absent (either (sign "=") (sign ":="))
      return some (.equalsAfter e.describe)]

/-- What a rule stands for. -/
def body : Rule → Reading Expression
  | .expression =>
    firstOf [expressionMistakes self, condition self, self .disjunction, lambda self]
  | .starExpression => either (unpacked self) (self .expression)
  | .misnamed => misnamed self
  | .disjunction => wordChain (self .conjunction) "or"
  | .conjunction => wordChain (self .inversion) "and"
  | .inversion =>
    either (do word "not"; let _ ← self .inversion; return .other .operation) (comparison self)
  | .bitOr => signChain (self .bitXor) ["|"]
  | .bitXor => signChain (self .bitAnd) ["^"]
  | .bitAnd => signChain (self .shift) ["&"]
  | .shift => signChain (self .sum) ["<<", ">>"]
  | .sum => chain .sum (self .term) ["+", "-"]
  | .term => signChain (self .factor) ["*", "/", "//", "%", "@"]
  | .factor =>
    firstOf [do sign "+"; return .signed (← self .factor),
      do sign "-"; return .signed (← self .factor),
      do sign "~"; let _ ← self .factor; return .other .operation,
      do
        let left ← self .awaited
        match ← optional (do sign "**"; self .factor) with
        | some _ => return .other .operation
        | none => return left]
  | .awaited =>
    either (do word "await"; let _ ← self .primary; return .other .awaited) (self .primary)
  | .primary => primary self
  | .strings => strings
  | .arguments => arguments self
  | .target => target self
  | .plainTarget => plainTarget self
  | .targetOwner => targetOwner self

/-- Reads a rule.  Rules lead to rules no deeper than `fuel`. -/
def read : (fuel : Nat) → Rule → Reading Expression
  | 0, _ => refuse .tooLarge
  | fuel + 1, rule => keep rule (body (read fuel) rule)

/-- The deepest that rules may lead to rules. -/
def depthOfRules : Nat := 6000

/-- A whole expression. -/
def whole : Reading Expression := do
  let e ← (do
    let first ← read depthOfRules .expression
    let more ← many (do sign ","; read depthOfRules .expression)
    match ← optional (sign ","), more with
    | none, [] => return first
    | _, more => return .tuple (first :: more))
  let _ ← many (ofKind .lineEnd)
  let _ ← ofKind .stop
  return e

/-- An expression in a template. -/
def inner : Reading Expression :=
  starExpressions (read depthOfRules)

end TlaRunner.Console.Literal.Reading
