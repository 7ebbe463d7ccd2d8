import TlaRunner.Console.Literal.Rules

/-!
# Literal values

The arguments of an action are written as an expression, which has to be a literal value.

An expression is read, and read again in search of the common mistakes if it is missed.
What is then told is, first, a fault that keeps the rest of the text from being read at
all; then, an open bracket on a line before the place that was reached; then the mistake.
-/

namespace TlaRunner.Console

namespace Literal

/-- What is told about a text whose reading ended at a place with a fault. -/
def settle (t : Tokens) (p : Place) (fault : Fault) : Fault :=
  match fault, t.fault with
  | .token fault, _ => .token fault
  | .tooLarge, _ => .tooLarge
  | fault, none => fault
  | fault, some last =>
    let line := (t.tokens[min p.reached (t.tokens.length - 1)]?.map (·.line)).getD 1
    match last with
    | .unclosed _ opened => if opened < line then .token last else fault
    | _ => if last.rules then .token last else fault

/-- Reads a text. -/
def readText (entry : Reading Expression) (inner : Text → Except Fault Unit) (s : Text) :
    Except Fault Expression :=
  let t := tokensOf s
  let source : Source := ⟨t.tokens.toArray, t.fault, false, inner⟩
  match entry source ⟨0, 0, ∅⟩ with
  | .found e _ => .ok e
  | .refused fault p => .error (settle t p fault)
  | .missed p =>
    let fault (q : Place) : Fault :=
      if t.tokens[p.reached]?.any (·.kind = .indent) then .indented else settle t q .plain
    match entry { source with searching := true } ⟨0, p.reached, ∅⟩ with
    | .refused fault q => .error (settle t q fault)
    | .missed q | .found _ q => .error (fault q)

/-- Checks an expression in a template.  Each template takes characters of its own, so the
length of a text is enough `fuel`. -/
def checkInnerText : (fuel : Nat) → Text → Except Fault Unit
  | 0, _ => .error .tooLarge
  | fuel + 1, s => (readText Reading.inner (checkInnerText fuel) s).map fun _ => ()

/-- Reads an expression. -/
def Expression.ofText (s : Text) : Except Fault Expression :=
  readText Reading.whole (checkInnerText s.length) s

end Literal

/-- Why a text is no literal value. -/
inductive LiteralFault
  /-- It is no expression. -/
  | malformed (fault : Literal.Fault)
  /-- Reading it takes too much. -/
  | tooLarge
  /-- It holds a zero character. -/
  | zero
  /-- It is an expression without a literal value. -/
  | worthless (fault : Literal.ValueFault)
  deriving DecidableEq, Repr

/-- The wording of a missing literal value. -/
def LiteralFault.message : LiteralFault → Text
  | malformed fault => fault.message
  | tooLarge => []
  | zero => "source code string cannot contain null bytes".toList
  | worthless fault => fault.message

/-- Checks that a text is a literal value.  Its line ends may be of any kind. -/
def checkLiteral (s : Text) : Except LiteralFault Unit :=
  if s.contains '\x00' then .error .zero
  else
    let lines := Text.replace ['\r'] ['\n'] (Text.replace "\r\n".toList ['\n'] s)
    match Literal.Expression.ofText lines with
    | .error .tooLarge => .error .tooLarge
    | .error fault => .error (.malformed fault)
    | .ok e =>
      match e.worth with
      | .error fault => .error (.worthless fault)
      | .ok _ => .ok ()

end TlaRunner.Console
