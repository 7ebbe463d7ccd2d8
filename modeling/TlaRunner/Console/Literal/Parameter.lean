import TlaRunner.Console.Literal.Single

/-!
# Functions

The rules for functions without a name.  Their parameters come in groups: those up to a
slash, those up to a star, those behind it, and one behind two stars.  A parameter with a
default is followed only by such ones, as far as the star.
-/

namespace TlaRunner.Console.Literal.Reading

variable (self : Rule → Reading Expression)

/-! ## Functions -/

/-- A parameter that has to have no default, or has to have one. -/
def parameter (default : Reading Unit) : Reading Unit := do
  let _ ← name
  default
  either (sign ",") (ahead (sign ":"))

/-- A default. -/
def default : Reading Unit :=
  firstOf [do sign "="; let _ ← self .expression,
    mistake [blame (.parameters .emptyDefault) do
      sign "="
      ahead (either (sign ")") (sign ","))]]

/-- A parameter without a default. -/
def required : Reading Unit :=
  parameter (pure ())

/-- A parameter with a default. -/
def defaulted : Reading Unit :=
  parameter (default self)

/-- A parameter with or without a default. -/
def anyParameter : Reading Unit :=
  parameter (do let _ ← optional (default self))

/-- A slash and what follows it. -/
def slash : Reading Unit := do
  sign "/"
  either (sign ",") (ahead (sign ":"))

/-- Parameters without defaults up to a slash. -/
def requiredSlash : Reading Unit := do
  let _ ← some1 required
  slash

/-- Parameters up to a slash, the last one with a default. -/
def defaultedSlash : Reading Unit := do
  let _ ← many required
  let _ ← some1 (defaulted self)
  slash

/-- The parameter behind two stars. -/
def lastParameter : Reading Unit :=
  firstOf [
    mistake [
      blame (.parameters .lastDefault) do sign "**"; let _ ← name; sign "=",
      blame (.parameters .afterLast) do sign "**"; let _ ← name; sign ","; name,
      blame (.parameters .afterLast) do
        sign "**"
        let _ ← name
        sign ","
        firstOf [sign "*", sign "**", sign "/"]],
    do sign "**"; required]

/-- Parameters from a star on. -/
def starParameters : Reading Unit :=
  firstOf [
    mistake [
      blame (.parameters .bareStar) do
        sign "*"
        firstOf [sign ":", do sign ","; either (sign ":") (sign "**")],
      blame (.parameters .starDefault) do sign "*"; let _ ← name; sign "=",
      blame (.parameters .starTwice) do
        sign "*"
        either required (sign ",")
        let _ ← many (anyParameter self)
        sign "*"
        either required (sign ",")],
    do
      sign "*"
      required
      let _ ← many (anyParameter self)
      let _ ← optional (lastParameter),
    do
      sign "*"
      sign ","
      let _ ← some1 (anyParameter self)
      let _ ← optional (lastParameter),
    lastParameter]

/-- The mistakes in parameters. -/
def parameterMistakes : Reading Unit :=
  let slashed := either requiredSlash (defaultedSlash self)
  mistake [
    blame (.parameters .needsDefault) do
      let _ ← many required
      either (defaultedSlash self) (do let _ ← some1 (defaulted self))
      required,
    blame (.parameters .bracketed) do
      let _ ← many required
      sign "("
      let _ ← commas name
      let _ ← optional (sign ",")
      sign ")",
    blame (.parameters .firstSlash) do sign "/"; sign ",",
    blame (.parameters .slashTwice) do
      slashed
      let _ ← many (anyParameter self)
      sign "/",
    blame (.parameters .slashAfterStar) do
      let _ ← optional slashed
      let _ ← many (anyParameter self)
      sign "*"
      either (sign ",") required
      let _ ← many (anyParameter self)
      sign "/",
    blame (.parameters .starAtSlash) do
      let _ ← some1 (anyParameter self)
      sign "/"
      sign "*"]

/-- Parameters. -/
def parameters : Reading Unit :=
  let ending : Reading Unit := do let _ ← optional (starParameters self)
  firstOf [parameterMistakes self,
    do requiredSlash; let _ ← many required; let _ ← many (defaulted self); ending,
    do defaultedSlash self; let _ ← many (defaulted self); ending,
    do let _ ← some1 required; let _ ← many (defaulted self); ending,
    do let _ ← some1 (defaulted self); ending,
    starParameters self]

/-- A function. -/
def lambda : Reading Expression := do
  word "lambda"
  let _ ← optional (parameters self)
  sign ":"
  let _ ← self .expression
  return .other .lambda

end TlaRunner.Console.Literal.Reading
