import TlaRunner.Console.Literal.Single

/-!
# Calls and targets

The rules for calls and members of single things, and for the targets of loops.  Among
the arguments of a call those without names come first, then those with names and those
to unpack, then tables of arguments.
-/

namespace TlaRunner.Console.Literal.Reading

variable (self : Rule → Reading Expression)

/-! ## Arguments -/

/-- What kinds of arguments a call has. -/
structure Given where
  /-- The number of arguments without a name. -/
  unnamed : Nat
  /-- Whether there is a table of arguments. -/
  hasTable : Bool

/-- An argument with a name, or one to unpack. -/
inductive Named
  | named | unpacked | table
  deriving DecidableEq

/-- The mistakes in an argument with a name. -/
def nameMistakes : Reading Named :=
  mistake [
    firstOf (["True", "False", "None"].map fun w =>
      blame (.target w.toList) do word w; sign "="),
    blame .equals do let _ ← name; sign "="; let _ ← self .expression; loops self,
    blame .argumentName do absent (do let _ ← name; sign "="); let _ ← self .expression; sign "="]

/-- An argument with a name. -/
def namedArgument : Reading Named := do
  let _ ← name
  sign "="
  let _ ← self .expression
  return .named

/-- An argument to unpack. -/
def unpackedArgument : Reading Named := do
  sign "*"
  let _ ← self .expression
  return .unpacked

/-- Arguments with names. -/
def namedArguments : Reading (List Named) :=
  let early := firstOf [nameMistakes self, namedArgument self, unpackedArgument self]
  let late := firstOf [nameMistakes self, namedArgument self,
    do sign "**"; let _ ← self .expression; return .table]
  firstOf [do
      let early ← commas early
      sign ","
      return early ++ (← commas late),
    commas early, commas late]

/-- What arguments with names add. -/
def Given.addNamed (g : Given) (ns : List Named) : Given :=
  ⟨g.unnamed + ns.count .unpacked, g.hasTable || ns.contains .table⟩

/-- Arguments. -/
def givenArguments : Reading Given :=
  firstOf [do
      let first ← commas (firstOf [do let _ ← unpackedArgument self, do
        let _ ← either (assignment self) (unnamed self)
        absent (sign "=")])
      let more ← optional (do sign ","; namedArguments self)
      return Given.addNamed ⟨first.length, false⟩ (more.getD []),
    do return Given.addNamed ⟨0, false⟩ (← namedArguments self)]

/-- Arguments up to the bracket behind them. -/
def arguments : Reading Expression :=
  firstOf [do
      let _ ← givenArguments self
      let _ ← optional (sign ",")
      ahead (sign ")")
      return .tuple [],
    mistake [
      blame .unpackedLate do let _ ← givenArguments self; sign ","; sign "*",
      blame .bareLoop do
        let _ ← self .expression
        loops self
        sign ","
        optional (firstOf [do let _ ← givenArguments self, do
          let _ ← self .expression
          loops self]),
      blame .equals do let _ ← name; sign "="; let _ ← self .expression; loops self,
      do
        let g ← givenArguments self
        loops self
        return if g.unnamed ≤ 1 then none else some .bareLoop,
      blame .bareLoop do
        let _ ← givenArguments self
        sign ","
        let _ ← self .expression
        loops self,
      do
        let g ← givenArguments self
        sign ","
        let _ ← givenArguments self
        return some (.unnamedLate g.hasTable)]]

/-- The arguments of a call in their brackets: whether there are none. -/
def callArguments : Reading Bool := do
  sign "("
  let given ← optional (self .arguments)
  sign ")"
  return given.isNone

/-- A member of something, or a call of it. -/
def trailer (owner : Expression) : Reading Expression :=
  firstOf [do sign "."; let _ ← name; return .other .member,
    do let _ ← generator self; return .call owner false,
    do return .call owner (← callArguments self)]

/-- Something with members and calls of it. -/
def primary : Reading Expression := do
  grow (← atom self) (trailer self)

/-! ## Targets -/

/-- Whether something follows that belongs to what stands before it. -/
def trailerAhead : Reading Unit :=
  ahead (either (sign "(") (sign "."))

/-- What the member that is a target belongs to. -/
def targetOwner : Reading Expression := do
  let first ← atom self
  trailerAhead
  grow first fun owner => do
    let e ← trailer self owner
    trailerAhead
    return e

/-- A target without a star. -/
def plainTarget : Reading Expression :=
  firstOf [do
      let _ ← self .targetOwner
      sign "."
      let _ ← name
      absent trailerAhead
      return .other .member,
    do return .name (← name),
    do sign "("; let e ← self .plainTarget; sign ")"; return e,
    do
      sign "("
      let es ← optional (firstOf [do
          let first ← self .target
          let more ← some1 (do sign ","; self .target)
          let _ ← optional (sign ",")
          return first :: more,
        do
          let first ← self .target
          sign ","
          return [first]])
      sign ")"
      return .tuple (es.getD [])]

/-- A target. -/
def target : Reading Expression :=
  either (do sign "*"; absent (sign "*"); self .target) (self .plainTarget)

end TlaRunner.Console.Literal.Reading
