import TlaRunner.Console.Literal.Fault
import TlaRunner.Text.Quoted

/-!
# Expressions

An expression is kept as far as its value and the words for it depend on it.  A literal
value is a number, perhaps with a sign or an imaginary part, a string, one of the words
`None`, `True` and `False`, three dots, or a tuple, set or table of such values.

What a set holds, and the keys of a table, must be values that do not change.  Sets and
tables are none, and neither is a tuple that holds one.
-/

namespace TlaRunner.Console.Literal

/-- The forms of expressions that are no literal values. -/
inductive Form
  | member | lambda | operation | comparison | generator | yields | awaited | setLoop
  | tableLoop | template | conditional | assignment
  deriving DecidableEq, Repr

/-- The words for a form. -/
def Form.name : Form → Text
  | member => "attribute".toList
  | lambda => "lambda".toList
  | operation => "expression".toList
  | comparison => "comparison".toList
  | generator => "generator expression".toList
  | yields => "yield expression".toList
  | awaited => "await expression".toList
  | setLoop => "set comprehension".toList
  | tableLoop => "dict comprehension".toList
  | template => "f-string expression".toList
  | conditional => "conditional expression".toList
  | assignment => "named expression".toList

mutual

/-- An expression. -/
inductive Expression
  | name (name : Text)
  /-- One of the words that stand for a value. -/
  | word (word : Text)
  | dots
  | number (number : Number)
  | string
  | tuple (items : List Expression)
  | set (items : List Expression)
  | table (entries : List Entry)
  /-- A call, which may be without arguments. -/
  | call (callee : Expression) (isBare : Bool)
  /-- An expression with a plus or minus before it. -/
  | signed (operand : Expression)
  /-- A sum or a difference. -/
  | sum (left right : Expression)
  /-- A comparison that starts by asking whether something holds its left side. -/
  | inclusion (left : Expression)
  | starred (operand : Expression)
  | other (form : Form)

/-- An entry of a table. -/
inductive Entry
  | pair (key value : Expression)
  /-- All entries of another table. -/
  | all (table : Expression)

end

namespace Expression

/-- The words for an expression. -/
def describe : Expression → Text
  | name _ => "name".toList
  | word w => w
  | dots => "ellipsis".toList
  | number _ | string => "literal".toList
  | tuple _ => "tuple".toList
  | set _ => "set display".toList
  | table _ => "dict literal".toList
  | call .. => "function call".toList
  | signed _ | sum .. => Form.operation.name
  | inclusion _ => Form.comparison.name
  | starred _ => "starred".toList
  | other form => form.name

mutual

/-- The part of the target of a loop that cannot be assigned to. -/
def fixedPart? : Expression → Option Expression
  | name _ | other .member | other .comparison => none
  | tuple items => fixedPartOf? items
  | starred operand => operand.fixedPart?
  | inclusion left => left.fixedPart?
  | e => some e

/-- The first such part in a list. -/
def fixedPartOf? : List Expression → Option Expression
  | [] => none
  | e :: items => e.fixedPart?.or (fixedPartOf? items)

end

end Expression

/-! ## Values -/

/-- Why an expression has no literal value. -/
inductive ValueFault
  /-- It has another form. -/
  | form
  /-- It takes in the entries of another table. -/
  | table
  /-- It holds what changes where this is not allowed. -/
  | changing (kind : Text)
  /-- It adds an imaginary part to an integer that is too large. -/
  | overflow
  deriving DecidableEq, Repr

/-- The wording of a missing value. -/
def ValueFault.message : ValueFault → Text
  | form => "malformed node or string".toList
  | table => "malformed node or string: None".toList
  | changing kind => "unhashable type: ".toList ++ Text.quoted kind
  | overflow => "int too large to convert to float".toList

/-- The least integer that is too large to be a fraction: it lies half a step above the
largest one of these. -/
def fractionLimit : Nat :=
  (1 <<< 1024) - (1 <<< 970)

/-- A literal value, as far as it matters: the kind of the first part of it that may
change, if there is one. -/
abbrev Worth := Option Text

/-- Refuses what may change. -/
def Worth.keep : Worth → Except ValueFault Unit
  | some kind => .error (.changing kind)
  | none => .ok ()

namespace Expression

/-- The number that an expression is, with or without a sign. -/
def number? : Expression → Option Number
  | number n | signed (number n) => some n
  | _ => none

mutual

/-- Finds the literal value of an expression. -/
def worth : Expression → Except ValueFault Worth
  | word _ | dots | number _ | string => .ok none
  | tuple items => worthOf items
  | set items => do
    keepAll items
    return some "set".toList
  | table entries => do
    keepKeys entries
    return some "dict".toList
  | call (name callee) true =>
    if callee = "set".toList then .ok (some callee) else .error .form
  | signed (number _) => .ok none
  | sum left (number .imaginary) =>
    match left.number? with
    | some (.whole n) => if fractionLimit ≤ n then .error .overflow else .ok none
    | some .real => .ok none
    | _ => .error .form
  | _ => .error .form

/-- Finds the values of expressions. -/
def worthOf : List Expression → Except ValueFault Worth
  | [] => .ok none
  | e :: items => do
    let first ← e.worth
    return first.or (← worthOf items)

/-- Finds the values of expressions that must not change. -/
def keepAll : List Expression → Except ValueFault Unit
  | [] => .ok ()
  | e :: items => do
    (← e.worth).keep
    keepAll items

/-- Finds the values of entries, whose keys must not change. -/
def keepKeys : List Entry → Except ValueFault Unit
  | [] => .ok ()
  | .all _ :: _ => .error .table
  | .pair key value :: entries => do
    let key ← key.worth
    let _ ← value.worth
    key.keep
    keepKeys entries

end

end Expression

end TlaRunner.Console.Literal
