import TlaRunner.Decimal.Binary64
import TlaRunner.Path

/-!
# Values of settings

Settings come from files, from the environment and from the command line, and
are checked only after they were read.  Until then a setting is a value of no
particular type.  Paths come from the command line alone, for no file can hold one.
A table keeps the order in which its keys were first written.
-/

namespace TlaRunner

/-- A setting before it is checked. -/
inductive Value
  /-- No value. -/
  | null
  | bool (b : Bool)
  | int (n : Int)
  | float (x : Decimal.Double)
  | text (s : Text)
  /-- A date, a time or both, as text. -/
  | moment (s : Text)
  | path (p : Path)
  | list (items : List Value)
  | table (entries : List (Text × Value))
  deriving Repr

namespace Value

/-- Keys with their values, in order. -/
abbrev Table := List (Text × Value)

/-- The value of a key. -/
def Table.get? (t : Table) (key : Text) : Option Value :=
  (t.find? (·.1 = key)).map (·.2)

/-- Sets a key, which keeps its place if it is there. -/
def Table.set (t : Table) (key : Text) (value : Value) : Table :=
  match t with
  | [] => [(key, value)]
  | (k, v) :: rest => if k = key then (k, value) :: rest else (k, v) :: Table.set rest key value

/-- Sets the keys of another table, in order. -/
def Table.update (t other : Table) : Table :=
  other.foldl (fun t entry => t.set entry.1 entry.2) t

/-- The value of a key, if the value is a table that has it. -/
def get? : Value → Text → Option Value
  | .table entries, key => Table.get? entries key
  | _, _ => none

end Value

end TlaRunner
