import TlaRunner.Diagnostic.Record
import TlaRunner.Settings.Field

/-!
# Checking findings

A finding that comes from outside is checked: first the start of its range, then the
end, then all the rest.  Only the issues of the first part that has any are told.
-/

namespace TlaRunner

/-- Checks a position, whose keys may stand beside others. -/
def Position.ofValue (v : Value) : Checked Position :=
  v.asTable.bind fun t =>
    ((t.field "line".toList Value.asNat).both (t.field "column".toList Value.asNat)).map
      fun (line, column) => ⟨line, column⟩

/-- Checks a position given as two numbers. -/
def Position.ofPair (line column : Value) : Checked Position :=
  Position.ofValue (.table [("line".toList, line), ("column".toList, column)])

/-- Checks a range given as four numbers. -/
def Range.ofValue : Value → Checked Range
  | .list [startLine, startColumn, stopLine, stopColumn] => do
    let start ← Position.ofPair startLine startColumn
    return ⟨start, ← Position.ofPair stopLine stopColumn⟩
  | _ => Checked.complain .listType

/-- Checks a finding. -/
def Diagnostic.Record.ofTable (t : Value.Table) : Checked Diagnostic.Record := do
  let range ← Range.ofValue ((t.get? "range".toList).getD .null)
  let (file, severity, text) ← (t.field "file".toList Value.asText).both <|
    (t.field "severity".toList (Value.asName Severity.ofName?)).both <|
    t.field "text".toList Value.asText
  return ⟨file, range, severity, text⟩

end TlaRunner
