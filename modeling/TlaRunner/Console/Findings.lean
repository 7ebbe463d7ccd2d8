import TlaRunner.Console.Screen
import TlaRunner.Diagnostic.Collection

/-!
# Tables of findings

Findings are listed in a table: the worst severity first, then by file and by line;
findings that agree in all of these keep their order.  Files and texts are styled
text.
-/

namespace TlaRunner.Console

open Diagnostic (Mapping Record)

/-- The place of a finding, counted from one. -/
def locationText (r : Record) : Text :=
  r.file ++ ':' :: Text.ofNat (r.range.start.line + 1) ++ ':' ::
    Text.ofNat (r.range.start.column + 1)

/-- Whether a finding may stand above another one. -/
def listedBefore (a b : Record) : Bool :=
  if a.severity.rank ≠ b.severity.rank then b.severity.rank < a.severity.rank
  else if a.file ≠ b.file then Text.le a.file b.file
  else a.range.start.line ≤ b.range.start.line

/-- The findings in the order in which they are listed. -/
def listed (m : Mapping) : List Record :=
  m.records.mergeSort listedBefore

/-- The columns of the table. -/
def findingColumns : List Column :=
  [⟨"Location".toList, ⟨false, .ellipsis, .left⟩⟩, ⟨"Severity".toList, ⟨false, .ellipsis, .left⟩⟩,
    ⟨"Message".toList, ⟨true, .fold, .left⟩⟩]

/-- The table of findings. -/
def findingTable (records : List Record) : Table :=
  ⟨findingColumns, true, false, records.map fun r =>
    [Cell.ofMarkup (locationText r), Cell.plain r.severity.name, Cell.ofMarkup r.text]⟩

/-- The lines that list findings; without findings there are none. -/
def findingLines (screen : Screen) (m : Mapping) : Except MarkupFault (List Text) :=
  let records := listed m
  if records.isEmpty then .ok [] else screen.table (findingTable records)

/-- What listing findings leads to. -/
structure Listing where
  /-- The lines. -/
  lines : List Text
  /-- How many findings are listed. -/
  count : Nat
  deriving DecidableEq, Repr

/-- Lists findings and counts them. -/
def listing (screen : Screen) (m : Mapping) : Except MarkupFault Listing :=
  (findingLines screen m).map fun lines => ⟨lines, (listed m).length⟩

end TlaRunner.Console
