import TlaRunner.Text.Numeral

/-!
# Positions in a source file

Tools count lines and columns from one and name the last column of a span.
Findings count from zero and end a range behind its last column.  `Range.ofTool`
goes from the first to the second; a coordinate below the first is moved to the
first.
-/

namespace TlaRunner

/-- A place in a source file, counted from zero. -/
structure Position where
  /-- The line. -/
  line : Nat
  /-- The column. -/
  column : Nat
  deriving DecidableEq, Repr

/-- A part of a source file, without the position at its end. -/
structure Range where
  /-- The first position. -/
  start : Position
  /-- The position behind the last one. -/
  stop : Position
  deriving DecidableEq, Repr

namespace Range

/-- The empty range at the front of a file. -/
def fileStart : Range := ⟨⟨0, 0⟩, ⟨0, 0⟩⟩

/-- The empty range at a place a tool reports. -/
def ofToolPoint (line column : Int) : Range :=
  let start : Position := ⟨(line - 1).toNat, (column - 1).toNat⟩
  ⟨start, start⟩

/-- The range of a span a tool reports, whose end column belongs to it. -/
def ofToolSpan (line column endLine endColumn : Int) : Range :=
  ⟨⟨(line - 1).toNat, (column - 1).toNat⟩, ⟨(endLine - 1).toNat, endColumn.toNat⟩⟩

/-- The range a tool reports.  Without both end coordinates it is a point. -/
def ofTool (line column : Int) : Option Int → Option Int → Range
  | some endLine, some endColumn => ofToolSpan line column endLine endColumn
  | _, _ => ofToolPoint line column

end Range

end TlaRunner
