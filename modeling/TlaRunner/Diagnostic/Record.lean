import TlaRunner.Severity
import TlaRunner.Source.Position

/-!
# Findings

A record is one finding of a tool about one range of one file.  Two records are
about the same finding when file, range and text agree; the severity does not
take part.
-/

namespace TlaRunner.Diagnostic

/-- One finding. -/
structure Record where
  /-- The file it is about. -/
  file : Text
  /-- The part of the file it is about. -/
  range : Range
  /-- How bad it is. -/
  severity : Severity
  /-- What it says. -/
  text : Text
  deriving DecidableEq, Repr

/-- What makes two records one finding. -/
structure Identity where
  /-- The file. -/
  file : Text
  /-- The range. -/
  range : Range
  /-- The text. -/
  text : Text
  deriving DecidableEq, Repr

/-- The identity of a record. -/
def Record.identity (r : Record) : Identity :=
  ⟨r.file, r.range, r.text⟩

end TlaRunner.Diagnostic
