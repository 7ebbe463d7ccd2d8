import TlaRunner.Diagnostic.Collection
import TlaRunner.Report.Condition
import TlaRunner.Tool.Kind

/-!
# Reports of the transpiler and the analyzer
-/

namespace TlaRunner

/-- What a run of the transpiler or the analyzer said. -/
structure ParseReport where
  /-- The tool. -/
  tool : Tool
  /-- The findings by file. -/
  diagnostics : Diagnostic.Mapping
  /-- The modules that were read and their files, in order of first mention. -/
  modules : List (Text × Text)
  /-- The stream anomalies. -/
  conditions : List Condition
  deriving DecidableEq, Repr

/-- Whether the output ended inside a message. -/
def ParseReport.truncated (r : ParseReport) : Bool :=
  Condition.anyTruncated r.conditions

end TlaRunner
