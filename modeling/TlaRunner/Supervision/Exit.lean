import TlaRunner.Text.Basic

/-!
# How processes end

A tool reports what it found through a small exit status: zero means that all went
well, one to nine that the tool found something, and every other status that the
tool itself failed.  A status below zero stands for a signal.  A run that was
interrupted on request never counts as a failure.
-/

namespace TlaRunner.Supervision

/-- What an exit status means. -/
inductive ExitCategory
  | success
  /-- The tool has something to report. -/
  | toolReported
  /-- The tool failed. -/
  | toolingFailure
  deriving DecidableEq, Repr

namespace ExitCategory

/-- The name of a category. -/
def name : ExitCategory → Text
  | success => "success".toList
  | toolReported => "tool_reported".toList
  | toolingFailure => "tooling_failure".toList

/-- The least status that means a failure. -/
def leastFailure : Int := 10

/-- The category of an exit status. -/
def ofStatus (status : Int) : ExitCategory :=
  if status = 0 then success
  else if 0 < status ∧ status < leastFailure then toolReported
  else toolingFailure

end ExitCategory

/-- A tool failed. -/
structure ToolFailure where
  /-- The tool. -/
  tool : Text
  /-- Its exit status. -/
  status : Int
  /-- What it wrote to its error stream. -/
  errors : List Text
  deriving DecidableEq, Repr

/-- The wording of a tool's failure. -/
def ToolFailure.message (f : ToolFailure) : Text :=
  let details := Text.join ['\n'] f.errors
  "Error running ".toList ++ f.tool ++ " (exit code ".toList ++ Text.ofInt f.status ++ [')']
    ++ (if details.isEmpty then [] else '\n' :: details)

/-- How a process ended. -/
structure Exit where
  /-- Its exit status. -/
  status : Int
  /-- The lines it wrote to its error stream. -/
  errors : List Text
  /-- Whether it was interrupted on request. -/
  cancelled : Bool
  deriving DecidableEq, Repr

namespace Exit

/-- What the exit status means. -/
def category (e : Exit) : ExitCategory :=
  .ofStatus e.status

/-- The failure of a tool that ended like this. -/
def failure? (e : Exit) (tool : Text) : Option ToolFailure :=
  if e.cancelled then none
  else
    match e.category with
    | .toolingFailure => some ⟨tool, e.status, e.errors⟩
    | _ => none

end Exit

end TlaRunner.Supervision
