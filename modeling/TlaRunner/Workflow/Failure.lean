import TlaRunner.Arguments.Command
import TlaRunner.Files.Saver
import TlaRunner.Java.Cache
import TlaRunner.Supervision.Child
import TlaRunner.Protocol.Event
import TlaRunner.Workflow.Slot

/-!
# Failures of a run

Everything that may end a run without a result.
-/

namespace TlaRunner.Workflow

/-- Why a run has no result. -/
inductive Failure
  /-- Another check holds the slot. -/
  | busy (error : Busy)
  /-- There are no files to work on. -/
  | spec (fault : Files.SpecFault)
  /-- Java cannot be used. -/
  | java (fault : Java.Fault)
  /-- There is no command line. -/
  | command (fault : Arguments.CommandFault)
  /-- The process did not start. -/
  | start (failure : Supervision.StartFailure)
  /-- The output cannot be read. -/
  | noOutput (error : Supervision.NoOutput)
  /-- There is no file for the output. -/
  | nameless (error : NamelessPath)
  /-- The output cannot be saved. -/
  | saver (fault : Files.SaverFault)
  /-- The output cannot be decoded. -/
  | output (fault : Protocol.Fault)
  /-- The tool failed. -/
  | tool (failure : Supervision.ToolFailure)
  /-- The client of the debugger failed, or one that is told what the tool prints. -/
  | client (reason : Text)
  /-- Whoever asked for the run gave it up. -/
  | cancelled
  deriving DecidableEq, Repr

/-- The wording of a failure. -/
def Failure.message : Failure → Text
  | busy error => error.message
  | spec fault => fault.message
  | java fault => fault.message
  | command fault => fault.message
  | start failure => failure.message
  | noOutput error => error.message
  | nameless error => error.message
  | saver fault => fault.message
  | output fault => fault.message
  | tool failure => failure.message
  | client reason => reason
  | cancelled => []

end TlaRunner.Workflow
