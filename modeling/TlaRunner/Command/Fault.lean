import TlaRunner.Arguments.Quoting
import TlaRunner.Console.Markup
import TlaRunner.Settings.Sources
import TlaRunner.Workflow.Failure

/-!
# Faults of a command

Most faults are of a kind that the user can mend: files that are missing, settings
that are not valid, a tool that fails.  The command then says so in a message.
Any other fault breaks the command off without a message.
-/

namespace TlaRunner

/-- The message about a failure that the user can mend. -/
def Workflow.Failure.explanation? : Workflow.Failure → Option Text
  | .spec (.path _) => none
  | .spec (.nameless _) => none
  | .spec (.long _) => none
  | .spec (.zeroByte ..) => none
  | .java (.path _) => none
  | .java (.long _) => none
  | .java (.numeral _) => none
  | .command (.long _) => none
  | .command (.separator _) => none
  | .noOutput _ => none
  | .nameless _ => none
  | .saver _ => none
  | .output _ => none
  | .client _ => none
  | .cancelled => none
  | failure => some failure.message

/-- How many settings of a place are not valid. -/
def countText (issues : List Issue) : Text :=
  Text.ofNat issues.length ++ " validation error".toList
    ++ (if issues.length = 1 then [] else ['s']) ++ " for Config".toList

/-- The message about settings that the user can mend. -/
def SettingsFault.explanation? : SettingsFault → Option Text
  | .invalid origin issues =>
    some ((invalid origin issues).message ++ ": ".toList ++ countText issues)
  | .malformed origin => some (malformed origin).message
  | .long _ => none
  | .undecodable _ => none
  | .numeral _ => none

namespace Command

/-- Why a command is not carried out. -/
inductive Fault
  /-- The file to parse is no module. -/
  | foreignModule (name : Text)
  /-- There are no settings. -/
  | settings (fault : SettingsFault)
  /-- Options of the model checker cannot be split. -/
  | options (error : Arguments.OpenQuote)
  /-- The run has no result. -/
  | run (failure : Workflow.Failure)
  /-- A text cannot be shown. -/
  | markup (fault : Console.MarkupFault)
  /-- The path of the tools archive is too long. -/
  | long (error : Files.LongPath)
  /-- The size of the screen is not known. -/
  | screen (error : Text.NumeralError)
  deriving DecidableEq, Repr

/-- The message about a fault that the user can mend. -/
def Fault.explanation? : Fault → Option Text
  | foreignModule name => some (name ++ " is not a .tla module".toList)
  | settings fault => fault.explanation?
  | options error => some error.message
  | run failure => failure.explanation?
  | markup _ => none
  | long _ => none
  | screen _ => none

end Command

end TlaRunner
