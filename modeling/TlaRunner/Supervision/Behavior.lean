import TlaRunner.Supervision.SystemError
import TlaRunner.Protocol.LineSplitter

/-!
# What processes do

A `Behavior` says what the machine makes of a command: that it cannot be started,
or what the process prints and how it ends.  Output is there from the start; its
end is seen when the process has ended or has closed it before.  An interrupt ends a
process at once, unless it is stubborn.
-/

namespace TlaRunner.Supervision

/-- How a process comes to its end when nobody interrupts it. -/
inductive Ending
  /-- It has ended as soon as it was started. -/
  | atOnce
  /-- It ends by itself after a time. -/
  | after (milliseconds : Nat)
  /-- It ends when it is told to. -/
  | onRequest
  /-- It ends when it is told to, however often it is interrupted. -/
  | stubborn
  deriving DecidableEq, Repr

/-- A process that was started. -/
structure Program where
  /-- What it prints, if its output can be read. -/
  output : Option Bytes
  /-- What it writes to its error stream, if that can be read. -/
  errors : Option Bytes
  /-- Its exit status when it is not interrupted. -/
  status : Int
  /-- How it ends when it is not interrupted. -/
  ending : Ending
  /-- Its exit status when it is interrupted. -/
  onInterrupt : Int
  /-- Whether an interrupt comes just too late, when the process has ended. -/
  gone : Bool
  deriving DecidableEq, Repr

/-- What the machine makes of a command. -/
inductive Behavior
  /-- The command cannot be started. -/
  | refused (reason : Text)
  | runs (program : Program)
  deriving DecidableEq, Repr

/-- The program that prints nothing and ends well. -/
def Program.quiet : Program :=
  ⟨some [], some [], 0, .atOnce, -2, false⟩

/-- Why a command cannot be started, given the name of an error or the reason. -/
def Behavior.refusal (name : Text) : Behavior :=
  .refused ((errorWording? name).getD name)

end TlaRunner.Supervision
