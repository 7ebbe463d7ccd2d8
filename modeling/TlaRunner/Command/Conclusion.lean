import TlaRunner.Command.Fault
import TlaRunner.Console.Message
import TlaRunner.Console.Progress
import TlaRunner.Console.Summary
import TlaRunner.Workflow.Schedule

/-!
# How a command ends

A command ends with an exit status and the lines it has printed.  While tools run,
their output is printed if that was asked for, the phases of a check are announced,
and warnings are told as they come up.
-/

namespace TlaRunner.Command

open Console (Printed Screen Tone announce)
open Protocol (Emission)
open Workflow (Bench Notice)

/-! ## Exit statuses -/

/-- The exit status when findings or a stop are the reason. -/
def findingsStatus : Nat := 1

/-- The exit status when the tools or the settings are the reason. -/
def toolingStatus : Nat := 2

/-- The exit status of a check with an outcome. -/
def statusOf : Outcome → Nat
  | .success => 0
  | .fatal => toolingStatus
  | _ => findingsStatus

/-! ## Lines -/

/-- How a command speaks. -/
structure Voice where
  /-- Where it prints its messages. -/
  messages : Screen
  /-- Where it prints what the tools tell. -/
  pages : Screen
  /-- Whether its messages have marks. -/
  marked : Bool
  deriving DecidableEq, Repr

/-- The lines of a message. -/
def Voice.say (v : Voice) (tone : Tone) (s : Text) : List Text :=
  v.messages.message v.marked tone s

/-- What is printed of the things that runs tell. -/
structure Attention where
  /-- Whether the output of the tools is printed. -/
  echoes : Bool
  /-- Whether phases are announced. -/
  announces : Bool
  deriving DecidableEq, Repr

/-- The message about the port a debugger may attach to. -/
def listeningText (port : Int) : Text :=
  "TLC debugger listening on localhost:".toList ++ Text.ofInt port

/-- The lines about what runs told.  `last` is the phase that was announced last. -/
def transcript (v : Voice) (a : Attention) (last : Option Phase) : List Notice → List Text
  | [] => []
  | .warning s :: rest => v.say .caution s ++ transcript v a last rest
  | .attach port :: rest => v.say .note (listeningText port) ++ transcript v a last rest
  | .emission (.echo line) :: rest =>
    (if a.echoes then v.pages.text line else []) ++ transcript v a last rest
  | .emission (.event event) :: rest =>
    if a.announces then
      let (last, line) := announce last event
      line.toList.flatMap v.pages.text ++ transcript v a last rest
    else transcript v a last rest

/-! ## Conclusions -/

/-- How a command ended. -/
structure Conclusion where
  /-- The exit status. -/
  status : Nat
  /-- The lines it printed. -/
  lines : List Text
  /-- The fault that broke it off. -/
  fault : Option Fault
  /-- The bench at the end. -/
  bench : Bench

namespace Conclusion

/-- The end of a command with a fault. -/
def ofFault (v : Voice) (b : Bench) (lines : List Text) (fault : Fault) : Conclusion :=
  match fault.explanation? with
  | some message => ⟨toolingStatus, lines ++ v.say .failure message, none, b⟩
  | none => ⟨findingsStatus, lines, some fault, b⟩

/-- The end of a command that has printed what it found, unless that was refused. -/
def ofPrinted (v : Voice) (b : Bench) (lines : List Text) (printed : Printed) (status : Nat)
    (verdict : List Text) : Conclusion :=
  match printed.fault with
  | some fault => ofFault v b (lines ++ printed.lines) (.markup fault)
  | none => ⟨status, lines ++ printed.lines ++ verdict, none, b⟩

end Conclusion

end TlaRunner.Command
