import TlaRunner.Protocol.Reading
import TlaRunner.Workflow.Failure

/-!
# The bench

All runs share one bench: the host and the settings, the processes that were
started, the Java that was found, the check slot, and the place where findings are
shown.  The log keeps, in order, what the runs told while they went on.

Processes are numbered in the order in which they were started.  A command that
could not be started has a number too, but no process.
-/

namespace TlaRunner.Workflow

open Files (Host SpecFiles)
open Supervision (Behavior Child)
open Protocol (Emission)

/-- Something that a run tells. -/
inductive Notice
  /-- A shown line or an event. -/
  | emission (content : Emission)
  /-- A warning. -/
  | warning (text : Text)
  /-- A debugger client was told a port. -/
  | attach (port : Int)
  deriving DecidableEq, Repr

/-- A command that was started or refused. -/
structure Call where
  /-- The executable and its arguments. -/
  command : List Text
  /-- The directory it was started in, if not the working directory. -/
  directory : Option Path
  /-- The process, if it was started. -/
  child : Option Child
  /-- The time at which the process ends by itself. -/
  due : Option Nat
  deriving DecidableEq, Repr

/-- What all runs share. -/
structure Bench where
  /-- The machine. -/
  host : Host
  /-- The settings. -/
  config : Config
  /-- Whether anybody follows the runs and is shown their findings. -/
  attended : Bool
  /-- What the machine makes of a question for Java's version. -/
  javaBehavior : Behavior
  /-- What the machine makes of the coming commands; of further ones it makes
  quiet programs. -/
  behaviors : List Behavior
  /-- The time, in milliseconds. -/
  clock : Nat
  /-- The commands so far. -/
  calls : List Call
  /-- The Java that was found. -/
  cache : Java.Cache
  /-- The check slot. -/
  slot : Slot
  /-- Where findings are shown. -/
  sink : Diagnostic.Sink
  /-- What the runs told. -/
  log : List Notice

namespace Bench

/-- A bench on which nothing has happened. -/
def idle (host : Host) (config : Config) (attended : Bool) (javaBehavior : Behavior)
    (behaviors : List Behavior) : Bench where
  host := host
  config := config
  attended := attended
  javaBehavior := javaBehavior
  behaviors := behaviors
  clock := 0
  calls := []
  cache := .empty
  slot := .free
  sink := .empty
  log := []

/-- The warnings so far. -/
def warnings (b : Bench) : List Text :=
  b.log.filterMap fun notice => match notice with
    | .warning text => some text
    | _ => none

/-! ## Processes -/

/-- Starts a command, or fails to. -/
def start (b : Bench) (behavior : Behavior) (executable : Text) (arguments : List Text)
    (directory : Option Path) : Bench × Except Supervision.StartFailure Nat :=
  let command := executable :: arguments
  let number := b.calls.length
  match behavior with
  | .refused reason =>
    ({ b with calls := b.calls ++ [⟨command, directory, none, none⟩] },
      .error ⟨executable, reason⟩)
  | .runs program =>
    let due := match program.ending with
      | .after milliseconds => some (b.clock + milliseconds)
      | _ => none
    ({ b with calls := b.calls ++ [⟨command, directory, some (.start program), due⟩] },
      .ok number)

/-- Asks an executable for the version of Java. -/
def startProbe (b : Bench) (executable : Path) : Bench × Except Supervision.StartFailure Nat :=
  b.start b.javaBehavior executable.toText Java.versionQuery none

/-- Starts a tool. -/
def startTool (b : Bench) (executable : Path) (arguments : List Text) (directory : Path) :
    Bench × Except Supervision.StartFailure Nat :=
  let behavior := b.behaviors.headD (.runs .quiet)
  { b with behaviors := b.behaviors.tail }.start behavior executable.toText arguments
    (some directory)

/-- The process with a number. -/
def child? (b : Bench) (process : Nat) : Option Child :=
  b.calls[process]?.bind (·.child)

/-- Changes a process. -/
def modifyChild (b : Bench) (process : Nat) (f : Child → Child) : Bench :=
  { b with calls := b.calls.modify process fun call => { call with child := call.child.map f } }

/-- Whether a process runs. -/
def isRunning (b : Bench) (process : Nat) : Bool :=
  ((b.child? process).map (·.isRunning)).getD false

/-- Whether the end of a process's output is still to come. -/
def isOpen (b : Bench) (process : Nat) : Bool :=
  ((b.child? process).map (·.isOpen)).getD false

/-- Asks for the end of a process. -/
def interrupt (b : Bench) (process : Nat) : Bench :=
  b.modifyChild process Child.cancel

/-- Lets a process end by itself. -/
def finish (b : Bench) (process : Nat) : Bench :=
  b.modifyChild process Child.finish

/-- Lets a process close its output. -/
def closeOutput (b : Bench) (process : Nat) : Bench :=
  b.modifyChild process Child.close

/-- Lets every process end by itself. -/
def finishAll (b : Bench) : Bench :=
  { b with calls := b.calls.map fun call => { call with child := call.child.map Child.finish } }

/-- Sets the clock, and ends the processes whose time has come. -/
def elapse (b : Bench) (time : Nat) : Bench :=
  { b with
    clock := time
    calls := b.calls.map fun call => match call.due with
      | some due => if due ≤ time then { call with child := call.child.map Child.finish } else call
      | none => call }

/-- The time at which the next process ends by itself. -/
def nextDue (b : Bench) : Option Nat :=
  (b.calls.filterMap fun call =>
    if (call.child.map (·.isRunning)).getD false then call.due else none).min?

/-! ## The log -/

/-- Adds to the log. -/
def tell (b : Bench) (notices : List Notice) : Bench :=
  { b with log := b.log ++ notices }

/-- Adds what was seen in an output to the log, if anybody follows. -/
def relay (b : Bench) (seen : List Emission) : Bench :=
  if b.attended then b.tell (seen.map .emission) else b

/-- Shows findings instead of those shown before, if anybody follows. -/
def publish (b : Bench) (findings : Diagnostic.Collection) : Bench :=
  if b.attended then { b with sink := b.sink.publish findings } else b

/-! ## The slot -/

/-- Attaches a process to a ticket; it is interrupted if a stop was asked for. -/
def attach (b : Bench) (ticket process : Nat) : Bench :=
  let (slot, stop) := b.slot.attach ticket process
  let b := { b with slot }
  if stop then b.interrupt process else b

/-- Asks the check in the slot to stop, and says whether there is one. -/
def stop (b : Bench) : Bench × Bool :=
  match b.slot.active with
  | none => (b, false)
  | some ticket =>
    let (slot, process) := b.slot.cancel ticket
    let b := { b with slot }
    ((process.map b.interrupt).getD b, true)

/-- Gives the slot back. -/
def release (b : Bench) (ticket : Nat) : Bench :=
  { b with slot := b.slot.release ticket }

/-- Changes the files of the host. -/
def setTree (b : Bench) (tree : Files.Tree) : Bench :=
  { b with host := { b.host with tree } }

end Bench

end TlaRunner.Workflow
