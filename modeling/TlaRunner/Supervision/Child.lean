import TlaRunner.Supervision.Behavior
import TlaRunner.Supervision.Exit
import TlaRunner.Text.Lines

/-!
# Supervised processes

A `Child` joins a process and what its supervisor knows about it.  The process has
ended or not; the supervisor learns that only by waiting for it.  An interrupt is
sent once, and never after the exit status is known; it may find that the process
has ended, which makes no difference to the supervisor.  A process may close its
output while it runs.
-/

namespace TlaRunner.Supervision

/-- A command could not be started. -/
structure StartFailure where
  /-- The executable. -/
  executable : Text
  /-- Why not. -/
  reason : Text
  deriving DecidableEq, Repr

/-- The wording of a failed start. -/
def StartFailure.message (f : StartFailure) : Text :=
  "Cannot start '".toList ++ f.executable ++ "': ".toList ++ f.reason

/-- The output of a process cannot be read. -/
structure NoOutput where
  deriving DecidableEq, Repr

/-- The wording of output that cannot be read. -/
def NoOutput.message (_ : NoOutput) : Text :=
  "process was started without a stdout pipe".toList

/-- A process and what its supervisor knows. -/
structure Child where
  /-- The process. -/
  program : Program
  /-- The exit status of the process, once it has ended. -/
  ended : Option Int
  /-- What of its output was not read yet. -/
  unread : Bytes
  /-- Whether the process closed its output. -/
  closed : Bool
  /-- How many interrupts were sent to it. -/
  interrupts : Nat
  /-- Whether an interrupt was asked for. -/
  signaled : Bool
  /-- The exit status as far as the supervisor knows. -/
  known : Option Int
  deriving DecidableEq, Repr

namespace Child

/-- The number of bytes read at once. -/
def readSize : Nat := 65536

/-- A process that was just started. -/
def start (program : Program) : Child where
  program := program
  ended := match program.ending with
    | .atOnce => some program.status
    | _ => none
  unread := program.output.getD []
  closed := false
  interrupts := 0
  signaled := false
  known := none

/-- Lets the process end with a status, if it runs. -/
def endWith (c : Child) (status : Int) : Child :=
  { c with ended := some (c.ended.getD status) }

/-- Lets the process end by itself, if it runs. -/
def finish (c : Child) : Child :=
  c.endWith c.program.status

/-- What an interrupt does to the process. -/
def interrupt (c : Child) : Child :=
  let status := if c.program.gone then c.program.status else c.program.onInterrupt
  { if c.program.ending = .stubborn then c else c.endWith status with
    interrupts := c.interrupts + 1 }

/-- Asks for an end of the process. -/
def cancel (c : Child) : Child :=
  if c.signaled || c.known.isSome then c else { c.interrupt with signaled := true }

/-- Lets the process close its output. -/
def close (c : Child) : Child :=
  { c with closed := true }

/-- Whether the process runs. -/
def isRunning (c : Child) : Bool :=
  c.ended.isNone

/-- Whether the end of its output is still to come. -/
def isOpen (c : Child) : Bool :=
  c.isRunning && !c.closed

/-- How the process ended, with this status. -/
def exit (c : Child) (status : Int) : Exit :=
  ⟨status, Text.lines (Text.decode (c.program.errors.getD [])), c.signaled⟩

/-- Waits for the process: how it ended, if it has. -/
def wait? (c : Child) : Option (Exit × Child) :=
  c.ended.map fun status => (c.exit status, { c with known := some status })

/-- Reads all output that is left. -/
def readAll (c : Child) : Except NoOutput (Bytes × Child) :=
  if c.program.output.isSome then .ok (c.unread, { c with unread := [] }) else .error {}

/-- Output cut into the pieces in which it is read. -/
def pieces (size : Nat) (fuel : Nat) (bytes : Bytes) : List Bytes :=
  match fuel with
  | 0 => []
  | fuel + 1 =>
    if bytes.isEmpty then [] else bytes.take size :: pieces size fuel (bytes.drop size)

end Child

end TlaRunner.Supervision
