import TlaRunner.Workflow.JavaSearch

/-!
# Runs of one tool

A run finds Java, starts the tool, reads its output to the end, and waits for the
process.  `Plan.step` takes a run from one stage to the next; a stage that waits for
a process that still runs is blocked, and stepping it changes nothing or reads what
output there is.  Between two steps anything may happen on the bench.

A run that fails while it reads interrupts its process: what is read cannot be decoded
or saved, or whoever is told of it failed (`Plan.upset`).  However a run ends, it gives
back the slot if it holds a ticket.
-/

namespace TlaRunner.Workflow

open Files (Saver SpecFiles)
open Supervision (Child Exit)
open Protocol (Decoder Reading Session Chunk)

/-- What a run does. -/
structure Plan (σ ρ : Type) where
  /-- The grammar of the tool's output. -/
  decoder : Decoder σ ρ
  /-- The session that reads it. -/
  session : Session σ ρ
  /-- The files to work on. -/
  spec : SpecFiles
  /-- Arguments besides the user's options. -/
  extra : List Text
  /-- The ticket for the check slot. -/
  ticket : Option Nat
  /-- Whether the output is saved. -/
  saved : Bool

/-- How far a run is. -/
inductive Stage (σ ρ : Type)
  /-- It is about to look for Java. -/
  | locating
  /-- It waits for the answer of Java. -/
  | probing (process : Nat) (executable : Path)
  /-- It is about to start the tool. -/
  | launching (executable : Path)
  /-- It reads the output. -/
  | reading (process : Nat) (reading : Reading σ ρ) (saver : Option Saver)
  /-- It waits for the process. -/
  | exiting (process : Nat) (report : ρ)
  | ended (result : Except Failure (ρ × Exit))

namespace Stage

variable {σ ρ : Type}

/-- Whether the run is over. -/
def isEnded : Stage σ ρ → Bool
  | ended _ => true
  | _ => false

/-- The process the run waits for. -/
def awaited? : Stage σ ρ → Option Nat
  | probing process _ => some process
  | reading process _ _ => some process
  | exiting process _ => some process
  | _ => none

/-- Whether a step gets nowhere. -/
def isBlocked (b : Bench) (s : Stage σ ρ) : Bool :=
  match s with
  | ended _ => true
  | reading process _ _ =>
    b.isOpen process && ((b.child? process).map (·.unread.isEmpty)).getD true
  | s => (s.awaited?.map b.isRunning).getD false

end Stage

/-- What reading pieces of output led to. -/
structure ReadState (σ ρ : Type) where
  /-- The bench. -/
  bench : Bench
  /-- The reading. -/
  reading : Reading σ ρ
  /-- The saver. -/
  saver : Option Saver
  /-- Why reading ended early. -/
  failure : Option Failure

namespace Plan

variable {σ ρ : Type}

/-- The ended run, which gives back the slot. -/
def conclude (p : Plan σ ρ) (b : Bench) (result : Except Failure (ρ × Exit)) :
    Bench × Stage σ ρ :=
  ((p.ticket.map b.release).getD b, .ended result)

/-- Closes the file for the output. -/
def closeSaver (b : Bench) : Option Saver → Bench
  | some saver => b.setTree (saver.close b.host.tree).2
  | none => b

/-- Ends a run whose process was started: the process is interrupted. -/
def abandon (p : Plan σ ρ) (b : Bench) (process : Nat) (saver : Option Saver)
    (failure : Failure) : Bench × Stage σ ρ :=
  p.conclude ((closeSaver b saver).interrupt process) (.error failure)

/-- Looks for Java. -/
def locate (p : Plan σ ρ) (b : Bench) : Bench × Stage σ ρ :=
  match b.seekJava with
  | (b, .found executable) => (b, .launching executable)
  | (b, .asked process executable) => (b, .probing process executable)
  | (b, .failed failure) => p.conclude b (.error failure)

/-- Takes the answer of Java. -/
def learn (p : Plan σ ρ) (b : Bench) (process : Nat) (executable : Path) : Bench × Stage σ ρ :=
  match b.learnJava process executable with
  | none => (b, .probing process executable)
  | some (b, .error failure) => p.conclude b (.error failure)
  | some (b, .ok ()) => (b, .launching executable)

/-- Opens the file for the output, if the output is saved. -/
def openSaver (p : Plan σ ρ) (b : Bench) : Except Failure (Option Saver × Bench) :=
  if p.saved then do
    let path ← (Files.outputFile p.spec.modulePath).mapError .nameless
    let (saver, tree) ← ((Saver.of path).open b.host).mapError .saver
    return (some saver, b.setTree tree)
  else .ok (none, b)

/-- Starts the tool. -/
def launch (p : Plan σ ρ) (b : Bench) (executable : Path) : Bench × Stage σ ρ :=
  match Arguments.command b.host b.config p.decoder.tool p.spec p.extra with
  | .error fault => p.conclude b (.error (.command fault))
  | .ok arguments =>
    match b.startTool executable arguments p.spec.directory with
    | (b, .error failure) => p.conclude b (.error (.start failure))
    | (b, .ok process) =>
      let b := (p.ticket.map (b.attach · process)).getD b
      match p.openSaver b with
      | .error failure => p.abandon b process none failure
      | .ok (saver, b) =>
        match (b.child? process).map Child.readAll with
        | some (.error error) => p.abandon b process saver (.noOutput error)
        | _ => (b, .reading process (.start p.session) saver)

/-- Takes one piece of output: it is saved, decoded and shown. -/
def readPiece (p : Plan σ ρ) (s : ReadState σ ρ) (piece : Bytes) : ReadState σ ρ :=
  match s.failure with
  | some _ => s
  | none =>
    match (s.saver.mapM fun saver => saver.write s.bench.host.tree piece) with
    | .error fault => { s with failure := some (.saver fault) }
    | .ok written =>
      let bench := (written.map fun w => s.bench.setTree w.2).getD s.bench
      let (reading, emissions) := s.reading.feedChunk p.decoder (.bytes piece)
      ⟨bench.relay emissions.seen, reading, written.map (·.1), emissions.fault.map .output⟩

/-- Reads what output there is. -/
def readOn (p : Plan σ ρ) (b : Bench) (process : Nat) (child : Child) (reading : Reading σ ρ)
    (saver : Option Saver) : ReadState σ ρ :=
  let b := b.modifyChild process fun c => { c with unread := [] }
  (Child.pieces Child.readSize child.unread.length child.unread).foldl p.readPiece
    ⟨b, reading, saver, none⟩

/-- Reads what output there is, and makes the report when the output has ended. -/
def read (p : Plan σ ρ) (b : Bench) (process : Nat) (reading : Reading σ ρ)
    (saver : Option Saver) : Bench × Stage σ ρ :=
  match b.child? process with
  | none => (b, .reading process reading saver)
  | some child =>
    let s := p.readOn b process child reading saver
    match s.failure with
    | some failure => p.abandon s.bench process s.saver failure
    | none =>
      if child.isOpen then (s.bench, .reading process s.reading s.saver)
      else
        let (reading, emissions) := s.reading.finish p.decoder child.signaled
        let b := s.bench.relay emissions.seen
        match emissions.fault with
        | some fault => p.abandon b process s.saver (.output fault)
        | none =>
          match reading.session.report p.decoder with
          | .error fault => p.abandon b process s.saver (.output fault)
          | .ok report => (closeSaver b s.saver, .exiting process report)

/-- Waits for the process. -/
def leave (p : Plan σ ρ) (b : Bench) (process : Nat) (report : ρ) : Bench × Stage σ ρ :=
  match (b.child? process).bind Child.wait? with
  | none => (b, .exiting process report)
  | some (exit, waited) =>
    p.conclude (b.modifyChild process fun _ => waited) (.ok (report, exit))

/-- Takes a run to its next stage. -/
def step (p : Plan σ ρ) (b : Bench) : Stage σ ρ → Bench × Stage σ ρ
  | .locating => p.locate b
  | .probing process executable => p.learn b process executable
  | .launching executable => p.launch b executable
  | .reading process reading saver => p.read b process reading saver
  | .exiting process report => p.leave b process report
  | .ended result => (b, .ended result)

/-- Ends a run that reads, since whoever it tells what it reads failed. -/
def upset (p : Plan σ ρ) (b : Bench) (reason : Text) : Stage σ ρ → Bench × Stage σ ρ
  | .reading process _ saver => p.abandon b process saver (.client reason)
  | stage => (b, stage)

/-- Gives a run up at the stage it is in. -/
def abort (p : Plan σ ρ) (b : Bench) : Stage σ ρ → Bench × Stage σ ρ
  | .reading process _ saver => p.abandon b process saver .cancelled
  | .ended result => (b, .ended result)
  | _ => p.conclude b (.error .cancelled)

end Plan

end TlaRunner.Workflow
