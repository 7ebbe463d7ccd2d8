import TlaRunner.Decimal.Binary64
import TlaRunner.Workflow.Task

/-!
# Schedules

Tasks that share a bench take turns.  A turn lasts until the task has to wait: for a
process that runs, or for one to tell how it ended.  A new task has its first turn
at once; after that each round gives every task a turn, in the order in which they
were begun.  When nobody gets any further, the clock moves on to the next process
that ends by itself.

`debug` runs a check and, after a delay, tells a client the port on which the model
checker listens.  The client is told only if the check has not ended by then.  If
the client fails, the check is given up.
-/

namespace TlaRunner.Workflow

open Decimal (Double)
open Files (SpecFiles)

/-- A bench and the tasks on it, in the order in which they were begun. -/
structure Floor where
  /-- The bench. -/
  bench : Bench
  /-- The tasks. -/
  tasks : List Task

namespace Floor

/-- A floor without tasks. -/
def empty (b : Bench) : Floor := ⟨b, []⟩

/-! ## Turns -/

/-- How many stages a turn may take.  A parse has ten stages in all. -/
def turnLimit : Nat := 16

/-- Takes a task on until it has to wait. -/
def turn : (limit : Nat) → Bench → Task → Bench × Task
  | 0, b, task => (b, task)
  | limit + 1, b, task =>
    if task.isBlocked b then (b, task)
    else
      let (b, task) := task.step b
      if task.awaitsExit then (b, task) else turn limit b task

/-- Gives every task a turn. -/
def turns (b : Bench) : List Task → Bench × List Task
  | [] => (b, [])
  | task :: rest =>
    let (b, task) := turn turnLimit b task
    let (b, rest) := turns b rest
    (b, task :: rest)

/-- Gives every task of a floor a turn. -/
def round (f : Floor) : Floor :=
  let (bench, tasks) := turns f.bench f.tasks
  ⟨bench, tasks⟩

/-- Whether no task gets any further. -/
def isStill (f : Floor) : Bool :=
  f.tasks.all (·.isBlocked f.bench)

/-- The result of a task, once it has ended. -/
def result? (f : Floor) (number : Nat) : Option (Except Failure Result) :=
  f.tasks[number]?.bind (·.result?)

/-- How many rounds the tasks of a floor may take. -/
def roundLimit (f : Floor) : Nat :=
  f.tasks.length * turnLimit

/-- Gives turns until no task gets any further. -/
def settleFor : (limit : Nat) → Floor → Floor
  | 0, f => f
  | limit + 1, f => if f.isStill then f else settleFor limit f.round

/-- Gives turns until no task gets any further. -/
def settle (f : Floor) : Floor :=
  settleFor f.roundLimit f

/-- Gives turns until a task has ended, and lets time go by where that is needed. -/
def awaitFor : (limit : Nat) → Floor → (number : Nat) → Floor
  | 0, f, _ => f
  | limit + 1, f, number =>
    if (f.result? number).isSome then f
    else if f.isStill then
      match f.bench.nextDue with
      | some due => awaitFor limit { f with bench := f.bench.elapse due } number
      | none => f
    else awaitFor limit f.round number

/-- Gives turns until a task has ended, if it ends. -/
def await (f : Floor) (number : Nat) : Floor :=
  awaitFor (2 * f.roundLimit) f number

/-! ## What may be done on a floor -/

/-- Begins a task, which has its first turn: its number. -/
def add (f : Floor) (next : Bench × Task) : Floor × Nat :=
  let (bench, task) := turn turnLimit next.1 next.2
  (⟨bench, f.tasks ++ [task]⟩, f.tasks.length)

/-- Begins a check. -/
def beginCheck (f : Floor) (spec : SpecFiles) (extra : List Text) : Floor × Nat :=
  let (b, run) := CheckRun.begin f.bench spec extra
  f.add (b, .check run)

/-- Begins a parse. -/
def beginParse (f : Floor) (spec : SpecFiles) : Floor × Nat :=
  f.add (f.bench, .parse (ParseRun.begin spec))

/-- Asks the check in the slot to stop, and says whether there is one. -/
def stop (f : Floor) : Floor × Bool :=
  let (bench, stopped) := f.bench.stop
  ({ f with bench }, stopped)

/-- Gives a task up, if it has not ended, and says whether that ended it. -/
def cancel (f : Floor) (number : Nat) : Floor × Bool :=
  match f.tasks[number]? with
  | none => (f, false)
  | some task =>
    if task.result?.isSome then (f, false)
    else
      let (bench, task) := task.abort f.bench
      (⟨bench, f.tasks.set number task⟩, true)

/-- The check of a task that has ended as one. -/
def reportOf : Option (Except Failure Result) → Except Failure CheckReport
  | some (.ok (.check report)) => .ok report
  | some (.error failure) => .error failure
  | _ => .error .cancelled

/-- Runs a check to its end. -/
def check (f : Floor) (spec : SpecFiles) (extra : List Text) : Floor × Except Failure CheckReport :=
  let (f, number) := f.beginCheck spec extra
  let f := f.await number
  (f, reportOf (f.result? number))

/-- Runs the last check again, if there was one. -/
def checkAgain (f : Floor) : Floor × Option (Except Failure CheckReport) :=
  match f.bench.slot.last with
  | none => (f, none)
  | some request =>
    let (f, result) := f.check request.spec request.extra
    (f, some result)

/-- The outcome of a task that has ended as a parse. -/
def outcomeOf : Option (Except Failure Result) → Except Failure ParseOutcome
  | some (.ok (.parse outcome)) => .ok outcome
  | some (.error failure) => .error failure
  | _ => .error .cancelled

/-- Runs a parse to its end. -/
def parse (f : Floor) (spec : SpecFiles) : Floor × Except Failure ParseOutcome :=
  let (f, number) := f.beginParse spec
  let f := f.await number
  (f, outcomeOf (f.result? number))

/-! ## Checks with a debugger -/

/-- The ports a model checker may listen on. -/
def portBounds : Int × Int := (1025, 64510)

/-- The arguments that let the model checker listen on a port. -/
def debuggerArguments (port : Int) : List Text :=
  ["-debugger".toList, "port=".toList ++ Text.ofInt port]

/-- What a client does once the model checker runs. -/
inductive Deed
  /-- It lets the model checker end. -/
  | finishes
  /-- It asks the check to stop. -/
  | stops
  /-- It fails. -/
  | fails (reason : Text)
  deriving DecidableEq, Repr

/-- What a client does when it is told the port. -/
inductive Client
  /-- It takes note. -/
  | listens
  /-- It fails at once. -/
  | refuses (reason : Text)
  /-- It waits until the model checker runs. -/
  | waits (deed : Deed)
  deriving DecidableEq, Repr

/-- Gives turns until a task has ended or the clock would pass a time. -/
def awaitUntil (inTime : Nat → Bool) : (limit : Nat) → Floor → (number : Nat) → Floor
  | 0, f, _ => f
  | limit + 1, f, number =>
    if (f.result? number).isSome then f
    else if f.isStill then
      match f.bench.nextDue with
      | some due =>
        if inTime due then
          awaitUntil inTime limit { f with bench := f.bench.elapse due } number
        else f
      | none => f
    else awaitUntil inTime limit f.round number

/-- Waits for a task, at most for a delay.  Without any delay nobody has another turn. -/
def awaitDelay (f : Floor) (number : Nat) (delay : Double) : Floor :=
  let now := f.bench.clock
  if delay.isPositive then
    awaitUntil (fun due => delay.secondsReach (due - now)) (2 * f.roundLimit) f number
  else f

/-- Ends the process of the check in the slot. -/
def finishActive (f : Floor) : Floor :=
  match f.bench.slot.activeTicket.bind (·.process) with
  | some process => { f with bench := f.bench.finish process }
  | none => f

/-- Lets a client do what it does: the floor then, and why the client failed. -/
def attend (f : Floor) : Client → Floor × Option Text
  | .listens => (f, none)
  | .refuses reason => (f, some reason)
  | .waits deed =>
    let f := f.settle
    match deed with
    | .finishes => (f.finishActive, none)
    | .stops => (f.stop.1, none)
    | .fails reason => (f, some reason)

/-- Runs a check that a client may attach to after a delay. -/
def debug (f : Floor) (spec : SpecFiles) (port : Int) (delay : Double) (client : Client) :
    Floor × Except Failure CheckReport :=
  let (f, number) := f.beginCheck spec (debuggerArguments port)
  let f := f.awaitDelay number delay
  match f.result? number with
  | some result => (f, reportOf (some result))
  | none =>
    let f := { f with bench := f.bench.tell [.attach port] }
    match f.attend client with
    | (f, some reason) => ((f.cancel number).1, .error (.client reason))
    | (f, none) =>
      let f := f.await number
      (f, reportOf (f.result? number))

end Floor

end TlaRunner.Workflow
