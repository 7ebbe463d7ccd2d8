import TlaRunner.Analyzer.Decoder
import TlaRunner.Checker.Decoder
import TlaRunner.Transpiler.Decoder
import TlaRunner.Workflow.ToolRun

/-!
# Tasks

A task is a check or a parse.

A check holds the slot from its beginning to its end.  Its findings are shown as
soon as its process has ended, also when the tool failed.

A parse runs the transpiler and then the analyzer, which is not started if the
transpiler failed.  The findings of both are shown together at the end.
-/

namespace TlaRunner.Workflow

open Files (SpecFiles)
open Diagnostic (Collection)
open Supervision (Exit)

/-! ## Checks -/

/-- A check. -/
structure CheckRun where
  /-- The files to work on. -/
  spec : SpecFiles
  /-- Arguments besides the user's options. -/
  extra : List Text
  /-- The ticket for the slot. -/
  ticket : Nat
  /-- Whether the output is saved. -/
  saved : Bool
  /-- How far the run of the model checker is. -/
  stage : Stage Checker.Run CheckReport
  /-- The report, once the check has ended. -/
  result : Option (Except Failure CheckReport)

namespace CheckRun

/-- The run of the model checker. -/
def plan (c : CheckRun) : Plan Checker.Run CheckReport where
  decoder := Checker.decoder
  session := Checker.session (some c.spec.modulePath.toText)
  spec := c.spec
  extra := c.extra
  ticket := some c.ticket
  saved := c.saved

/-- Starts a check, if the slot is free. -/
def begin (b : Bench) (spec : SpecFiles) (extra : List Text) : Bench × CheckRun :=
  match b.slot.acquire ⟨spec, extra⟩ with
  | .error busy =>
    (b, ⟨spec, extra, busy.holder, false, .ended (.error (.busy busy)), some (.error (.busy busy))⟩)
  | .ok (ticket, slot) =>
    ({ b with slot }, ⟨spec, extra, ticket, b.config.createOutFiles, .locating, none⟩)

/-- The result of an ended run; findings are shown before a failure counts. -/
def settle (b : Bench) : Except Failure (CheckReport × Exit) →
    Bench × Except Failure CheckReport
  | .error failure => (b, .error failure)
  | .ok (report, exit) =>
    (b.publish (.ofMapping report.diagnostics),
      match exit.failure? Checker.tool.displayName with
      | some failure => .error (.tool failure)
      | none => .ok report)

/-- Takes over a stage. -/
def enter (c : CheckRun) (next : Bench × Stage Checker.Run CheckReport) : Bench × CheckRun :=
  match next with
  | (b, .ended last) =>
    let (b, result) := settle b last
    (b, { c with stage := .ended last, result := some result })
  | (b, stage) => (b, { c with stage })

/-- Takes a check to its next stage. -/
def step (b : Bench) (c : CheckRun) : Bench × CheckRun :=
  if c.result.isSome then (b, c) else c.enter (c.plan.step b c.stage)

/-- Lets a client of a check fail. -/
def upset (b : Bench) (reason : Text) (c : CheckRun) : Bench × CheckRun :=
  if c.result.isSome then (b, c) else c.enter (c.plan.upset b reason c.stage)

/-- Gives a check up. -/
def abort (b : Bench) (c : CheckRun) : Bench × CheckRun :=
  if c.result.isSome then (b, c) else c.enter (c.plan.abort b c.stage)

end CheckRun

/-! ## Parses -/

/-- What a parse found. -/
structure ParseOutcome where
  /-- The report of the transpiler. -/
  transpiler : ParseReport
  /-- The report of the analyzer. -/
  analyzer : ParseReport
  /-- The findings of both. -/
  diagnostics : Collection
  deriving DecidableEq, Repr

/-- How far a parse is. -/
inductive ParseStage
  | transpiling (stage : Stage Transpiler.State ParseReport)
  | analyzing (transpiled : ParseReport) (stage : Stage Analyzer.Grammar ParseReport)
  | ended (result : Except Failure ParseOutcome)

/-- A parse. -/
structure ParseRun where
  /-- The files to work on. -/
  spec : SpecFiles
  /-- How far it is. -/
  stage : ParseStage

namespace ParseRun

/-- The run of the transpiler. -/
def transpilerPlan (spec : SpecFiles) : Plan Transpiler.State ParseReport :=
  ⟨Transpiler.decoder, Transpiler.session spec.modulePath.toText, spec, [], none, false⟩

/-- The run of the analyzer. -/
def analyzerPlan (spec : SpecFiles) : Plan Analyzer.Grammar ParseReport :=
  ⟨Analyzer.decoder, Analyzer.session, spec, [], none, false⟩

/-- Starts a parse. -/
def begin (spec : SpecFiles) : ParseRun := ⟨spec, .transpiling .locating⟩

/-- The report of an ended run, unless its tool failed. -/
def reportOf (tool : Tool) : Except Failure (ParseReport × Exit) → Except Failure ParseReport
  | .error failure => .error failure
  | .ok (report, exit) =>
    match exit.failure? tool.displayName with
    | some failure => .error (.tool failure)
    | none => .ok report

/-- The findings of both tools. -/
def merge (transpiled analyzed : ParseReport) : Collection :=
  .merge [.ofMapping transpiled.diagnostics, .ofMapping analyzed.diagnostics]

/-- Takes over a stage of the transpiler's run. -/
def enterTranspiling (next : Bench × Stage Transpiler.State ParseReport) : Bench × ParseStage :=
  match next with
  | (b, .ended result) =>
    match reportOf .transpiler result with
    | .error failure => (b, .ended (.error failure))
    | .ok report => (b, .analyzing report .locating)
  | (b, stage) => (b, .transpiling stage)

/-- Takes over a stage of the analyzer's run. -/
def enterAnalyzing (transpiled : ParseReport) (next : Bench × Stage Analyzer.Grammar ParseReport) :
    Bench × ParseStage :=
  match next with
  | (b, .ended result) =>
    match reportOf .analyzer result with
    | .error failure => (b, .ended (.error failure))
    | .ok report =>
      let findings := merge transpiled report
      (b.publish findings, .ended (.ok ⟨transpiled, report, findings⟩))
  | (b, stage) => (b, .analyzing transpiled stage)

/-- Takes a parse to its next stage. -/
def step (b : Bench) (p : ParseRun) : Bench × ParseRun :=
  let (b, stage) := match p.stage with
    | .transpiling stage => enterTranspiling ((transpilerPlan p.spec).step b stage)
    | .analyzing transpiled stage =>
      enterAnalyzing transpiled ((analyzerPlan p.spec).step b stage)
    | .ended result => (b, .ended result)
  (b, { p with stage })

/-- Lets a client of a parse fail. -/
def upset (b : Bench) (reason : Text) (p : ParseRun) : Bench × ParseRun :=
  let (b, stage) := match p.stage with
    | .transpiling stage => enterTranspiling ((transpilerPlan p.spec).upset b reason stage)
    | .analyzing transpiled stage =>
      enterAnalyzing transpiled ((analyzerPlan p.spec).upset b reason stage)
    | .ended result => (b, .ended result)
  (b, { p with stage })

/-- Gives a parse up. -/
def abort (b : Bench) (p : ParseRun) : Bench × ParseRun :=
  let (b, stage) := match p.stage with
    | .transpiling stage => enterTranspiling ((transpilerPlan p.spec).abort b stage)
    | .analyzing transpiled stage =>
      enterAnalyzing transpiled ((analyzerPlan p.spec).abort b stage)
    | .ended result => (b, .ended result)
  (b, { p with stage })

end ParseRun

/-! ## Both -/

/-- A check or a parse. -/
inductive Task
  | check (run : CheckRun)
  | parse (run : ParseRun)

/-- What a task led to. -/
inductive Result
  | check (report : CheckReport)
  | parse (outcome : ParseOutcome)

namespace Task

/-- What the task led to, once it has ended. -/
def result? : Task → Option (Except Failure Result)
  | check run => run.result.map (·.map .check)
  | parse ⟨_, .ended result⟩ => some (result.map .parse)
  | parse _ => none

/-- Whether a step gets nowhere. -/
def isBlocked (b : Bench) : Task → Bool
  | check run => run.result.isSome || run.stage.isBlocked b
  | parse run =>
    match run.stage with
    | .transpiling stage => stage.isBlocked b
    | .analyzing _ stage => stage.isBlocked b
    | .ended _ => true

/-- Whether the task waits for a process to tell how it ended. -/
def awaitsExit : Task → Bool
  | check ⟨_, _, _, _, .exiting .., none⟩ => true
  | check ⟨_, _, _, _, .probing .., none⟩ => true
  | parse ⟨_, .transpiling (.exiting ..)⟩ => true
  | parse ⟨_, .transpiling (.probing ..)⟩ => true
  | parse ⟨_, .analyzing _ (.exiting ..)⟩ => true
  | parse ⟨_, .analyzing _ (.probing ..)⟩ => true
  | _ => false

/-- Takes a task to its next stage. -/
def step (b : Bench) : Task → Bench × Task
  | check run => let (b, run) := run.step b; (b, .check run)
  | parse run => let (b, run) := run.step b; (b, .parse run)

/-- Lets a client of a task fail. -/
def upset (b : Bench) (reason : Text) : Task → Bench × Task
  | check run => let (b, run) := run.upset b reason; (b, .check run)
  | parse run => let (b, run) := run.upset b reason; (b, .parse run)

/-- Gives a task up. -/
def abort (b : Bench) : Task → Bench × Task
  | check run => let (b, run) := run.abort b; (b, .check run)
  | parse run => let (b, run) := run.abort b; (b, .parse run)

end Task

end TlaRunner.Workflow
