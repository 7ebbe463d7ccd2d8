import TlaRunner.Proofs.Workflow.ToolRun
import TlaRunner.Workflow.Task

/-!
# What may happen to a task

What happens to a task happens to the run of its tool: `Task.follows`.  A task has ended
if and only if that run has and no other run comes behind it (`Task.isOpen`), so the ways of
a run are the ways of a task.

Of a check more is known (`CheckRun.follows`): it keeps its ticket, and the stage of its run.
-/

namespace TlaRunner.Workflow

open Files (SpecFiles)

namespace Task

/-- Lets something happen to a task. -/
def act (b : Bench) (task : Task) : Act → Bench × Task
  | .step => task.step b
  | .upset reason => task.upset b reason
  | .cancel => task.abort b

/-- The answer of the run of a task's tool to a question; a parse that has ended has none. -/
def ask {α : Type} (question : {σ ρ : Type} → Stage σ ρ → α) (otherwise : α) : Task → α
  | check run => question run.stage
  | parse ⟨_, .transpiling stage⟩ => question stage
  | parse ⟨_, .analyzing _ stage⟩ => question stage
  | parse ⟨_, .ended _⟩ => otherwise

/-- Whether the run of a task's tool has not ended. -/
def isOpen (task : Task) : Bool :=
  task.ask (fun stage => !stage.isEnded) false

/-- The ticket of a task for the check slot. -/
def ticket? : Task → Option Nat
  | check run => some run.ticket
  | parse _ => none

/-- A task that has ended stays as it is. -/
theorem act_of_result? {task : Task} (h : task.result? ≠ none) (b : Bench) (act : Act) :
    task.act b act = (b, task) := by
  cases task with
  | check run =>
      have hended : run.result.isSome = true := by
        cases hrun : run.result with
        | none => exact absurd (Option.map_eq_none_iff.mpr hrun) h
        | some result => rfl
      cases act with
      | step => simp only [Task.act, step, CheckRun.step, if_pos hended]
      | upset reason => simp only [Task.act, upset, CheckRun.upset, if_pos hended]
      | cancel => simp only [Task.act, abort, CheckRun.abort, if_pos hended]
  | parse run =>
      obtain ⟨spec, stage⟩ := run
      cases stage with
      | transpiling stage => exact absurd rfl h
      | analyzing transpiled stage => exact absurd rfl h
      | ended result =>
          cases act with
          | step => rfl
          | upset reason => rfl
          | cancel => rfl

/-- What happens to a parse leaves a parse. -/
theorem act_parse (b : Bench) (run : ParseRun) (act : Act) :
    ∃ after, ((parse run).act b act).2 = parse after := by
  cases act with
  | step => exact ⟨_, rfl⟩
  | upset reason => exact ⟨_, rfl⟩
  | cancel => exact ⟨_, rfl⟩

/-- What holds of a task on a bench. -/
structure Fits (b : Bench) (task : Task) : Prop where
  /-- It has ended if and only if the run of its tool has. -/
  opened : task.result? = none ↔ task.isOpen = true
  /-- Its tool was started. -/
  tooled : ∀ process, task.ask Stage.tool? none = some process →
    (b.child? process).isSome = true

theorem Fits.of_becomes {b after : Bench} {task : Task} (h : task.Fits b)
    (hbecomes : b.Becomes after) : task.Fits after :=
  ⟨h.opened, fun process htool => hbecomes.isSome (h.tooled process htool)⟩

/-- What a task makes of a stage of the run of its tool. -/
structure Takes {σ ρ : Type} (b : Bench) (stage : Stage σ ρ) (after : Bench) (task : Task) :
    Prop where
  /-- It leaves processes alone. -/
  calls : after.calls = b.calls
  /-- So it does the slot. -/
  slot : after.slot = b.slot
  /-- It has not ended while the run has not. -/
  result : stage.isEnded = false → task.result? = none
  /-- It has no other tool than the run. -/
  tool : ∀ process, task.ask Stage.tool? none = some process → stage.tool? = some process
  /-- It has not ended if and only if its run, which may be another one, has not. -/
  opened : task.result? = none ↔ task.isOpen = true

end Task

/-! ## Checks -/

namespace CheckRun

/-- Lets something happen to a check. -/
def act (b : Bench) (c : CheckRun) : Act → Bench × CheckRun
  | .step => c.step b
  | .upset reason => c.upset b reason
  | .cancel => c.abort b

theorem act_eq (b : Bench) {c : CheckRun} (h : c.result = none) (act : Act) :
    c.act b act = c.enter (c.plan.act b c.stage act) := by
  cases act with
  | step => rw [CheckRun.act, step, h]; rfl
  | upset reason => rw [CheckRun.act, upset, h]; rfl
  | cancel => rw [CheckRun.act, abort, h]; rfl

/-- A check takes over the stage of its run, and shows findings if that has ended. -/
theorem enter_spec {c : CheckRun} (h : c.result = none) (b : Bench)
    (stage : Stage Checker.Run CheckReport) :
    let next := c.enter (b, stage)
    next.1.calls = b.calls ∧ next.1.slot = b.slot ∧ next.2.ticket = c.ticket ∧
      next.2.stage = stage ∧ (next.2.result = none ↔ stage.isEnded = false) := by
  rw [enter.eq_def]
  split
  next after last heq =>
    obtain ⟨rfl, rfl⟩ := Prod.mk.inj heq
    cases last with
    | error failure => exact ⟨rfl, rfl, rfl, rfl, by simp [Stage.isEnded]⟩
    | ok last =>
        obtain ⟨hcalls, hslot⟩ := b.calls_publish (.ofMapping last.1.diagnostics)
        exact ⟨hcalls, hslot, rfl, rfl, by simp [Stage.isEnded]⟩
  next after next hopen heq =>
    obtain ⟨rfl, rfl⟩ := Prod.mk.inj heq
    refine ⟨rfl, rfl, rfl, rfl, ?_⟩
    rw [h]
    cases stage with
    | ended last => exact absurd rfl (hopen last)
    | locating => exact ⟨fun _ => rfl, fun _ => rfl⟩
    | probing process executable => exact ⟨fun _ => rfl, fun _ => rfl⟩
    | launching executable => exact ⟨fun _ => rfl, fun _ => rfl⟩
    | reading process reading saver => exact ⟨fun _ => rfl, fun _ => rfl⟩
    | exiting process report => exact ⟨fun _ => rfl, fun _ => rfl⟩

/-- What happened to a check when something happened to it. -/
structure Follows (b : Bench) (c : CheckRun) (act : Act) (after : Bench) : Prop where
  /-- Its run went one of its ways. -/
  becomes : b.Becomes after
  goes : c.plan.Goes b c.stage act after (c.act b act).2.stage
  /-- The check did nothing else to processes or the slot. -/
  calls : (c.act b act).1.calls = after.calls
  slot : (c.act b act).1.slot = after.slot
  /-- It still has its ticket. -/
  ticket : (c.act b act).2.ticket = c.ticket
  /-- It has ended if and only if its run has. -/
  result : (c.act b act).2.result = none ↔ (c.act b act).2.stage.isEnded = false

/-- What happens to a check that has not ended happens to its run. -/
theorem follows {b : Bench} (hsound : b.Sound) {c : CheckRun} (hresult : c.result = none)
    (hstage : c.stage.isEnded = false) (act : Act) : ∃ after, c.Follows b act after := by
  obtain ⟨hbecomes, hgoes⟩ := c.plan.goes_act hsound act hstage
  obtain ⟨hcalls, hslot, hticket, hnext, hended⟩ :=
    enter_spec hresult (c.plan.act b c.stage act).1 (c.plan.act b c.stage act).2
  refine ⟨(c.plan.act b c.stage act).1, hbecomes, ?_, ?_, ?_, ?_, ?_⟩
  · rw [act_eq b hresult, hnext]
    exact hgoes
  · rw [act_eq b hresult]
    exact hcalls
  · rw [act_eq b hresult]
    exact hslot
  · rw [act_eq b hresult]
    exact hticket
  · rw [act_eq b hresult, hnext]
    exact hended

end CheckRun

namespace Task

/-- A check has ended if and only if its run has. -/
theorem opened_check (run : CheckRun) :
    ((check run).result? = none ↔ (check run).isOpen = true) ↔
      (run.result = none ↔ run.stage.isEnded = false) := by
  rw [result?, Option.map_eq_none_iff, isOpen, Task.ask, Bool.not_eq_true']

theorem act_check (b : Bench) (c : CheckRun) (act : Act) :
    (check c).act b act = ((c.act b act).1, check (c.act b act).2) := by
  cases act with
  | step => rfl
  | upset reason => rfl
  | cancel => rfl

/-- What happened to a task left a check only if it was one. -/
theorem check_of_act {b : Bench} {task : Task} {act : Act} {run : CheckRun}
    (h : check run = (task.act b act).2) : ∃ c, task = check c ∧ run = (c.act b act).2 := by
  cases task with
  | check c => exact ⟨c, rfl, check.inj (h.trans (congrArg Prod.snd (act_check b c act)))⟩
  | parse parsed =>
      obtain ⟨after, hparsed⟩ := act_parse b parsed act
      rw [hparsed] at h
      cases h

/-! ## Parses -/

/-- A parse takes over the stage of the transpiler's run, and goes on with the analyzer. -/
theorem takes_transpiling (b : Bench) (spec : SpecFiles)
    (stage : Stage Transpiler.State ParseReport) :
    let next := ParseRun.enterTranspiling (b, stage)
    Takes b stage next.1 (parse ⟨spec, next.2⟩) := by
  rw [ParseRun.enterTranspiling.eq_def]
  split
  next after last heq =>
    obtain ⟨rfl, rfl⟩ := Prod.mk.inj heq
    split
    next failure _ =>
      exact ⟨rfl, rfl, (fun h => by cases h), (fun process h => by cases h),
        by simp [result?, isOpen, ask]⟩
    next report _ =>
      exact ⟨rfl, rfl, (fun h => by cases h), (fun process h => by cases h),
        by simp [result?, isOpen, ask, Stage.isEnded]⟩
  next after next hopen heq =>
    obtain ⟨rfl, rfl⟩ := Prod.mk.inj heq
    refine ⟨rfl, rfl, fun _ => rfl, fun _ h => h, fun _ => ?_, fun _ => rfl⟩
    cases stage with
    | ended last => exact absurd rfl (hopen last)
    | _ => rfl

/-- A parse takes over the stage of the analyzer's run, and shows findings in the end. -/
theorem takes_analyzing (b : Bench) (spec : SpecFiles) (transpiled : ParseReport)
    (stage : Stage Analyzer.Grammar ParseReport) :
    let next := ParseRun.enterAnalyzing transpiled (b, stage)
    Takes b stage next.1 (parse ⟨spec, next.2⟩) := by
  rw [ParseRun.enterAnalyzing.eq_def]
  split
  next after last heq =>
    obtain ⟨rfl, rfl⟩ := Prod.mk.inj heq
    split
    next failure _ =>
      exact ⟨rfl, rfl, (fun h => by cases h), (fun process h => by cases h),
        by simp [result?, isOpen, ask]⟩
    next report _ =>
      obtain ⟨hcalls, hslot⟩ := b.calls_publish (ParseRun.merge transpiled report)
      exact ⟨hcalls, hslot, (fun h => by cases h), (fun process h => by cases h),
        by simp [result?, isOpen, ask]⟩
  next after next hopen heq =>
    obtain ⟨rfl, rfl⟩ := Prod.mk.inj heq
    refine ⟨rfl, rfl, fun _ => rfl, fun _ h => h, fun _ => ?_, fun _ => rfl⟩
    cases stage with
    | ended last => exact absurd rfl (hopen last)
    | _ => rfl

theorem act_transpiling (b : Bench) (spec : SpecFiles)
    (stage : Stage Transpiler.State ParseReport) (act : Act) :
    let next := ParseRun.enterTranspiling ((ParseRun.transpilerPlan spec).act b stage act)
    (parse ⟨spec, .transpiling stage⟩).act b act = (next.1, parse ⟨spec, next.2⟩) := by
  cases act with
  | step => rfl
  | upset reason => rfl
  | cancel => rfl

theorem act_analyzing (b : Bench) (spec : SpecFiles) (transpiled : ParseReport)
    (stage : Stage Analyzer.Grammar ParseReport) (act : Act) :
    let next := ParseRun.enterAnalyzing transpiled ((ParseRun.analyzerPlan spec).act b stage act)
    (parse ⟨spec, .analyzing transpiled stage⟩).act b act = (next.1, parse ⟨spec, next.2⟩) := by
  cases act with
  | step => rfl
  | upset reason => rfl
  | cancel => rfl

/-! ## Both -/

/-- What happened to the run of a task's tool when something happened to the task. -/
structure Follows (b : Bench) (task : Task) (act : Act) {σ ρ : Type} (p : Plan σ ρ)
    (stage next : Stage σ ρ) (after : Bench) : Prop where
  /-- The run is that of the task. -/
  ask : ∀ (α : Type) (question : {σ ρ : Type} → Stage σ ρ → α) (otherwise : α),
    task.ask question otherwise = question stage
  /-- It has the ticket of the task. -/
  ticket : p.ticket = task.ticket?
  /-- It went one of its ways. -/
  becomes : b.Becomes after
  goes : p.Goes b stage act after next
  /-- The task took over the stage. -/
  takes : Takes after next (task.act b act).1 (task.act b act).2

/-- What happens to a task makes of the bench what may become of it. -/
theorem Follows.becomes_act {b after : Bench} {task : Task} {act : Act} {σ ρ : Type}
    {p : Plan σ ρ} {stage next : Stage σ ρ} (h : task.Follows b act p stage next after) :
    b.Becomes (task.act b act).1 :=
  h.becomes.trans (Bench.becomes_of_calls h.takes.calls)

/-- What holds of a task still holds then. -/
theorem Follows.fits {b after : Bench} {task : Task} {act : Act} {σ ρ : Type} {p : Plan σ ρ}
    {stage next : Stage σ ρ} (h : task.Follows b act p stage next after) (hfits : task.Fits b) :
    (task.act b act).2.Fits (task.act b act).1 := by
  refine ⟨h.takes.opened, fun process htool => ?_⟩
  have hthere (other : Nat) (hother : stage.tool? = some other) :
      (b.child? other).isSome = true := by
    rw [← h.ask _ Stage.tool? none] at hother
    exact hfits.tooled other hother
  exact (Bench.becomes_of_calls h.takes.calls).isSome
    (h.goes.isSome_tool? h.becomes hthere (h.takes.tool process htool))

/-- What happens to a task that has not ended happens to the run of its tool. -/
theorem follows {b : Bench} (hsound : b.Sound) {task : Task} (hresult : task.result? = none)
    (hfits : task.Fits b) (act : Act) :
    ∃ (σ ρ : Type) (p : Plan σ ρ) (stage next : Stage σ ρ) (after : Bench),
      task.Follows b act p stage next after := by
  have hopen := hfits.opened.mp hresult
  cases task with
  | check c =>
      have hrunning : c.result = none := Option.map_eq_none_iff.mp hresult
      have hstage : c.stage.isEnded = false := by simpa [isOpen, Task.ask] using hopen
      obtain ⟨after, h⟩ := CheckRun.follows hsound hrunning hstage act
      refine ⟨_, _, c.plan, c.stage, _, after, fun _ _ _ => rfl, rfl, h.becomes, h.goes, ?_⟩
      rw [act_check]
      exact ⟨h.calls, h.slot, fun hnext => Option.map_eq_none_iff.mpr (h.result.mpr hnext),
        fun _ htool => htool, (opened_check _).mpr h.result⟩
  | parse run =>
      obtain ⟨spec, stage⟩ := run
      cases stage with
      | transpiling stage =>
          have hstage : stage.isEnded = false := by simpa [isOpen, Task.ask] using hopen
          obtain ⟨hbecomes, hgoes⟩ := (ParseRun.transpilerPlan spec).goes_act hsound act hstage
          refine ⟨_, _, _, stage, _, _, fun _ _ _ => rfl, rfl, hbecomes, hgoes, ?_⟩
          rw [act_transpiling]
          exact takes_transpiling _ spec _
      | analyzing transpiled stage =>
          have hstage : stage.isEnded = false := by simpa [isOpen, Task.ask] using hopen
          obtain ⟨hbecomes, hgoes⟩ := (ParseRun.analyzerPlan spec).goes_act hsound act hstage
          refine ⟨_, _, _, stage, _, _, fun _ _ _ => rfl, rfl, hbecomes, hgoes, ?_⟩
          rw [act_analyzing]
          exact takes_analyzing _ spec transpiled _
      | ended result => cases hresult

end Task

end TlaRunner.Workflow
