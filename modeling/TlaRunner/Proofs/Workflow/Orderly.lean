import TlaRunner.Proofs.Workflow.Publication

/-!
# What a check leaves behind

A check shares the slot, the last request and the shown findings with all others.  It is turned
away while another holds the slot, and then changes nothing.  Otherwise it holds the slot until
it ends, however it ends, and nobody else frees it.  `Floor.Orderly` says this of one incident.

A check shows its findings once, where its output has ended without a fault and its process has
ended, and only then does its exit count as a failure or not.  `Floor.Accounted` says this of
everything that happened so far.
-/

namespace TlaRunner.Workflow

open Files (Host SpecFiles)
open Supervision (Behavior Child Exit)
open Diagnostic (Collection Sink)

variable {σ ρ : Type}

/-! ## Ends of runs -/

/-- A run ends with a report and an exit where it waits for a process that has ended, and takes a
step. -/
theorem Plan.ended_ok_iff (p : Plan σ ρ) (b : Bench) {stage : Stage σ ρ}
    (hopen : stage.isEnded = false) (act : Act) {report : ρ} {exit : Exit} :
    (p.act b stage act).2 = .ended (.ok (report, exit)) ↔
      act = .step ∧ ∃ process waited, stage = .exiting process report ∧
        (b.child? process).bind Child.wait? = some (exit, waited) := by
  constructor
  · intro hended
    have hvouches : p.Vouches (fun _ => True) fun _ _ => True :=
      ⟨trivial, fun _ _ => trivial, fun _ _ => trivial⟩
    have htells := hvouches.tells_act b stage (fun _ _ _ _ => trivial) hopen act
    rw [hended] at htells
    cases htells with
    | prepares _ _ hnext => cases hnext
    | @leaves process _ _ hstage _ _ =>
        subst hstage
        cases act with
        | upset reason => cases hended
        | cancel => cases hended
        | step =>
            refine ⟨rfl, process, ?_⟩
            change (p.leave b process report).2 = _ at hended
            rw [leave] at hended
            split at hended
            next => cases hended
            next other waited hwait =>
              cases hended
              exact ⟨waited, rfl, hwait⟩
  · rintro ⟨rfl, process, waited, rfl, hwait⟩
    change (p.leave b process report).2 = _
    rw [leave, hwait]
    rfl

/-- An exit counts as a failure if the run was not cancelled and the status is none that a tool
reports with. -/
theorem failure?_eq (exit : Exit) (tool : Text) :
    exit.failure? tool =
      if exit.cancelled = false ∧ (exit.status < 0 ∨ 9 < exit.status) then
        some ⟨tool, exit.status, exit.errors⟩
      else none := by
  rw [Exit.failure?]
  cases hcancelled : exit.cancelled with
  | true => rw [if_pos rfl, if_neg fun h => Bool.noConfusion h.1]
  | false =>
      rw [if_neg Bool.false_ne_true, Exit.category, Supervision.ExitCategory.ofStatus,
        Supervision.ExitCategory.leastFailure]
      by_cases hzero : exit.status = 0
      · rw [if_pos hzero, if_neg (by omega)]
      · by_cases hreported : 0 < exit.status ∧ exit.status < 10
        · rw [if_neg hzero, if_pos hreported, if_neg (by omega)]
        · rw [if_neg hzero, if_neg hreported, if_pos ⟨rfl, by omega⟩]

namespace CheckRun

/-- A check that has an exit fails if the exit counts as a failure. -/
theorem verdict_ok (report : CheckReport) (exit : Exit) :
    verdict (.ok (report, exit)) =
      if exit.cancelled = false ∧ (exit.status < 0 ∨ 9 < exit.status) then
        .error (.tool ⟨Checker.tool.displayName, exit.status, exit.errors⟩)
      else .ok report := by
  rw [verdict, failure?_eq]
  by_cases hfails : exit.cancelled = false ∧ (exit.status < 0 ∨ 9 < exit.status)
  · rw [if_pos hfails, if_pos hfails]
  · rw [if_neg hfails, if_neg hfails]

/-- No check fails for the slot but one that is turned away. -/
theorem not_busy_act {b : Bench} (hsound : b.Sound) {c : CheckRun} (hresult : c.result = none)
    (hopen : c.stage.isEnded = false) (act : Act) (error : Busy) :
    (c.act b act).2.result ≠ some (.error (.busy error)) := by
  obtain ⟨_, hgoes⟩ := c.plan.goes_act hsound act hopen
  rw [act_eq b hresult, result_enter hresult]
  intro hbusy
  obtain ⟨last, hlast, hverdict⟩ := Option.map_eq_some_iff.mp hbusy
  cases hstage : (c.plan.act b c.stage act).2 with
  | ended result =>
      rw [hstage] at hlast hgoes
      obtain rfl := Option.some.inj hlast
      cases result with
      | error failure =>
          cases hverdict
          cases hgoes.isBusy_eq
      | ok made =>
          rw [verdict_ok] at hverdict
          split at hverdict
          · cases hverdict
          · cases hverdict
  | _ => rw [hstage] at hlast; cases hlast

end CheckRun

/-! ## One incident -/

namespace Floor

/-- What an incident does to the slot, to what was checked last and to what is shown, as far as
checks are concerned. -/
structure Orderly (f : Floor) (i : Incident) : Prop where
  /-- A check that is turned away is new, and names the ticket that holds the slot; nothing else
  happens. -/
  refused : ∀ (number : Nat) (run : CheckRun) (error : Busy),
    (f.meet i).tasks[number]? = some (.check run) → run.result = some (.error (.busy error)) →
      f.tasks[number]? = some (.check run) ∨ f.tasks[number]? = none ∧
        f.bench.slot.active = some error.holder ∧ (f.meet i).bench = f.bench
  /-- Every other new check enters the free slot, and is what was checked last. -/
  entered : ∀ (number : Nat) (run : CheckRun), f.tasks[number]? = none →
    (f.meet i).tasks[number]? = some (.check run) →
      (∃ error, run.result = some (.error (.busy error))) ∨
        run.result = none ∧ f.bench.slot.active = none ∧
          (f.meet i).bench.slot.active = some run.ticket ∧
            (f.meet i).bench.slot.last = some ⟨run.spec, run.extra⟩
  /-- What was checked last is changed by such a check alone. -/
  last : (f.meet i).bench.slot.last = f.bench.slot.last ∨
    ∃ (number : Nat) (run : CheckRun), f.tasks[number]? = none ∧
      (f.meet i).tasks[number]? = some (.check run) ∧ run.result = none
  /-- A check holds the slot as long as it runs, and has freed it when it has ended. -/
  freed : ∀ (number : Nat) (run done : CheckRun), f.tasks[number]? = some (.check run) →
    run.result = none → (f.meet i).tasks[number]? = some (.check done) →
      f.bench.slot.active = some run.ticket ∧
        (f.meet i).bench.slot.active = if done.result.isNone then some run.ticket else none
  /-- The slot is freed by the end of the check that holds it, and by nothing else. -/
  owned : ∀ holder, f.bench.slot.active = some holder →
    (f.meet i).bench.slot.active = some holder ∨
      ∃ (number : Nat) (run done : CheckRun), f.tasks[number]? = some (.check run) ∧
        run.ticket = holder ∧ run.result = none ∧
          (f.meet i).tasks[number]? = some (.check done) ∧ done.result.isSome = true
  /-- A check has an exit where its output had ended, it takes a step, and its process has
  ended. -/
  exits : ∀ (number : Nat) (run done : CheckRun), f.tasks[number]? = some (.check run) →
    run.result = none → (f.meet i).tasks[number]? = some (.check done) → ∀ report exit,
      done.stage = .ended (.ok (report, exit)) ↔
        i = .move (.act .step number) ∧ ∃ process waited, run.stage = .exiting process report ∧
          (f.bench.child? process).bind Child.wait? = some (exit, waited)
  /-- Then its findings are shown, if anybody follows. -/
  published : ∀ (number : Nat) (run done : CheckRun) (report : CheckReport) (exit : Exit),
    f.tasks[number]? = some (.check run) → run.result = none →
      (f.meet i).tasks[number]? = some (.check done) → done.stage = .ended (.ok (report, exit)) →
        (f.meet i).bench.sink =
          if f.bench.attended then f.bench.sink.publish (.ofMapping report.diagnostics)
          else f.bench.sink
  /-- Whoever follows sees the findings of the report then, in place of everything before. -/
  replaced : ∀ (number : Nat) (run done : CheckRun) (report : CheckReport) (exit : Exit),
    f.tasks[number]? = some (.check run) → run.result = none →
      (f.meet i).tasks[number]? = some (.check done) → done.stage = .ended (.ok (report, exit)) →
        f.bench.attended = true →
          (f.meet i).bench.sink.mapping = report.diagnostics ∧
            (f.meet i).bench.sink.updates = f.bench.sink.updates + 1

/-- A check stays as it is, or is what happened to it. -/
theorem check_of_meet {f : Floor} {number : Nat} {run : CheckRun}
    (htask : f.tasks[number]? = some (.check run)) (i : Incident) :
    ∃ done, (f.meet i).tasks[number]? = some (.check done) ∧
      (done = run ∧ (∀ act, i ≠ .move (.act act number)) ∨
        ∃ act, i = .move (.act act number) ∧ done = (run.act f.bench act).2 ∧
          (f.meet i).bench = (run.act f.bench act).1) := by
  rcases i.acts_or number with ⟨act, rfl⟩ | hother
  · have hmeet : f.meet (.move (.act act number)) = _ := act_of_getElem? htask act
    rw [hmeet, Task.act_check, List.getElem?_set_self (List.getElem?_eq_some_iff.mp htask).1]
    exact ⟨_, rfl, Or.inr ⟨act, rfl, rfl, rfl⟩⟩
  · exact ⟨run, tasks_meet htask hother, Or.inl ⟨rfl, hother⟩⟩

/-- A check that runs holds the slot, and frees it where it ends. -/
theorem Kept.freed {f : Floor} (h : f.Kept) {number : Nat} {run done : CheckRun} {i : Incident}
    (htask : f.tasks[number]? = some (.check run)) (hresult : run.result = none)
    (hdone : (f.meet i).tasks[number]? = some (.check done)) :
    f.bench.slot.active = some run.ticket ∧
      (f.meet i).bench.slot.active = if done.result.isNone then some run.ticket else none := by
  have hactive := (h.running number run htask hresult).1
  refine ⟨hactive, ?_⟩
  obtain ⟨after, hafter, hbecame⟩ := check_of_meet htask i
  obtain rfl := Task.check.inj (Option.some.inj (hafter.symm.trans hdone))
  rcases hbecame with ⟨rfl, _⟩ | ⟨act, rfl, rfl, hbench⟩
  · rw [((kept_meet h i).running number after hdone hresult).1, hresult]
    rfl
  · obtain ⟨b, hfollows, hholds⟩ := h.follows_check htask hresult act
    rw [hbench, hfollows.slot]
    cases hended : (run.act f.bench act).2.stage.isEnded with
    | false =>
        rw [(hholds.held hended).1, hfollows.result.mpr hended]
        rfl
    | true =>
        have hsome : (run.act f.bench act).2.result ≠ none := fun hnone => by
          rw [hfollows.result.mp hnone] at hended
          cases hended
        rw [hholds.freed hended, if_neg fun hnone => hsome (Option.isNone_iff_eq_none.mp hnone)]

/-- A check that is begun is turned away or enters. -/
theorem check_of_enter {f : Floor} {number : Nat} {run : CheckRun} {spec : SpecFiles}
    {extra : List Text} (hnone : f.tasks[number]? = none)
    (h : (f.enter spec extra).tasks[number]? = some (.check run)) :
    (∃ holder, f.bench.slot.active = some holder ∧ (f.enter spec extra).bench = f.bench ∧
      run.result = some (.error (.busy ⟨holder⟩))) ∨
    run.result = none ∧ f.bench.slot.active = none ∧
      (f.enter spec extra).bench.slot.active = some run.ticket ∧
        (f.enter spec extra).bench.slot.last = some ⟨run.spec, run.extra⟩ := by
  cases hactive : f.bench.slot.active with
  | some holder =>
      rw [enter_of_active hactive] at h ⊢
      obtain rfl := Task.check.inj (eq_of_getElem?_concat hnone h)
      exact Or.inl ⟨holder, rfl, rfl, rfl⟩
  | none =>
      rw [enter_of_free hactive] at h ⊢
      obtain rfl := Task.check.inj (eq_of_getElem?_concat hnone h)
      exact Or.inr ⟨rfl, rfl, rfl, rfl⟩

/-- A check that is new was begun by the incident. -/
theorem check_of_new {f : Floor} {number : Nat} {run : CheckRun} {i : Incident}
    (hnone : f.tasks[number]? = none) (h : (f.meet i).tasks[number]? = some (.check run)) :
    ∃ spec extra, f.meet i = f.enter spec extra := by
  have hmeets := f.meets i
  generalize f.meet i = after at hmeets h ⊢
  have hlength := List.getElem?_eq_none_iff.mp hnone
  cases hmeets with
  | acts _ _ _ =>
      have hearly := (List.getElem?_eq_some_iff.mp h).1
      rw [List.length_set] at hearly
      exact absurd hearly (Nat.not_lt.mpr hlength)
  | @enters spec extra _ => exact ⟨spec, extra, rfl⟩
  | parses _ => cases eq_of_getElem?_concat hnone h
  | passes _ _ =>
      rw [hnone] at h
      cases h

/-- A check that runs stays as it is, or goes on from its stage on the bench, and has a result
where it has ended. -/
theorem stage_of_meet {f : Floor} {number : Nat} {run done : CheckRun} {i : Incident}
    (htask : f.tasks[number]? = some (.check run)) (hresult : run.result = none)
    (hdone : (f.meet i).tasks[number]? = some (.check done)) :
    done = run ∧ (∀ act, i ≠ .move (.act act number)) ∨
      ∃ act, i = .move (.act act number) ∧ done = (run.act f.bench act).2 ∧
        (f.meet i).bench = (run.act f.bench act).1 ∧
        done.stage = (run.plan.act f.bench run.stage act).2 ∧
          done.result = done.stage.last?.map CheckRun.verdict := by
  obtain ⟨after, hafter, hbecame⟩ := check_of_meet htask i
  obtain rfl := Task.check.inj (Option.some.inj (hafter.symm.trans hdone))
  refine hbecame.imp_right fun ⟨act, hact, hsame, hbench⟩ => ⟨act, hact, hsame, hbench, ?_⟩
  have hstage : after.stage = (run.plan.act f.bench run.stage act).2 := by
    rw [hsame, CheckRun.act_eq f.bench hresult]
    exact (CheckRun.enter_spec hresult _ _).2.2.2.1
  refine ⟨hstage, ?_⟩
  rw [hstage, hsame, CheckRun.act_eq f.bench hresult]
  exact CheckRun.result_enter hresult _ _

/-- Only a check that is new is turned away. -/
theorem Kept.refused {f : Floor} (h : f.Kept) {late : Nat → Prop} (htold : f.Told late)
    {number : Nat} {run : CheckRun} {error : Busy} {i : Incident}
    (hafter : (f.meet i).tasks[number]? = some (.check run))
    (hbusy : run.result = some (.error (.busy error))) :
    f.tasks[number]? = some (.check run) ∨ f.tasks[number]? = none ∧
      f.bench.slot.active = some error.holder ∧ (f.meet i).bench = f.bench := by
  rcases task_of_meet hafter with hold | ⟨act, before, _, hbefore, hopen, _, htask⟩ | ⟨hnone, _⟩
  · exact Or.inl hold
  · obtain ⟨c, rfl, rfl⟩ := Task.check_of_act htask
    have hresult : c.result = none := Option.map_eq_none_iff.mp hopen
    exact absurd hbusy (CheckRun.not_busy_act h.sound hresult
      ((htold.checks number c hbefore).isEnded hresult) act error)
  · obtain ⟨spec, extra, henter⟩ := check_of_new hnone hafter
    rw [henter] at hafter ⊢
    rcases check_of_enter hnone hafter with ⟨holder, hactive, hbench, hresult⟩ | ⟨hresult, _⟩
    · rw [hbusy] at hresult
      cases hresult
      exact Or.inr ⟨hnone, hactive, hbench⟩
    · rw [hbusy] at hresult
      cases hresult

/-- The slot is freed by the end of the check that holds it. -/
theorem Kept.freed_by_holder {f : Floor} (h : f.Kept) {holder : Nat}
    (hactive : f.bench.slot.active = some holder) (i : Incident) :
    (f.meet i).bench.slot.active = some holder ∨
      ∃ (number : Nat) (run done : CheckRun), f.tasks[number]? = some (.check run) ∧
        run.ticket = holder ∧ run.result = none ∧
          (f.meet i).tasks[number]? = some (.check done) ∧ done.result.isSome = true := by
  obtain ⟨number, run, htask, hresult, rfl⟩ := h.held holder hactive
  obtain ⟨done, hdone, _⟩ := check_of_meet htask i
  have hfreed := (h.freed htask hresult hdone).2
  cases hended : done.result with
  | none =>
      rw [hended] at hfreed
      exact Or.inl hfreed
  | some last => exact Or.inr ⟨number, run, done, htask, rfl, hresult, hdone, by rw [hended]; rfl⟩

/-- What was checked last is changed by a check that enters. -/
theorem last_meet (f : Floor) (i : Incident) :
    (f.meet i).bench.slot.last = f.bench.slot.last ∨
      ∃ (number : Nat) (run : CheckRun), f.tasks[number]? = none ∧
        (f.meet i).tasks[number]? = some (.check run) ∧ run.result = none := by
  rcases f.shows_meet i with ⟨spec, extra, hfree, henter, _⟩ | hshows
  · rw [henter, enter_of_free hfree]
    exact Or.inr ⟨f.tasks.length, _, List.getElem?_eq_none (Nat.le_refl _),
      List.getElem?_concat_length, rfl⟩
  · exact Or.inl hshows.last

/-- A check has an exit where it waited for a process that has ended, and takes a step. -/
theorem Told.exits {f : Floor} {late : Nat → Prop} (h : f.Told late) {number : Nat}
    {run done : CheckRun} {i : Incident} (htask : f.tasks[number]? = some (.check run))
    (hresult : run.result = none) (hdone : (f.meet i).tasks[number]? = some (.check done))
    (report : CheckReport) (exit : Exit) :
    done.stage = .ended (.ok (report, exit)) ↔
      i = .move (.act .step number) ∧ ∃ process waited, run.stage = .exiting process report ∧
        (f.bench.child? process).bind Child.wait? = some (exit, waited) := by
  have hopen := (h.checks number run htask).isEnded hresult
  rcases stage_of_meet htask hresult hdone with ⟨rfl, hother⟩ | ⟨act, rfl, _, _, hstage, _⟩
  · refine iff_of_false (fun hended => ?_) fun hstep => hother .step hstep.1
    rw [hended] at hopen
    cases hopen
  · rw [hstage, run.plan.ended_ok_iff f.bench hopen act]
    simp only [Incident.move.injEq, Move.act.injEq, and_true]

/-- A check that has an exit shows its findings as it ends. -/
theorem Told.published {f : Floor} {late : Nat → Prop} (h : f.Told late) {number : Nat}
    {run done : CheckRun} {i : Incident} {report : CheckReport} {exit : Exit}
    (htask : f.tasks[number]? = some (.check run)) (hresult : run.result = none)
    (hdone : (f.meet i).tasks[number]? = some (.check done))
    (hended : done.stage = .ended (.ok (report, exit))) :
    (f.meet i).bench.sink =
      if f.bench.attended then f.bench.sink.publish (.ofMapping report.diagnostics)
      else f.bench.sink := by
  obtain ⟨rfl, _⟩ := (h.exits htask hresult hdone report exit).mp hended
  rcases stage_of_meet htask hresult hdone with
    ⟨_, hother⟩ | ⟨act, hact, hsame, hbench, _, hverdict⟩
  · exact absurd rfl (hother .step)
  · have hshows := Task.shows_act f.bench (.check run) (Option.map_eq_none_iff.mpr hresult) act
    rw [Task.act_check, ← hsame, Task.findings?_check hended hverdict] at hshows
    rw [hbench]
    exact hshows.sink

/-- A check that has an exit has the findings that its report tells of. -/
theorem Told.findings {f : Floor} {late : Nat → Prop} (h : f.Told late) {number : Nat}
    {done : CheckRun} {report : CheckReport} {exit : Exit}
    (hdone : f.tasks[number]? = some (.check done))
    (hended : done.stage = .ended (.ok (report, exit))) :
    (Collection.ofMapping report.diagnostics).mapping = report.diagnostics := by
  obtain ⟨stopped, hreport, _⟩ := (hended ▸ (h.checks number done hdone).stage).cancelled_iff
  exact hreport.findings

/-- Whatever happens is orderly. -/
theorem Kept.orderly {f : Floor} (h : f.Kept) {late : Nat → Prop} (htold : f.Told late)
    (i : Incident) : f.Orderly i where
  refused _ _ _ hafter hbusy := h.refused htold hafter hbusy
  entered number run hnone hafter := by
    obtain ⟨spec, extra, henter⟩ := check_of_new hnone hafter
    rw [henter] at hafter ⊢
    exact (check_of_enter hnone hafter).imp_left fun ⟨holder, _, _, hresult⟩ => ⟨⟨holder⟩, hresult⟩
  last := f.last_meet i
  freed _ _ _ htask hresult hdone := h.freed htask hresult hdone
  owned _ hactive := h.freed_by_holder hactive i
  exits _ _ _ htask hresult hdone := htold.exits htask hresult hdone
  published _ _ _ _ _ htask hresult hdone hended := htold.published htask hresult hdone hended
  replaced _ _ _ _ _ htask hresult hdone hended hattended := by
    rw [htold.published htask hresult hdone hended, if_pos hattended]
    exact ⟨(htold.meet h i).findings hdone hended, rfl⟩

/-! ## All incidents -/

/-- What is shown after all that happened, and what checks have to do with it, given which task
has shown what. -/
structure Accounted (f : Floor) (attended : Bool) (ledger : List (Nat × Collection)) : Prop where
  /-- If anybody follows, the entries have been shown one after the other. -/
  sink : f.bench.sink =
    if attended then (ledger.map Prod.snd).foldl Sink.publish .empty else .empty
  /-- So the last entry is on display, and there was one replacement for each. -/
  displays : Displays f.bench.sink attended ledger
  /-- A check that has ended with a report and an exit has one entry, the findings of its report,
  and then its exit counted. -/
  shown : ∀ (number : Nat) (run : CheckRun) (report : CheckReport) (exit : Exit),
    f.tasks[number]? = some (.check run) → run.stage = .ended (.ok (report, exit)) →
      (∃ found, ledger.filter (·.1 = number) = [(number, found)] ∧
        found.mapping = report.diagnostics) ∧
      run.result = some
        (if exit.cancelled = false ∧ (exit.status < 0 ∨ 9 < exit.status) then
          .error (.tool ⟨Checker.tool.displayName, exit.status, exit.errors⟩)
        else .ok report)
  /-- Any other check has no entry. -/
  silent : ∀ (number : Nat) (run : CheckRun), f.tasks[number]? = some (.check run) →
    (∀ last, run.stage ≠ .ended (.ok last)) → ledger.filter (·.1 = number) = []

theorem Told.accounted {first : Floor} {late : Nat → Prop} {incidents : List Incident}
    (htold : (first.pass incidents).Told late) (hsink : first.bench.sink = .empty)
    (hnone : ∀ number, first.findings? number = none) :
    (first.pass incidents).Accounted first.bench.attended (first.ledger incidents) := by
  have hfilter (number : Nat) : (first.ledger incidents).filter (·.1 = number) =
      ((first.pass incidents).findings? number).toList.map (number, ·) := by
    rw [filter_ledger, hnone number]
    rfl
  refine ⟨?_, displays_pass hsink incidents, fun number run report exit htask hstage => ?_,
    fun number run htask hopen => ?_⟩
  · rw [sink_pass, hsink]
  · have hrun := htold.checks number run htask
    refine ⟨⟨_, ?_, htold.findings htask hstage⟩, ?_⟩
    · rw [hfilter, findings?, htask, Option.bind_some, Task.findings?_check hstage hrun.result]
      rfl
    · rw [hrun.result, hstage, ← CheckRun.verdict_ok]
      rfl
  · have hnothing : (Task.check run).findings? = none := by
      rw [Task.findings?.eq_def]
      split
      next heq =>
        cases heq
        exact absurd rfl (hopen _)
      next heq => cases heq
      next => rfl
    rw [hfilter, findings?, htask, Option.bind_some, hnothing]
    rfl

/-- Whatever has happened, the next incident is orderly, and what is shown is accounted for. -/
theorem checks_orderly (host : Host) (config : Config) (attended : Bool) (javaBehavior : Behavior)
    (behaviors : List Behavior) (incidents : List Incident) (i : Incident) :
    let first := empty (.idle host config attended javaBehavior behaviors)
    (first.pass incidents).Orderly i ∧
      (first.pass incidents).Accounted attended (first.ledger incidents) := by
  intro first
  have hkept : first.Kept := kept_idle host config attended javaBehavior behaviors
  obtain ⟨late, htold⟩ := told_of_pass hkept ⟨_, told_empty _⟩ incidents
  exact ⟨(kept_pass hkept incidents).orderly htold i, htold.accounted rfl fun _ => rfl⟩

/-- The findings of a tool that fails are shown before its failure counts. -/
example :
    let moves : List Move := Workshop.opening 0 ++ List.replicate 3 (.act .step 0)
    let last := (empty (.idle Workshop.host Workshop.settings true Workshop.java
      [.runs ⟨some [], some [], 12, .atOnce, 0, false⟩])).run moves
    last.bench.sink = ⟨[("/A.tla".toList, [])], 1⟩ ∧ last.bench.slot.active = none ∧
      last.tasks[0]?.any (fun task => task.result?.any fun result =>
        match result with
        | .error (.tool failure) => failure.status = 12
        | _ => false) := by decide

end Floor

end TlaRunner.Workflow
