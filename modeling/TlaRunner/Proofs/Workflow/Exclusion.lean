import TlaRunner.Proofs.Workflow.Moves

/-!
# Model checkers beside each other

A check that fails while its tool runs gives back the slot and does not wait for the tool: the
next check may start its tool while the tool that was given up (`Floor.GivenUp`) still runs.
There is no other way for two model checkers to run at the same time: every model checker that
runs belongs to the check in the slot or was given up, and a check that starts its tool finds
only such running that were given up.
-/

namespace TlaRunner.Workflow

open Files (Host SpecFiles)
open Supervision (Behavior)

/-- At most one of some processes runs. -/
def Bench.Apart (b : Bench) (processes : List Nat) : Prop :=
  ∀ p ∈ processes, ∀ q ∈ processes, b.isRunning p = true → b.isRunning q = true → p = q

namespace Floor

/-- The model checker that something happens to, or that is started. -/
def checker? (f : Floor) : Move → Option Nat
  | .act act number =>
    match f.tasks[number]? with
    | some (.check _) => f.tool? (.act act number) number
    | _ => none
  | _ => none

/-- Whether something that happens starts a model checker. -/
def Starts (f : Floor) (m : Move) : Prop :=
  f.checker? m = some f.bench.calls.length

/-- The model checkers that were started while a list of things happened, or that something
happened to. -/
def checkers (f : Floor) : List Move → List Nat
  | [] => []
  | m :: rest => (f.checker? m).toList ++ (f.move m).checkers rest

/-- Whether a process is the tool of a check that failed. -/
def GivenUp (f : Floor) (process : Nat) : Prop :=
  ∃ (number : Nat) (run : CheckRun) (failure : Failure),
    f.tasks[number]? = some (.check run) ∧ run.stage = .ended (.error failure) ∧
      failure.isBusy = false ∧ f.bench.slot.processes[run.ticket]? = some (some process)

/-! ## Model checkers and tickets -/

theorem Kept.stage_ended {f : Floor} (h : f.Kept) {number : Nat} {run : CheckRun}
    (htask : f.tasks[number]? = some (.check run)) (hresult : run.result ≠ none) :
    run.stage.isEnded = true := by
  have hopened := (Task.opened_check run).mp (h.fits _ (List.mem_of_getElem? htask)).opened
  cases hended : run.stage.isEnded with
  | true => rfl
  | false => exact absurd (hopened.mpr hended) hresult

theorem checker?_check {f : Floor} {number : Nat} {run : CheckRun}
    (htask : f.tasks[number]? = some (.check run)) (act : Act) :
    f.checker? (.act act number) =
      run.stage.toolAfter f.bench (f.act act number).bench := by
  rw [checker?, htask]
  simp only
  rw [tool?, htask]
  rfl

theorem Kept.checker?_of_result {f : Floor} (h : f.Kept) {number : Nat} {run : CheckRun}
    (htask : f.tasks[number]? = some (.check run)) (hresult : run.result ≠ none) (act : Act) :
    f.checker? (.act act number) = none := by
  have hended := h.stage_ended htask hresult
  rw [checker?_check htask]
  cases hstage : run.stage with
  | ended last => rfl
  | _ => rw [hstage] at hended; cases hended

/-- What a model checker comes from is something that happens to a check that runs. -/
theorem Kept.check_of_checker? {f : Floor} (h : f.Kept) {m : Move} {process : Nat}
    (hchecker : f.checker? m = some process) :
    ∃ (act : Act) (number : Nat) (run : CheckRun), m = .act act number ∧
      f.tasks[number]? = some (.check run) ∧ run.result = none ∧
      run.stage.toolAfter f.bench (f.act act number).bench = some process := by
  cases m with
  | act act number =>
      cases htask : f.tasks[number]? with
      | none => rw [checker?, htask] at hchecker; cases hchecker
      | some task =>
          cases task with
          | parse run => rw [checker?, htask] at hchecker; cases hchecker
          | check run =>
              by_cases hresult : run.result = none
              · rw [checker?_check htask] at hchecker
                exact ⟨act, number, run, rfl, htask, hresult, hchecker⟩
              · rw [h.checker?_of_result htask hresult] at hchecker
                cases hchecker
  | _ => cases hchecker

/-- Something that happens to a check gives the model checker to its ticket, and no process to
another ticket. -/
theorem Kept.processes_check {f : Floor} (h : f.Kept) {number : Nat} {run : CheckRun}
    (htask : f.tasks[number]? = some (.check run)) (act : Act) (process : Nat) :
    some process ∈ (f.act act number).bench.slot.processes ↔
      f.checker? (.act act number) = some process ∨ some process ∈ f.bench.slot.processes := by
  rw [checker?_check htask]
  by_cases hresult : run.result = none
  · obtain ⟨after, hfollows, hholds⟩ := h.follows_check htask hresult act
    obtain ⟨hactive, hown⟩ := h.running number run htask hresult
    have hbench : (f.act act number).bench = (run.act f.bench act).1 := by
      rw [act_of_getElem? htask, Task.act_check]
    rw [hbench, hfollows.slot, Stage.toolAfter_of_calls hfollows.calls]
    have hgiven (htool : run.stage.toolAfter f.bench after = some process) :
        some process ∈ after.slot.processes :=
      List.mem_of_getElem? (htool ▸ hholds.given)
    refine ⟨fun hafter => ?_, ?_⟩
    · rcases hholds.old_or_started hown hafter with hold | ⟨htool, _⟩
      · exact Or.inr hold
      · exact Or.inl htool
    · rintro (htool | hbefore)
      · exact hgiven htool
      · obtain ⟨ticket, hticket⟩ := List.mem_iff_getElem?.mp hbefore
        by_cases hsame : ticket = run.ticket
        · subst hsame
          rw [hown] at hticket
          exact hgiven (Stage.toolAfter_of_tool? (Option.some.inj hticket) f.bench after)
        · rw [← hholds.others ticket hsame] at hticket
          exact List.mem_of_getElem? hticket
  · have hnone := h.checker?_of_result htask hresult act
    rw [checker?_check htask] at hnone
    rw [hnone, act_of_result? htask fun hnone => hresult (Option.map_eq_none_iff.mp hnone)]
    exact ⟨Or.inr, fun hprocess => hprocess.resolve_left fun hnone => by cases hnone⟩

/-- A move gives at most the model checker to a ticket, and a ticket never loses its process. -/
theorem Kept.processes_move {f : Floor} (h : f.Kept) (m : Move) (process : Nat) :
    some process ∈ (f.move m).bench.slot.processes ↔
      f.checker? m = some process ∨ some process ∈ f.bench.slot.processes := by
  have hsame {checker : Option Nat} (hnone : checker = none) :
      some process ∈ f.bench.slot.processes ↔
        checker = some process ∨ some process ∈ f.bench.slot.processes := by
    refine ⟨Or.inr, fun hprocess => hprocess.resolve_left fun hsome => ?_⟩
    rw [hnone] at hsome
    cases hsome
  have henter (spec : SpecFiles) (extra : List Text) :
      some process ∈ (f.enter spec extra).bench.slot.processes ↔
        some process ∈ f.bench.slot.processes := by
    cases hactive : f.bench.slot.active with
    | some holder => rw [enter_of_active hactive]
    | none =>
        rw [processes_enter hactive, List.mem_append]
        refine ⟨fun hprocess => hprocess.resolve_right fun hnone => ?_, Or.inl⟩
        cases List.mem_singleton.mp hnone
  cases m with
  | check spec extra => exact (henter spec extra).trans (hsame rfl)
  | again =>
      rw [move]
      split
      next request _ => exact (henter request.spec request.extra).trans (hsame rfl)
      next => exact hsame rfl
  | act act number =>
      change some process ∈ (f.act act number).bench.slot.processes ↔ _
      cases htask : f.tasks[number]? with
      | none =>
          rw [Floor.act, htask]
          exact hsame (by rw [checker?, htask])
      | some task =>
          cases task with
          | check run => exact h.processes_check htask act process
          | parse run =>
              have hslot : (f.act act number).bench.slot = f.bench.slot := by
                by_cases hresult : (Task.parse run).result? = none
                · exact h.slot_parse htask hresult act
                · rw [act_of_result? htask hresult act]
              rw [hslot]
              exact hsame (by rw [checker?, htask])
  | stop =>
      change some process ∈ f.bench.stop.1.slot.processes ↔ _
      rw [f.bench.slot_stop.2]
      exact hsame rfl
  | _ => exact hsame rfl

/-- The model checkers are the processes that tickets were given. -/
theorem Kept.processes_run {f : Floor} (h : f.Kept) (moves : List Move) (process : Nat) :
    some process ∈ (f.run moves).bench.slot.processes ↔
      process ∈ f.checkers moves ∨ some process ∈ f.bench.slot.processes := by
  induction moves generalizing f with
  | nil => exact ⟨Or.inr, fun hprocess => hprocess.resolve_left List.not_mem_nil⟩
  | cons m rest ih =>
      change some process ∈ ((f.move m).run rest).bench.slot.processes ↔ _
      rw [ih (kept_move h m), h.processes_move m process, checkers, List.mem_append,
        Option.mem_toList, or_left_comm, or_assoc]

/-! ## Model checkers that run -/

/-- A process of a ticket that runs is that of the check in the slot, or was given up. -/
theorem Kept.active_or_givenUp {f : Floor} (h : f.Kept) {process : Nat}
    (hprocess : some process ∈ f.bench.slot.processes)
    (hrunning : f.bench.isRunning process = true) :
    f.bench.slot.activeTicket.bind (·.process) = some process ∨ f.GivenUp process := by
  obtain ⟨ticket, hticket⟩ := List.mem_iff_getElem?.mp hprocess
  obtain ⟨number, run, htask, rfl, hstate⟩ := h.owned ticket process hticket
  rcases hstate with hresult | ⟨_, hexited⟩ | ⟨failure, hstage, hbusy⟩
  · refine Or.inl ?_
    rw [Slot.process_activeTicket (h.running number run htask hresult).1, hticket, Option.join_some]
  · rw [Bench.isRunning_of_exited hexited] at hrunning
    cases hrunning
  · exact Or.inr ⟨number, run, failure, htask, hstage, hbusy, hticket⟩

/-- A model checker is one that a ticket has, or the next process. -/
theorem Kept.old_or_next {f : Floor} (h : f.Kept) {m : Move} {process : Nat}
    (hchecker : f.checker? m = some process) :
    some process ∈ f.bench.slot.processes ∨ process = f.bench.calls.length := by
  obtain ⟨act, number, run, _, htask, hresult, htool⟩ := h.check_of_checker? hchecker
  rcases Stage.eq_some_or_of_toolAfter htool with hbefore | ⟨hnext, _⟩
  · have hown := (h.running number run htask hresult).2
    rw [hbefore] at hown
    exact Or.inl (List.mem_of_getElem? hown)
  · exact Or.inr hnext

/-- The check that starts its tool has none yet, so a model checker that runs then was given
up. -/
theorem Kept.givenUp_of_starts {f : Floor} (h : f.Kept) {m : Move} (hstarts : f.Starts m)
    {process : Nat} (hprocess : some process ∈ f.bench.slot.processes)
    (hrunning : f.bench.isRunning process = true) : f.GivenUp process := by
  refine (h.active_or_givenUp hprocess hrunning).resolve_left fun hactive => ?_
  obtain ⟨act, number, run, _, htask, hresult, htool⟩ := h.check_of_checker? hstarts
  obtain ⟨hheld, hown⟩ := h.running number run htask hresult
  rw [Slot.process_activeTicket hheld, hown, Option.join_some] at hactive
  rw [Stage.toolAfter_of_tool? hactive] at htool
  rw [Option.some.inj htool, Bench.isRunning, Bench.child?_length] at hrunning
  cases hrunning

/-- A model checker that is started where no other runs leaves at most one that runs. -/
theorem Kept.apart_move {f : Floor} (h : f.Kept) {known : List Nat}
    (hknown : ∀ p, p ∈ known ↔ some p ∈ f.bench.slot.processes) (hapart : f.bench.Apart known)
    {m : Move} (hpatient : f.Starts m →
      ∀ p ∈ known, f.bench.isRunning p = true → ¬f.GivenUp p) :
    (f.move m).bench.Apart (known ++ (f.checker? m).toList) := by
  have hold {p : Nat} (hp : some p ∈ f.bench.slot.processes)
      (hrunning : (f.move m).bench.isRunning p = true) :
      p ∈ known ∧ f.bench.isRunning p = true :=
    ⟨(hknown p).mpr hp, (h.becomes_move m).isRunning (h.spawned p hp) hrunning⟩
  have hcases {p : Nat} (hp : p ∈ known ++ (f.checker? m).toList)
      (hrunning : (f.move m).bench.isRunning p = true) :
      p ∈ known ∧ f.bench.isRunning p = true ∨ f.Starts m ∧ p = f.bench.calls.length := by
    rcases List.mem_append.mp hp with hbefore | hchecker
    · exact Or.inl (hold ((hknown p).mp hbefore) hrunning)
    · have hchecker := Option.mem_toList.mp hchecker
      rcases h.old_or_next hchecker with hbefore | rfl
      · exact Or.inl (hold hbefore hrunning)
      · exact Or.inr ⟨hchecker, rfl⟩
  have hmixed {p : Nat} (hp : p ∈ known ∧ f.bench.isRunning p = true) (hstarts : f.Starts m) :
      False :=
    hpatient hstarts p hp.1 hp.2 (h.givenUp_of_starts hstarts ((hknown p).mp hp.1) hp.2)
  intro p hp q hq hrunning hother
  rcases hcases hp hrunning with hbefore | ⟨hstarts, rfl⟩
  · rcases hcases hq hother with hlast | ⟨hstarts, _⟩
    · exact hapart p hbefore.1 q hlast.1 hbefore.2 hlast.2
    · exact (hmixed hbefore hstarts).elim
  · rcases hcases hq hother with hlast | ⟨_, rfl⟩
    · exact (hmixed hlast hstarts).elim
    · rfl

/-- If no model checker is started while one that was given up runs, at most one runs. -/
theorem Kept.apart_run {f : Floor} (h : f.Kept) {known : List Nat}
    (hknown : ∀ p, p ∈ known ↔ some p ∈ f.bench.slot.processes) (hapart : f.bench.Apart known)
    {moves : List Move}
    (hpatient : ∀ before m rest, moves = before ++ m :: rest → (f.run before).Starts m →
      ∀ p ∈ known ++ f.checkers before, (f.run before).bench.isRunning p = true →
        ¬(f.run before).GivenUp p) :
    (f.run moves).bench.Apart (known ++ f.checkers moves) := by
  induction moves generalizing f known with
  | nil =>
      rw [checkers, List.append_nil]
      exact hapart
  | cons m rest ih =>
      have hfirst := hpatient [] m rest rfl
      rw [checkers, List.append_nil] at hfirst
      have hlater : ∀ p, p ∈ known ++ (f.checker? m).toList ↔
          some p ∈ (f.move m).bench.slot.processes := by
        intro p
        rw [h.processes_move m p, List.mem_append, hknown p, Option.mem_toList, or_comm]
      have hrest := ih (kept_move h m) hlater (h.apart_move hknown hapart hfirst)
        fun before m' rest' hmoves hstarts p hp => by
          rw [List.append_assoc] at hp
          exact hpatient (m :: before) m' rest' (by rw [hmoves, List.cons_append]) hstarts p hp
      rw [List.append_assoc] at hrest
      exact hrest

/-- Whatever happens, every model checker that runs is that of the check in the slot or was
given up by a check that failed.  So at most one runs as long as none that was given up runs
beside another; and none ever does if no model checker is started while one that was given up
still runs. -/
theorem checkers_apart (host : Host) (config : Config) (attended : Bool) (javaBehavior : Behavior)
    (behaviors : List Behavior) (moves : List Move) :
    let first := empty (.idle host config attended javaBehavior behaviors)
    let last := first.run moves
    (∀ p ∈ first.checkers moves, last.bench.isRunning p = true →
      last.bench.slot.activeTicket.bind (·.process) = some p ∨ last.GivenUp p) ∧
    (last.bench.Apart (first.checkers moves) ↔
      ∀ p ∈ first.checkers moves, last.bench.isRunning p = true → last.GivenUp p →
        ∀ q ∈ first.checkers moves, last.bench.isRunning q = true → q = p) ∧
    ((∀ before m rest, moves = before ++ m :: rest → (first.run before).Starts m →
        ∀ p ∈ first.checkers before, (first.run before).bench.isRunning p = true →
          ¬(first.run before).GivenUp p) →
      last.bench.Apart (first.checkers moves)) := by
  intro first last
  have hkept : first.Kept := kept_idle host config attended javaBehavior behaviors
  have hwhose : ∀ p ∈ first.checkers moves, last.bench.isRunning p = true →
      last.bench.slot.activeTicket.bind (·.process) = some p ∨ last.GivenUp p := fun p hp =>
    (kept_run hkept moves).active_or_givenUp ((hkept.processes_run moves p).mpr (Or.inl hp))
  refine ⟨hwhose, ⟨fun hapart p hp hrunning _ q hq hother => hapart q hq p hp hother hrunning,
    fun halone p hp q hq hrunning hother => ?_⟩, fun hpatient => ?_⟩
  · rcases hwhose p hp hrunning with hfirst | hgiven
    · rcases hwhose q hq hother with hsecond | hgiven
      · exact Option.some.inj (hfirst.symm.trans hsecond)
      · exact halone q hq hother hgiven p hp hrunning
    · exact (halone p hp hrunning hgiven q hq hother).symm
  · have hnone : ∀ p, p ∈ [] ↔ some p ∈ first.bench.slot.processes := fun p =>
      iff_of_false List.not_mem_nil List.not_mem_nil
    have hapart : first.bench.Apart [] := fun p hp => absurd hp List.not_mem_nil
    exact hkept.apart_run hnone hapart hpatient

/-- Two model checkers may run at the same time: one that was given up takes its time to end,
and the next check does not wait for it. -/
theorem checkers_together :
    ¬ ∀ (host : Host) (config : Config) (attended : Bool) (javaBehavior : Behavior)
      (behaviors : List Behavior) (moves : List Move),
      let first := empty (.idle host config attended javaBehavior behaviors)
      (first.run moves).bench.Apart (first.checkers moves) := by
  intro h
  have hsame := h Workshop.host Workshop.settings false Workshop.java [Workshop.deaf, Workshop.deaf]
    (Workshop.opening 0 ++ [.act .step 0, .act .cancel 0, .again, .act .step 1, .act .step 1])
    1 (by decide) 2 (by decide) (by decide) (by decide)
  cases hsame

end Floor

end TlaRunner.Workflow
