import TlaRunner.Proofs.Workflow.Incident

/-!
# Stops and interrupts

A stop finds the check in the slot at any stage.  It is noted on the ticket, and the process is
interrupted at once if it is there, and else when it is attached.  What every incident keeps is
`Bench.Heeded`: the process of a ticket on which a stop was asked for was asked to end, unless
its end was known by then.

A process is asked to end once at most, and only as long as its end is not known, which is kept
for processes as such (`Child.Becomes`).
-/

namespace TlaRunner.Workflow

open Files (Host SpecFiles)
open Supervision (Behavior)

variable {σ ρ : Type}

namespace Bench

/-- Where a stop was asked for, the process heard of it. -/
def Heeded (b : Bench) : Prop :=
  ∀ ticket process : Nat, b.slot.asked ticket = true →
    b.slot.processes[ticket]? = some (some process) → b.Heard process

/-- A bench where tickets have the processes that they had, or processes that heard. -/
theorem Heeded.of_tickets {b after : Bench} (h : b.Heeded) (hbecomes : b.Becomes after)
    (hasked : ∀ ticket, after.slot.asked ticket = b.slot.asked ticket)
    (hprocesses : ∀ ticket process : Nat, b.slot.asked ticket = true →
      after.slot.processes[ticket]? = some (some process) →
        b.slot.processes[ticket]? = some (some process) ∨ after.Heard process) :
    after.Heeded := by
  intro ticket process hticket hprocess
  rw [hasked] at hticket
  rcases hprocesses ticket process hticket hprocess with hold | hheard
  · exact hbecomes.heard (h ticket process hticket hold)
  · exact hheard

theorem Heeded.of_slot {b after : Bench} (h : b.Heeded) (hbecomes : b.Becomes after)
    (hslot : after.slot = b.slot) : after.Heeded :=
  h.of_tickets hbecomes (fun ticket => by rw [hslot]) fun ticket process _ hprocess =>
    Or.inl (hslot ▸ hprocess)

theorem Heeded.of_released {b after : Bench} (h : b.Heeded) (hbecomes : b.Becomes after)
    {p : Plan σ ρ} (hslot : after.slot = p.released b.slot) : after.Heeded := by
  cases hticket : p.ticket with
  | none => exact h.of_slot hbecomes (by rw [hslot, Plan.released, hticket]; rfl)
  | some own =>
      rw [Plan.released, hticket] at hslot
      refine h.of_tickets hbecomes (fun ticket => ?_) fun ticket process _ hprocess => Or.inl ?_
      · rw [hslot]
        exact b.slot.asked_release own ticket
      · rw [hslot] at hprocess
        rw [← b.slot.processes_release own]
        exact hprocess

/-- A stop is heeded at once where the process is there. -/
theorem heeded_stop {b : Bench} (h : b.Heeded)
    (hspawned : ∀ process : Nat, some process ∈ b.slot.processes →
      (b.child? process).isSome = true) : b.stop.1.Heeded := by
  intro ticket process hasked hprocess
  rw [b.slot_stop.2] at hprocess
  rw [b.asked_stop, Bool.or_eq_true, Bool.and_eq_true, beq_iff_eq] at hasked
  rcases hasked with hbefore | ⟨hactive, _⟩
  · exact b.becomes_stop.heard (h ticket process hbefore hprocess)
  · exact heard_stop hactive hprocess (hspawned process (List.mem_of_getElem? hprocess))

end Bench

/-! ## Runs -/

namespace Plan

variable {p : Plan σ ρ} {b after : Bench} {stage next : Stage σ ρ} {act : Act}

theorem asked_released (p : Plan σ ρ) (slot : Slot) (ticket : Nat) :
    (p.released slot).asked ticket = slot.asked ticket := by
  rw [released]
  cases p.ticket with
  | none => rfl
  | some own => exact slot.asked_release own ticket

theorem asked_attached (p : Plan σ ρ) (slot : Slot) (process ticket : Nat) :
    (p.attached slot process).asked ticket = slot.asked ticket := by
  rw [attached]
  cases p.ticket with
  | none => rfl
  | some own => exact slot.asked_attach own process ticket

/-- A run asks for no stop. -/
theorem Goes.asked (hgoes : p.Goes b stage act after next) (ticket : Nat) :
    after.slot.asked ticket = b.slot.asked ticket := by
  cases hgoes with
  | goes _ _ _ hslot => rw [hslot]
  | starts _ _ _ _ _ hslot => rw [hslot, asked_attached]
  | leaves _ _ hslot => rw [hslot, asked_released]
  | fails _ _ _ hslot => rw [hslot, asked_released]
  | drops _ _ _ _ _ hslot => rw [hslot, asked_released, asked_attached]
  | breaks _ _ _ _ hslot => rw [hslot, asked_released]
  | deserts _ _ _ hslot => rw [hslot, asked_released]

theorem processes_released (p : Plan σ ρ) (slot : Slot) :
    (p.released slot).processes = slot.processes := by
  rw [released]
  cases p.ticket with
  | none => rfl
  | some own => exact slot.processes_release own

/-- The process that is attached is that of the run's own ticket. -/
theorem old_or_own_of_attached {slot : Slot} {started ticket process : Nat}
    (h : (p.attached slot started).processes[ticket]? = some (some process)) :
    slot.processes[ticket]? = some (some process) ∨ p.ticket = some ticket ∧ process = started := by
  rw [attached] at h
  cases hown : p.ticket with
  | none =>
      rw [hown] at h
      exact Or.inl h
  | some own =>
      rw [hown, Option.map_some, Option.getD_some, slot.processes_attach, List.getElem?_set] at h
      split at h
      next hsame =>
        split at h
        next => exact Or.inr ⟨congrArg some hsame, (Option.some.inj (Option.some.inj h)).symm⟩
        next => cases h
      next => exact Or.inl h

/-- Whatever happens to a run, stops are heeded. -/
theorem Goes.heeded (hgoes : p.Goes b stage act after next) (hbecomes : b.Becomes after)
    (h : b.Heeded) : after.Heeded := by
  have hasked := hgoes.asked
  cases hgoes with
  | goes _ _ _ hslot => exact h.of_slot hbecomes hslot
  | starts _ _ _ _ _ hslot hheard =>
      -- a stop that came before the process is heard as the process is attached
      refine h.of_tickets hbecomes hasked fun ticket process hticket hprocess => ?_
      rw [hslot] at hprocess
      rcases old_or_own_of_attached hprocess with hold | ⟨hown, rfl⟩
      · exact Or.inl hold
      · refine Or.inr (hheard ?_)
        rw [isAsked, hown]
        exact hticket
  | leaves _ _ hslot => exact h.of_released hbecomes hslot
  | fails _ _ _ hslot => exact h.of_released hbecomes hslot
  | drops _ _ _ _ _ hslot hheard =>
      refine h.of_tickets hbecomes hasked fun ticket process _ hprocess => ?_
      rw [hslot, processes_released] at hprocess
      rcases old_or_own_of_attached hprocess with hold | ⟨_, rfl⟩
      · exact Or.inl hold
      · exact Or.inr hheard
  | breaks _ _ _ _ hslot => exact h.of_released hbecomes hslot
  | deserts _ _ _ hslot => exact h.of_released hbecomes hslot

end Plan

/-! ## Floors -/

namespace Floor

theorem heeded_idle (host : Host) (config : Config) (attended : Bool) (javaBehavior : Behavior)
    (behaviors : List Behavior) :
    (Bench.idle host config attended javaBehavior behaviors).Heeded := by
  intro ticket process hticket
  cases hticket

/-- Whatever happens, stops are heeded, and none is forgotten. -/
theorem Kept.heeded_act {f : Floor} (h : f.Kept) (hheeded : f.bench.Heeded) (act : Act)
    (number : Nat) :
    (f.act act number).bench.Heeded ∧
      ∀ ticket, (f.act act number).bench.slot.asked ticket = f.bench.slot.asked ticket := by
  cases htask : f.tasks[number]? with
  | none =>
      rw [Floor.act, htask]
      exact ⟨hheeded, fun _ => rfl⟩
  | some task =>
      by_cases hresult : task.result? = none
      · obtain ⟨σ, ρ, p, stage, next, after, hfollows⟩ := h.follows htask hresult act
        have hafter := hfollows.goes.heeded hfollows.becomes hheeded
        rw [act_of_getElem? htask]
        refine ⟨hafter.of_slot (Bench.becomes_of_calls hfollows.takes.calls) hfollows.takes.slot,
          fun ticket => ?_⟩
        rw [hfollows.takes.slot]
        exact hfollows.goes.asked ticket
      · rw [act_of_result? htask hresult]
        exact ⟨hheeded, fun _ => rfl⟩

/-- Nobody asks for a stop by entering. -/
theorem asked_enter (f : Floor) (spec : SpecFiles) (extra : List Text) (ticket : Nat) :
    (f.enter spec extra).bench.slot.asked ticket = f.bench.slot.asked ticket := by
  cases hactive : f.bench.slot.active with
  | some holder => rw [enter_of_active hactive]
  | none =>
      rw [enter_of_free hactive]
      exact f.bench.slot.asked_append ..

theorem heeded_enter {f : Floor} (hheeded : f.bench.Heeded) (spec : SpecFiles)
    (extra : List Text) :
    (f.enter spec extra).bench.Heeded ∧
      ∀ ticket, (f.enter spec extra).bench.slot.asked ticket = f.bench.slot.asked ticket := by
  have hasked := f.asked_enter spec extra
  refine ⟨?_, hasked⟩
  cases hactive : f.bench.slot.active with
  | some holder => rwa [enter_of_active hactive]
  | none =>
      refine hheeded.of_tickets (f.becomes_enter spec extra) hasked
        fun ticket process _ hprocess => Or.inl ?_
      rw [processes_enter hactive] at hprocess
      rcases getElem?_concat_iff.mp hprocess with hold | ⟨_, hnone⟩
      · exact hold
      · cases hnone

theorem Kept.heeded_meet {f : Floor} (h : f.Kept) (hheeded : f.bench.Heeded) (i : Incident) :
    (f.meet i).bench.Heeded ∧ ∀ ticket, f.bench.slot.asked ticket = true →
      (f.meet i).bench.slot.asked ticket = true := by
  have hsame {b : Bench} (hbecomes : f.bench.Becomes b) (hslot : b.slot = f.bench.slot) :
      b.Heeded ∧ ∀ ticket, f.bench.slot.asked ticket = true → b.slot.asked ticket = true :=
    ⟨hheeded.of_slot hbecomes hslot, fun ticket hticket => by rw [hslot]; exact hticket⟩
  have hkeep {b : Bench}
      (hb : b.Heeded ∧ ∀ ticket, b.slot.asked ticket = f.bench.slot.asked ticket) :
      b.Heeded ∧ ∀ ticket, f.bench.slot.asked ticket = true → b.slot.asked ticket = true :=
    ⟨hb.1, fun ticket hticket => by rw [hb.2]; exact hticket⟩
  cases i with
  | notice process => exact hsame (f.bench.becomes_notice process) rfl
  | move m =>
      cases m with
      | check spec extra => exact hkeep (heeded_enter hheeded spec extra)
      | again =>
          rw [meet, move]
          split
          next request _ => exact hkeep (heeded_enter hheeded request.spec request.extra)
          next => exact ⟨hheeded, fun _ hticket => hticket⟩
      | act act number => exact hkeep (h.heeded_act hheeded act number)
      | stop =>
          refine ⟨Bench.heeded_stop hheeded h.spawned, fun ticket hticket => ?_⟩
          exact (f.bench.asked_stop ticket).trans (by rw [hticket, Bool.true_or])
      | _ => exact hsame (h.becomes_move _) rfl

theorem Kept.heeded_pass {f : Floor} (h : f.Kept) (hheeded : f.bench.Heeded)
    (incidents : List Incident) :
    (f.pass incidents).bench.Heeded ∧ ∀ ticket, f.bench.slot.asked ticket = true →
      (f.pass incidents).bench.slot.asked ticket = true := by
  induction incidents generalizing f with
  | nil => exact ⟨hheeded, fun _ hticket => hticket⟩
  | cons i rest ih =>
      obtain ⟨hhere, hkept⟩ := h.heeded_meet hheeded i
      obtain ⟨hlater, hstays⟩ := ih (kept_meet h i) hhere
      exact ⟨hlater, fun ticket hticket => hstays ticket (hkept ticket hticket)⟩

/-- A stop is noted on the ticket of the check that runs. -/
theorem Kept.asked_of_stop {f : Floor} (h : f.Kept) {number : Nat} {run : CheckRun}
    (htask : f.tasks[number]? = some (.check run)) (hresult : run.result = none) :
    (f.meet (.move .stop)).bench.slot.asked run.ticket = true := by
  obtain ⟨hactive, hprocess⟩ := h.running number run htask hresult
  have hthere : (f.bench.slot.tickets[run.ticket]?).isSome = true := by
    rw [Slot.processes, List.getElem?_map] at hprocess
    obtain ⟨stay, hstay, _⟩ := Option.map_eq_some_iff.mp hprocess
    rw [hstay, Option.isSome_some]
  change f.bench.stop.1.slot.asked run.ticket = true
  rw [f.bench.asked_stop, hactive, hthere, beq_self_eq_true, Bool.and_self, Bool.or_true]

/-- A stop is answered with yes as long as a check runs. -/
theorem Kept.stop_iff {f : Floor} (h : f.Kept) :
    f.stop.2 = true ↔ ∃ (number : Nat) (run : CheckRun),
      f.tasks[number]? = some (.check run) ∧ run.result = none := by
  have hanswer : f.stop.2 = f.bench.slot.active.isSome := by
    rw [stop, Bench.stop]
    cases f.bench.slot.active with
    | none => rfl
    | some ticket => rfl
  rw [hanswer, Option.isSome_iff_exists]
  constructor
  · rintro ⟨ticket, hactive⟩
    obtain ⟨number, run, htask, hresult, _⟩ := h.held ticket hactive
    exact ⟨number, run, htask, hresult⟩
  · rintro ⟨number, run, htask, hresult⟩
    exact ⟨run.ticket, (h.running number run htask hresult).1⟩

/-- A stop is delivered to the process of the check that runs, which is there then or later, as
long as its end is not known. -/
theorem Kept.delivered {f : Floor} (h : f.Kept) (hheeded : f.bench.Heeded) {number process : Nat}
    {run : CheckRun} (htask : f.tasks[number]? = some (.check run)) (hresult : run.result = none)
    {middle : List Incident}
    (hprocess : (f.pass (.move .stop :: middle)).bench.slot.processes[run.ticket]? =
      some (some process))
    (hunknown : (f.pass (.move .stop :: middle)).bench.known? process = none)
    (rest : List Incident) :
    (f.pass (.move .stop :: (middle ++ rest))).bench.attempts process = 1 := by
  have hstopped := kept_meet h (.move .stop)
  obtain ⟨hthere, hstays⟩ := hstopped.heeded_pass (h.heeded_meet hheeded (.move .stop)).1 middle
  have hmiddle := kept_pass hstopped middle
  rw [pass_cons] at hprocess hunknown ⊢
  have hasked := hstays run.ticket (h.asked_of_stop htask hresult)
  have hsignaled := hthere run.ticket process hasked hprocess hunknown
  -- what was sent by then has been sent for good
  rw [pass_append, Bench.attempts_eq (kept_pass hmiddle rest).sound,
    if_pos ((hmiddle.becomes_pass rest).signaled hsignaled)]

/-- Stops are delivered, and delivered once.  Whatever happens, and however often a stop is
asked for: it is answered with yes as long as a check runs; no process is interrupted twice, or
at all once its end is known; and where a stop was asked for while a check ran, and its process
was there, then or later, without its end being known, one interrupt has been sent.  The end of
a process may even be known when it is attached, which no bench of a floor shows: then it is not
interrupted either. -/
theorem stops_delivered (host : Host) (config : Config) (attended : Bool)
    (javaBehavior : Behavior) (behaviors : List Behavior) (incidents : List Incident) :
    let first := empty (.idle host config attended javaBehavior behaviors)
    let last := first.pass incidents
    (last.stop.2 = true ↔ ∃ (number : Nat) (run : CheckRun),
      last.tasks[number]? = some (.check run) ∧ run.result = none) ∧
    (∀ process, last.bench.attempts process ≤ 1) ∧
    (∀ before rest process, incidents = before ++ rest →
      (first.pass before).bench.known? process ≠ none →
        last.bench.attempts process = (first.pass before).bench.attempts process) ∧
    (∀ before middle rest, incidents = before ++ .move .stop :: (middle ++ rest) →
      ∀ (number : Nat) (run : CheckRun) (process : Nat),
        (first.pass before).tasks[number]? = some (.check run) → run.result = none →
          let there := (first.pass (before ++ .move .stop :: middle)).bench
          there.slot.processes[run.ticket]? = some (some process) →
            there.known? process = none → last.bench.attempts process = 1) ∧
    ∀ (b : Bench) (ticket process : Nat), b.Sound → b.slot.asked ticket = true →
      (b.child? process).isSome = true →
        (b.attach ticket process).attempts process =
          if b.known? process = none then 1 else b.attempts process := by
  intro first last
  have hkept : first.Kept := kept_idle host config attended javaBehavior behaviors
  have hheeded : first.bench.Heeded := heeded_idle host config attended javaBehavior behaviors
  have hlast : last.Kept := kept_pass hkept incidents
  refine ⟨hlast.stop_iff, fun process => ?_, fun before rest process hsplit hknown => ?_,
    fun before middle rest hsplit number run process htask hresult hprocess hunknown => ?_,
    fun b ticket process hsound => Bench.attempts_attach hsound⟩
  · rw [Bench.attempts_eq hlast.sound]
    split
    · exact Nat.le_refl 1
    · exact Nat.zero_le 1
  · have hbefore := kept_pass hkept before
    have hrest := hbefore.becomes_pass rest
    rw [← pass_append, ← hsplit] at hrest
    exact hrest.attempts hbefore.sound hknown
  · have hbefore := kept_pass hkept before
    rw [first.pass_append] at hprocess hunknown
    have hdelivered := hbefore.delivered (hkept.heeded_pass hheeded before).1 htask hresult
      hprocess hunknown rest
    rwa [← pass_append, ← hsplit] at hdelivered

/-- A stop before the tool is started is delivered when it is, and stops behind it add
nothing. -/
theorem stops_delivered_early :
    let steps : List Incident := List.replicate 3 (.move (.act .step 0))
    let incidents : List Incident := [.move (.check Workshop.spec [])] ++
      .move .stop :: (steps ++ [.move .stop, .move (.finish 1), .notice 1, .move .stop])
    let first := empty (.idle Workshop.host Workshop.settings false Workshop.java [Workshop.deaf])
    (first.pass incidents).bench.attempts 1 = 1 := by
  intro steps incidents first
  obtain ⟨_, _, _, hdelivered, _⟩ := stops_delivered Workshop.host Workshop.settings false
    Workshop.java [Workshop.deaf] incidents
  exact hdelivered [.move (.check Workshop.spec [])] steps _ rfl 0
    ⟨Workshop.spec, [], 0, false, .locating, none⟩ 1 rfl rfl (by decide) (by decide)

end Floor

end TlaRunner.Workflow
