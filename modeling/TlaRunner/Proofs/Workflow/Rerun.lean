import TlaRunner.Proofs.Workflow.Orderly
import TlaRunner.Proofs.Workflow.Schedule
import TlaRunner.Proofs.Workflow.Slot

/-!
# The slot and the last check

Whatever happens on a floor, its slot has a history (`Floor.exists_uses_pass`): the slot is changed
by the uses that clients make of it and by nothing else.  So what histories tell holds of it:
checks are let in one at a time, and what was checked last is what the last one asked for.

The last check can be run again.  It asks for the same files with the same arguments, and while it
is waited for nobody else is let in, so what was checked last stays the same, whether the check is
let in or turned away (`Floor.Repeats`).
-/

namespace TlaRunner.Workflow

open Files (Host SpecFiles)
open Supervision (Behavior)
open Slot (Use Entered Stays IsLast)

/-! ## Histories of floors -/

/-- What happens to a run makes of the slot what some uses make of it. -/
theorem Plan.Goes.exists_uses {σ ρ : Type} {p : Plan σ ρ} {b after : Bench}
    {stage next : Stage σ ρ} {act : Act} (h : p.Goes b stage act after next) :
    ∃ uses : List Use, after.slot = uses.foldl Slot.use b.slot := by
  have hattached (slot : Slot) (process : Nat) :
      ∃ uses : List Use, p.attached slot process = uses.foldl Slot.use slot := by
    rw [attached]
    cases p.ticket with
    | none => exact ⟨[], rfl⟩
    | some ticket => exact ⟨[.attach ticket process], rfl⟩
  have hreleased (slot : Slot) :
      ∃ uses : List Use, p.released slot = uses.foldl Slot.use slot := by
    rw [released]
    cases p.ticket with
    | none => exact ⟨[], rfl⟩
    | some ticket => exact ⟨[.release ticket], rfl⟩
  cases h with
  | goes _ _ _ hslot => exact ⟨[], hslot⟩
  | starts _ _ _ _ _ hslot => exact hslot ▸ hattached b.slot _
  | leaves _ _ hslot => exact hslot ▸ hreleased b.slot
  | fails _ _ _ hslot => exact hslot ▸ hreleased b.slot
  | @drops process _ _ _ _ _ _ hslot =>
      obtain ⟨first, hfirst⟩ := hattached b.slot process
      obtain ⟨last, hlast⟩ := hreleased (p.attached b.slot process)
      exact ⟨first ++ last, by rw [hslot, hlast, hfirst, List.foldl_append]⟩
  | breaks _ _ _ _ hslot => exact hslot ▸ hreleased b.slot
  | deserts _ _ _ hslot => exact hslot ▸ hreleased b.slot

/-- A stop is asked for on the ticket that holds the slot. -/
theorem Bench.exists_uses_stop (b : Bench) :
    ∃ uses : List Use, b.stop.1.slot = uses.foldl Slot.use b.slot := by
  rw [stop]
  split
  next => exact ⟨[], rfl⟩
  next ticket _ =>
    refine ⟨[.cancel ticket], ?_⟩
    simp only
    cases (b.slot.cancel ticket).2 with
    | none => rfl
    | some process => rfl

namespace Floor

/-- A check that is begun asks to enter. -/
theorem slot_enter (f : Floor) (spec : SpecFiles) (extra : List Text) :
    (f.enter spec extra).bench.slot = f.bench.slot.use (.acquire ⟨spec, extra⟩) := by
  cases hactive : f.bench.slot.active with
  | none => rw [enter_of_free hactive, Slot.use, Slot.acquire, hactive]
  | some holder => rw [enter_of_active hactive, Slot.use, Slot.acquire, hactive]

/-- Whatever happens makes of the slot what some uses make of it. -/
theorem Kept.exists_uses_meet {f : Floor} (h : f.Kept) (i : Incident) :
    ∃ uses : List Use, (f.meet i).bench.slot = uses.foldl Slot.use f.bench.slot := by
  cases i with
  | notice process => exact ⟨[], rfl⟩
  | move m =>
      cases m with
      | check spec extra => exact ⟨[.acquire ⟨spec, extra⟩], f.slot_enter spec extra⟩
      | again =>
          rw [meet, move]
          split
          next request _ => exact ⟨[.acquire request], f.slot_enter request.spec request.extra⟩
          next => exact ⟨[], rfl⟩
      | act act number =>
          rw [meet, move]
          cases htask : f.tasks[number]? with
          | none =>
              rw [Floor.act, htask]
              exact ⟨[], rfl⟩
          | some task =>
              by_cases hresult : task.result? = none
              · obtain ⟨σ, ρ, p, stage, next, after, hfollows⟩ := h.follows htask hresult act
                rw [act_of_getElem? htask, hfollows.takes.slot]
                exact hfollows.goes.exists_uses
              · rw [act_of_result? htask hresult]
                exact ⟨[], rfl⟩
      | stop => exact f.bench.exists_uses_stop
      | parse spec => exact ⟨[], rfl⟩
      | attach port => exact ⟨[], rfl⟩
      | finish process => exact ⟨[], rfl⟩
      | close process => exact ⟨[], rfl⟩
      | elapse time => exact ⟨[], rfl⟩

/-- So the slot has a history, whatever has happened. -/
theorem exists_uses_pass (host : Host) (config : Config) (attended : Bool)
    (javaBehavior : Behavior) (behaviors : List Behavior) (incidents : List Incident) :
    ∃ uses,
      ((empty (.idle host config attended javaBehavior behaviors)).pass incidents).bench.slot =
        Slot.after uses := by
  have hkept := kept_idle host config attended javaBehavior behaviors
  generalize hfirst : empty (.idle host config attended javaBehavior behaviors) = first at hkept ⊢
  have hslot : first.bench.slot = Slot.after [] := by rw [← hfirst]; rfl
  clear hfirst
  induction incidents using List.reverseRecOn with
  | nil => exact ⟨[], hslot⟩
  | append_singleton incidents i ih =>
      obtain ⟨uses, huses⟩ := ih
      obtain ⟨later, hlater⟩ := (kept_pass hkept incidents).exists_uses_meet i
      refine ⟨uses ++ later, ?_⟩
      rw [pass_concat, hlater, huses, Slot.after, Slot.after, List.foldl_append]

/-! ## What turns leave alone -/

/-- What holds before, and is kept as tasks go on and time goes by, holds afterwards. -/
theorem Works.induction {P : Floor → Prop} {f after : Floor} (h : f.Works after)
    (hmove : ∀ g m, m.isWork = true → P g → P (g.move m)) (hfirst : P f) : P after := by
  obtain ⟨moves, hwork, rfl⟩ := h
  induction moves generalizing f with
  | nil => exact hfirst
  | cons m rest ih =>
      exact ih (hmove f m (hwork m List.mem_cons_self) hfirst) fun other hother =>
        hwork other (List.mem_cons_of_mem m hother)

/-- What happens to a task leaves alone what was checked last. -/
theorem last_act (f : Floor) (act : Act) (number : Nat) :
    (f.act act number).bench.slot.last = f.bench.slot.last := by
  cases htask : f.tasks[number]? with
  | none => rw [Floor.act, htask]
  | some task =>
      by_cases hresult : task.result? = none
      · rw [act_of_getElem? htask]
        exact (Task.shows_act f.bench task hresult act).last
      · rw [act_of_result? htask hresult]

theorem Works.last {f after : Floor} (h : f.Works after) :
    after.bench.slot.last = f.bench.slot.last := by
  refine h.induction (P := fun g => g.bench.slot.last = f.bench.slot.last) ?_ rfl
  intro g m hwork hg
  cases m with
  | act act number => exact (g.last_act act number).trans hg
  | elapse time => exact hg
  | _ => cases hwork

end Floor

/-- A check with the files, the arguments and the ticket of another. -/
structure CheckRun.SameStay (c other : CheckRun) : Prop where
  /-- The files. -/
  spec : other.spec = c.spec
  /-- The arguments. -/
  extra : other.extra = c.extra
  /-- The ticket. -/
  ticket : other.ticket = c.ticket

/-- A check keeps them, whatever happens to it. -/
theorem CheckRun.sameStay_act (b : Bench) (c : CheckRun) (act : Act) :
    c.SameStay (c.act b act).2 := by
  have henter (next : Bench × Stage Checker.Run CheckReport) : c.SameStay (c.enter next).2 := by
    rw [enter.eq_def]
    split
    · exact ⟨rfl, rfl, rfl⟩
    · exact ⟨rfl, rfl, rfl⟩
  cases hresult : c.result with
  | none =>
      rw [act_eq b hresult]
      exact henter _
  | some result =>
      have hended : (Task.check c).result? ≠ none := by
        rw [Task.result?, hresult]
        exact Option.some_ne_none _
      have hsame := Task.act_of_result? hended b act
      rw [Task.act_check] at hsame
      rw [Task.check.inj (Prod.mk.inj hsame).2]
      exact ⟨rfl, rfl, rfl⟩

namespace Floor

/-- A check is the same one after each incident, and as it was if it has ended. -/
theorem sameStay_meet {f : Floor} {number : Nat} {run : CheckRun}
    (htask : f.tasks[number]? = some (.check run)) (i : Incident) :
    ∃ done, (f.meet i).tasks[number]? = some (.check done) ∧ run.SameStay done ∧
      (run.result ≠ none → done = run) := by
  obtain ⟨done, hdone, hbecame⟩ := check_of_meet htask i
  refine ⟨done, hdone, ?_⟩
  rcases hbecame with ⟨rfl, _⟩ | ⟨act, _, rfl, _⟩
  · exact ⟨⟨rfl, rfl, rfl⟩, fun _ => rfl⟩
  · refine ⟨run.sameStay_act f.bench act, fun hended => ?_⟩
    have hresult : (Task.check run).result? ≠ none :=
      fun hnone => hended (Option.map_eq_none_iff.mp hnone)
    have hsame := Task.act_of_result? hresult f.bench act
    rw [Task.act_check] at hsame
    exact Task.check.inj (Prod.mk.inj hsame).2

theorem Works.sameStay {f after : Floor} (h : f.Works after) {number : Nat} {run : CheckRun}
    (htask : f.tasks[number]? = some (.check run)) :
    ∃ done, after.tasks[number]? = some (.check done) ∧ run.SameStay done ∧
      (run.result ≠ none → done = run) := by
  refine h.induction (P := fun g => ∃ done, g.tasks[number]? = some (.check done) ∧
    run.SameStay done ∧ (run.result ≠ none → done = run)) ?_
    ⟨run, htask, ⟨rfl, rfl, rfl⟩, fun _ => rfl⟩
  rintro g m _ ⟨before, hbefore, hfirst, hended⟩
  obtain ⟨done, hdone, hlast, hkept⟩ := sameStay_meet hbefore (.move m)
  refine ⟨done, hdone, ⟨hlast.spec.trans hfirst.spec, hlast.extra.trans hfirst.extra,
    hlast.ticket.trans hfirst.ticket⟩, fun hresult => ?_⟩
  have hsame := hended hresult
  exact (hkept (hsame ▸ hresult)).trans hsame

/-! ## The last check again -/

/-- What running the last check again does: it begins one check. -/
structure Repeats (f : Floor) (request : Request) : Prop where
  /-- The check asks for the files and the arguments of the last one.  It is turned away, naming
  the holder, if the slot is held, and else has the next ticket. -/
  asks : ∃ run : CheckRun, f.checkAgain.1.tasks[f.tasks.length]? = some (.check run) ∧
    run.spec = request.spec ∧ run.extra = request.extra ∧
      match f.bench.slot.active with
      | some holder => run.result = some (.error (.busy ⟨holder⟩))
      | none => run.ticket = f.bench.slot.tickets.length
  /-- Its result is the answer. -/
  answers : f.checkAgain.2 = some (reportOf (f.checkAgain.1.result? f.tasks.length))
  /-- What was checked last is what it asked for. -/
  last : f.checkAgain.1.bench.slot.last = some request

/-- If something was checked, that is checked again. -/
theorem repeats {f : Floor} {request : Request} (h : f.bench.slot.last = some request) :
    f.Repeats request := by
  have hagain : f.checkAgain = ((f.check request.spec request.extra).1,
      some (f.check request.spec request.extra).2) := by
    rw [checkAgain, h]
  have hworks := f.works_check request.spec request.extra
  refine ⟨?_, ?_, ?_⟩
  · rw [hagain]
    cases hactive : f.bench.slot.active with
    | some holder =>
        rw [enter_of_active hactive] at hworks
        obtain ⟨done, hdone, _, hkept⟩ := hworks.sameStay List.getElem?_concat_length
        obtain rfl := hkept (Option.some_ne_none _)
        exact ⟨_, hdone, rfl, rfl, rfl⟩
    | none =>
        rw [enter_of_free hactive] at hworks
        obtain ⟨done, hdone, hsame, _⟩ := hworks.sameStay List.getElem?_concat_length
        exact ⟨done, hdone, hsame.spec, hsame.extra, hsame.ticket⟩
  · rw [hagain]
    rfl
  · rw [hagain, hworks.last, slot_enter, Slot.use, Slot.acquire]
    cases f.bench.slot.active with
    | none => rfl
    | some holder => exact h

end Floor

/-- What the slot is to its clients after all that they did. -/
structure Slot.Exclusive (uses : List Use) : Prop where
  /-- Whoever asks is let in if and only if everybody who was let in has given the slot back
  since. -/
  admits : ∀ request, (∃ ticket next, (after uses).acquire request = .ok (ticket, next)) ↔
    ∀ ticket asked later, Entered uses ticket asked later → .release ticket ∈ later
  /-- Whoever is turned away changes nothing, and is told who holds the slot: the only client that
  was let in and has not given it back. -/
  refuses : ∀ request error, (after uses).acquire request = .error error →
    after (uses ++ [.acquire request]) = after uses ∧
      (after uses).active = some error.holder ∧ ∀ ticket, Stays uses ticket ↔ ticket = error.holder
  /-- Whoever is let in has a ticket of its own, which shows what it was asked for. -/
  own : ∀ ticket request later, Entered uses ticket request later →
    (after uses).requests[ticket]? = some request ∧
      ∀ other rest, Entered uses ticket other rest → other = request ∧ rest = later
  /-- The slot is freed by the holder who gives it back, and by nothing else. -/
  freed : ∀ holder u, (after uses).active = some holder →
    (after (uses ++ [u])).active = if u = .release holder then none else some holder
  /-- What was checked last is what the last one who was let in asked for. -/
  last : ∀ request, (after uses).last = some request ↔ IsLast uses request
  /-- Running the last check again does nothing if nobody was let in. -/
  idles : ∀ f : Floor, f.bench.slot = after uses → (∀ request, ¬IsLast uses request) →
    f.checkAgain = (f, none)
  /-- Otherwise it checks what the last one asked for. -/
  again : ∀ f : Floor, f.bench.slot = after uses → ∀ request, IsLast uses request →
    f.Repeats request

/-- The slot is exclusive and what was checked last is known, whatever clients did. -/
theorem Slot.exclusive (uses : List Use) : Exclusive uses where
  admits request := by
    rw [← active_eq_none_iff]
    simp only [acquire_ok_iff]
    exact ⟨fun ⟨_, hfree, _⟩ => hfree, fun hfree => ⟨_, hfree, rfl⟩⟩
  refuses request error herror := by
    have hactive := acquire_error_iff.mp herror
    refine ⟨by rw [after_concat, use, herror], hactive, fun ticket => ?_⟩
    rw [← active_iff, hactive, Option.some.injEq, eq_comm]
  own ticket request later h := ⟨h.requests, fun _ _ hother => h.unique hother⟩
  freed holder u hactive := by
    rw [after_concat]
    have hdoes := (after uses).does u
    generalize (after uses).use u = next at hdoes ⊢
    cases hdoes with
    | admits _ hfree =>
        rw [hactive] at hfree
        cases hfree
    | frees huse hholds =>
        obtain rfl := Option.some.inj (hactive.symm.trans hholds)
        rw [if_pos huse]
    | stays _ hheld _ => rw [if_neg fun huse => hheld holder huse hactive, hactive]
  last request := last_iff uses request
  idles f hslot hnone := by
    rw [Floor.checkAgain, hslot]
    cases hlast : (after uses).last with
    | none => rfl
    | some request => exact absurd ((last_iff uses request).mp hlast) (hnone request)
  again f hslot request hlast := Floor.repeats (by rw [hslot, last_iff]; exact hlast)

end TlaRunner.Workflow
