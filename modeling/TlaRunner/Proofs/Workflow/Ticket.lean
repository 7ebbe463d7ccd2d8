import TlaRunner.Proofs.Workflow.Abandonment
import TlaRunner.Proofs.Workflow.Rerun

/-!
# Tickets tell checks apart

A check that was let in has a ticket of its own, which shows what it was asked for
(`Floor.Ticketed`).  So nobody else holds the slot with its ticket or gives the ticket a process,
and what the ticket says of the check when it ends is so ever after.

Once a check has ended it does not hold the slot (`Floor.Kept.not_active_of_ended`), and its tool
has ended or was interrupted, unless the check was given up while it waited for the end of the tool
(`Floor.Deserts`).  This is the only way to leave a tool alone, whatever else happens before or
behind it (`Floor.Kept.settled_pass`).
-/

namespace TlaRunner.Workflow

open Files (Host SpecFiles)
open Supervision (Behavior)

/-- Whether a check was not turned away. -/
def CheckRun.IsAdmitted (c : CheckRun) : Prop :=
  ∀ error, c.result ≠ some (.error (.busy error))

theorem CheckRun.isAdmitted_of_result {c : CheckRun} (h : c.result = none) : c.IsAdmitted := by
  intro error
  rw [h]
  exact fun hsame => by cases hsame

namespace Floor

/-! ## A ticket of its own -/

/-- Checks that were let in and their tickets. -/
structure Ticketed (f : Floor) : Prop where
  /-- The ticket of a check shows what it was asked for. -/
  issued : ∀ (number : Nat) (run : CheckRun), f.tasks[number]? = some (.check run) →
    run.IsAdmitted → f.bench.slot.requests[run.ticket]? = some ⟨run.spec, run.extra⟩
  /-- No two checks have the same one. -/
  distinct : ∀ (number other : Nat) (run last : CheckRun), f.tasks[number]? = some (.check run) →
    f.tasks[other]? = some (.check last) → run.IsAdmitted → last.IsAdmitted →
      run.ticket = last.ticket → number = other

theorem ticketed_empty (b : Bench) : (empty b).Ticketed :=
  ⟨fun _ _ h => (by cases h), fun _ _ _ _ h => by cases h⟩

/-- Tickets stay, whatever happens. -/
theorem Kept.requests_meet {f : Floor} (h : f.Kept) (i : Incident) {ticket : Nat}
    {request : Request} (hticket : f.bench.slot.requests[ticket]? = some request) :
    (f.meet i).bench.slot.requests[ticket]? = some request := by
  obtain ⟨uses, huses⟩ := h.exists_uses_meet i
  rw [huses]
  generalize f.bench.slot = slot at hticket
  clear huses
  induction uses generalizing slot with
  | nil => exact hticket
  | cons u rest ih => exact ih _ (Slot.requests_use hticket u)

/-- A check that was let in was there before, with its ticket, or has the next one. -/
theorem ticket_of_meet {f : Floor} {i : Incident} {number : Nat} {run : CheckRun}
    (hrun : (f.meet i).tasks[number]? = some (.check run)) (hadmitted : run.IsAdmitted) :
    (∃ before, f.tasks[number]? = some (.check before) ∧ before.IsAdmitted ∧
      before.SameStay run) ∨
    number = f.tasks.length ∧ run.result = none ∧ run.ticket = f.bench.slot.requests.length ∧
      (f.meet i).bench.slot.requests[run.ticket]? = some ⟨run.spec, run.extra⟩ := by
  rcases task_of_meet hrun with hold | ⟨act, before, _, hbefore, hopen, _, htask⟩ | ⟨hnone, _⟩
  · exact Or.inl ⟨run, hold, hadmitted, rfl, rfl, rfl⟩
  · obtain ⟨c, rfl, rfl⟩ := Task.check_of_act htask
    exact Or.inl ⟨c, hbefore, CheckRun.isAdmitted_of_result (Option.map_eq_none_iff.mp hopen),
      c.sameStay_act f.bench act⟩
  · obtain ⟨spec, extra, henter⟩ := check_of_new hnone hrun
    rw [henter] at hrun ⊢
    cases hactive : f.bench.slot.active with
    | some holder =>
        rw [enter_of_active hactive] at hrun
        obtain rfl := Task.check.inj (eq_of_getElem?_concat hnone hrun)
        exact absurd rfl (hadmitted _)
    | none =>
        rw [enter_of_free hactive] at hrun ⊢
        rcases getElem?_concat_iff.mp hrun with hold | ⟨hnumber, hlast⟩
        · exact absurd (hold.symm.trans hnone) nofun
        · cases hlast
          refine Or.inr ⟨hnumber, rfl, (List.length_map _).symm, ?_⟩
          rw [Slot.requests, List.map_append, ← List.length_map (·.request)]
          exact List.getElem?_concat_length

/-- Whatever happens, tickets tell checks apart. -/
theorem Kept.ticketed_meet {f : Floor} (h : f.Kept) (htickets : f.Ticketed) (i : Incident) :
    (f.meet i).Ticketed := by
  -- the next ticket is nobody's yet
  have hnext {number : Nat} {run : CheckRun} (hrun : f.tasks[number]? = some (.check run))
      (hadmitted : run.IsAdmitted) : run.ticket ≠ f.bench.slot.requests.length :=
    Nat.ne_of_lt (List.getElem?_eq_some_iff.mp (htickets.issued number run hrun hadmitted)).1
  refine ⟨fun number run hrun hadmitted => ?_,
    fun number other run last hrun hlast hadmitted hentered hticket => ?_⟩
  · rcases ticket_of_meet hrun hadmitted with ⟨c, hc, hin, hsame⟩ | ⟨_, _, _, hnew⟩
    · rw [hsame.ticket, hsame.spec, hsame.extra]
      exact h.requests_meet i (htickets.issued number c hc hin)
    · exact hnew
  · rcases ticket_of_meet hrun hadmitted with ⟨c, hc, hin, hsame⟩ | ⟨hfirst, _, hnew, _⟩
    · rcases ticket_of_meet hlast hentered with ⟨d, hd, hd', hdone⟩ | ⟨_, _, hnew, _⟩
      · rw [hsame.ticket, hdone.ticket] at hticket
        exact htickets.distinct number other c d hc hd hin hd' hticket
      · rw [hsame.ticket, hnew] at hticket
        exact absurd hticket (hnext hc hin)
    · rcases ticket_of_meet hlast hentered with ⟨d, hd, hd', hdone⟩ | ⟨hsecond, _⟩
      · rw [hnew, hdone.ticket] at hticket
        exact absurd hticket.symm (hnext hd hd')
      · rw [hfirst, hsecond]

theorem Kept.ticketed_pass {f : Floor} (h : f.Kept) (htickets : f.Ticketed)
    (incidents : List Incident) : (f.pass incidents).Ticketed := by
  induction incidents generalizing f with
  | nil => exact htickets
  | cons i rest ih => exact ih (kept_meet h i) (h.ticketed_meet htickets i)

/-! ## Checks that have ended -/

variable {f : Floor} {number : Nat} {run : CheckRun}

/-- A check that has ended does not hold the slot. -/
theorem Kept.not_active_of_ended (h : f.Kept) (htickets : f.Ticketed)
    (hrun : f.tasks[number]? = some (.check run)) (hended : run.result ≠ none)
    (hadmitted : run.IsAdmitted) : f.bench.slot.active ≠ some run.ticket := by
  intro hactive
  obtain ⟨other, last, hlast, hresult, hticket⟩ := h.held run.ticket hactive
  obtain rfl := htickets.distinct other number last run hlast hrun
    (CheckRun.isAdmitted_of_result hresult) hadmitted hticket
  rw [hrun] at hlast
  cases hlast
  exact hended hresult

/-- What happens to a task leaves the process of its ticket alone, since no other check has the
ticket. -/
theorem Kept.processes_act_of_ended (h : f.Kept) (htickets : f.Ticketed)
    (hrun : f.tasks[number]? = some (.check run)) (hended : run.result ≠ none)
    (hadmitted : run.IsAdmitted) (act : Act) (other : Nat) :
    (f.act act other).bench.slot.processes[run.ticket]? =
      f.bench.slot.processes[run.ticket]? := by
  cases htask : f.tasks[other]? with
  | none => rw [Floor.act, htask]
  | some task =>
      by_cases hresult : task.result? = none
      · cases task with
        | parse parsed => rw [h.slot_parse htask hresult act]
        | check last =>
            have hlast := Option.map_eq_none_iff.mp hresult
            have hother : run.ticket ≠ last.ticket := by
              intro hticket
              obtain rfl := htickets.distinct number other run last hrun htask hadmitted
                (CheckRun.isAdmitted_of_result hlast) hticket
              rw [hrun] at htask
              cases htask
              exact hended hlast
            obtain ⟨after, hfollows, hholds⟩ := h.follows_check htask hlast act
            rw [act_of_getElem? htask, Task.act_check, hfollows.slot]
            exact hholds.others run.ticket hother
      · rw [act_of_result? htask hresult]

/-- So the ticket keeps its process, whatever happens. -/
theorem Kept.processes_of_ended (h : f.Kept) (htickets : f.Ticketed)
    (hrun : f.tasks[number]? = some (.check run)) (hended : run.result ≠ none)
    (hadmitted : run.IsAdmitted) (i : Incident) :
    (f.meet i).bench.slot.processes[run.ticket]? = f.bench.slot.processes[run.ticket]? := by
  have hlength : run.ticket < f.bench.slot.processes.length := by
    have hrequest := (List.getElem?_eq_some_iff.mp
      (htickets.issued number run hrun hadmitted)).1
    rw [Slot.requests, List.length_map] at hrequest
    rw [Slot.processes, List.length_map]
    exact hrequest
  have henter (spec : SpecFiles) (extra : List Text) :
      (f.enter spec extra).bench.slot.processes[run.ticket]? =
        f.bench.slot.processes[run.ticket]? := by
    cases hactive : f.bench.slot.active with
    | some holder => rw [enter_of_active hactive]
    | none => rw [processes_enter hactive, List.getElem?_append_left hlength]
  cases i with
  | notice process => rfl
  | move m =>
      cases m with
      | check spec extra => exact henter spec extra
      | again =>
          rw [meet, move]
          split
          next request _ => exact henter request.spec request.extra
          next => rfl
      | act act other => exact h.processes_act_of_ended htickets hrun hended hadmitted act other
      | stop =>
          change f.bench.stop.1.slot.processes[run.ticket]? = _
          rw [f.bench.slot_stop.2]
      | _ => rfl

/-! ## Tools of checks that have ended -/

/-- Whether a check is given up while it waits for the end of a process that has neither ended nor
been interrupted. -/
def Deserts (f : Floor) (number process : Nat) (i : Incident) : Prop :=
  i = .move (.act .cancel number) ∧ f.isLeaving number = true ∧ ¬f.bench.Settled process

/-- A check that ends leaves its tool settled, unless it deserts the tool. -/
theorem Kept.settled_check_iff (h : f.Kept) (hrun : f.tasks[number]? = some (.check run))
    (hopen : run.result = none) {i : Incident} {done : CheckRun}
    (hdone : (f.meet i).tasks[number]? = some (.check done)) (hended : done.result ≠ none)
    {process : Nat}
    (hprocess : (f.meet i).bench.slot.processes[done.ticket]? = some (some process)) :
    (f.meet i).bench.Settled process ↔ ¬f.Deserts number process i := by
  rcases stage_of_meet hrun hopen hdone with ⟨rfl, _⟩ | ⟨act, rfl, hact, hbench, _, _⟩
  · exact absurd hopen hended
  · have hresult : (Task.check run).result? = none := Option.map_eq_none_iff.mpr hopen
    have hbefore : f.result? number = none := by
      rw [result?, hrun, Option.bind_some, hresult]
    have hafter : (f.move (.act act number)).result? number ≠ none := by
      rw [result?, show (f.move (.act act number)).tasks[number]? = _ from hdone, Option.bind_some]
      exact fun hnone => hended (Option.map_eq_none_iff.mp hnone)
    have htool : f.tool? (.act act number) number = some process := by
      obtain ⟨after, hfollows, hholds⟩ := h.follows_check hrun hopen act
      rw [hbench, hact, hfollows.slot, hfollows.ticket, hholds.given] at hprocess
      rw [tool?, hrun, Option.bind_some, Task.ask,
        show (f.move (.act act number)).bench = _ from hbench,
        Stage.toolAfter_of_calls hfollows.calls]
      exact Option.some.inj hprocess
    have hiff := h.settled_iff_of_ended hbefore hafter htool
    rw [Deserts, Incident.move.injEq]
    exact hiff

/-- So the tool of a check that has ended is settled, unless the check deserted it. -/
theorem Kept.settled_pass {first : Floor} (hfirst : first.Kept) (htickets : first.Ticketed)
    (hopen : ∀ run, first.tasks[number]? = some (.check run) → run.IsAdmitted → run.result = none)
    (incidents : List Incident) {run : CheckRun}
    (hrun : (first.pass incidents).tasks[number]? = some (.check run))
    (hended : run.result ≠ none) (hadmitted : run.IsAdmitted) {process : Nat}
    (hprocess : (first.pass incidents).bench.slot.processes[run.ticket]? = some (some process)) :
    (first.pass incidents).bench.Settled process ∨
      first.Occurs (fun f i => f.Deserts number process i) incidents := by
  induction incidents using List.reverseRecOn generalizing run with
  | nil => exact absurd (hopen run hrun hadmitted) hended
  | append_singleton incidents i ih =>
      rw [occurs_concat]
      rw [pass_concat] at hrun hprocess ⊢
      have h := kept_pass hfirst incidents
      have hdistinct := hfirst.ticketed_pass htickets incidents
      rcases ticket_of_meet hrun hadmitted with ⟨before, hbefore, hin, _⟩ | ⟨_, hopen, _⟩
      · by_cases hresult : before.result = none
        · by_cases hdeserts : (first.pass incidents).Deserts number process i
          · exact Or.inr (Or.inr hdeserts)
          · exact Or.inl ((h.settled_check_iff hbefore hresult hrun hended hprocess).mpr hdeserts)
        · obtain ⟨done, hdone, _, hstays⟩ := sameStay_meet hbefore i
          obtain rfl := hstays hresult
          rw [hrun] at hdone
          cases hdone
          rw [h.processes_of_ended hdistinct hbefore hresult hin i] at hprocess
          rcases ih hbefore hresult hin hprocess with hsettled | hoccurs
          · exact Or.inl ((h.becomes_meet i).settled hsettled)
          · exact Or.inr (Or.inl hoccurs)
      · exact absurd hopen hended

end Floor

end TlaRunner.Workflow
