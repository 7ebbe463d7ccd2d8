import TlaRunner.Proofs.Workflow.Moves

/-!
# Tools of runs that fail

A task that fails while it reads the output of its tool has interrupted the tool by the time
it has failed.  There is one gap: a task that is cancelled while it waits for its tool to end
leaves the tool alone, and only such a task does.  The tool may run then, since a process may
close its output before it ends.
-/

namespace TlaRunner.Workflow

open Files (Host)
open Supervision (Behavior)

namespace Floor

/-- Whether a task waits for its tool to end. -/
def isLeaving (f : Floor) (number : Nat) : Bool :=
  f.tasks[number]?.any fun task => task.ask Stage.isExiting false

/-- Why a task failed, once it has. -/
def failure? (f : Floor) (number : Nat) : Option Failure :=
  match f.result? number with
  | some (.error failure) => some failure
  | _ => none

/-- A task that ends leaves its tool settled, unless it is cancelled while it waits for the tool
to end: then the tool is left as it was. -/
theorem Kept.settled_iff_of_ended {f : Floor} (h : f.Kept) {m : Move} {number process : Nat}
    (hopen : f.result? number = none) (hended : (f.move m).result? number ≠ none)
    (htool : f.tool? m number = some process) :
    (f.move m).bench.Settled process ↔
      ¬(m = .act .cancel number ∧ f.isLeaving number = true ∧ ¬f.bench.Settled process) := by
  obtain ⟨task, htask, hask⟩ := Option.bind_eq_some_iff.mp htool
  have hresult : task.result? = none := by
    rw [result?, htask, Option.bind_some] at hopen
    exact hopen
  rcases m.acts_or number with ⟨act, rfl⟩ | hother
  · obtain ⟨σ, ρ, p, stage, next, after, hfollows⟩ := h.follows htask hresult act
    have hmove : f.move (.act act number) =
        ⟨(task.act f.bench act).1, f.tasks.set number (task.act f.bench act).2⟩ :=
      act_of_getElem? htask act
    rw [hmove] at hask hended ⊢
    have hleaving : f.isLeaving number = stage.isExiting := by
      rw [isLeaving, htask, Option.any_some]
      exact hfollows.ask _ Stage.isExiting false
    rw [hfollows.ask, Stage.toolAfter_of_calls hfollows.takes.calls] at hask
    have hnext : next.isEnded = true := by
      cases hnext : next.isEnded with
      | true => rfl
      | false =>
          rw [result?, List.getElem?_set_self (List.getElem?_eq_some_iff.mp htask).1,
            Option.bind_some] at hended
          exact absurd (hfollows.takes.result hnext) hended
    have hthere : stage.tool? = some process → (f.bench.child? process).isSome = true := by
      rw [← hfollows.ask _ Stage.tool? none]
      exact (h.fits task (List.mem_of_getElem? htask)).tooled process
    have hiff := hfollows.goes.settled_iff hfollows.becomes hnext hthere hask
    rw [hleaving, Move.act.injEq, and_iff_left rfl]
    refine Iff.trans ⟨?_, ?_⟩ hiff
    · exact Bench.settled_of_calls hfollows.takes.calls.symm
    · exact Bench.settled_of_calls hfollows.takes.calls
  · rw [result?, tasks_move htask hother, Option.bind_some] at hended
    exact absurd hresult hended

/-- So does a task that fails. -/
theorem Kept.settled_iff {f : Floor} (h : f.Kept) {m : Move} {number process : Nat}
    {failure : Failure} (hopen : f.result? number = none)
    (hfailed : (f.move m).failure? number = some failure)
    (htool : f.tool? m number = some process) :
    (f.move m).bench.Settled process ↔
      ¬(m = .act .cancel number ∧ f.isLeaving number = true ∧ ¬f.bench.Settled process) := by
  refine h.settled_iff_of_ended hopen (fun hnone => ?_) htool
  rw [failure?, hnone] at hfailed
  cases hfailed

/-- Whatever happened before: when a task fails whose tool was started, the tool has ended or was
interrupted, unless the task is cancelled while it waits for the tool to end. -/
theorem tool_settled_iff (host : Host) (config : Config) (attended : Bool)
    (javaBehavior : Behavior) (behaviors : List Behavior) (moves : List Move) (m : Move)
    (number process : Nat) (failure : Failure) :
    let f := (empty (.idle host config attended javaBehavior behaviors)).run moves
    f.result? number = none → (f.move m).failure? number = some failure →
      f.tool? m number = some process →
      ((f.move m).bench.Settled process ↔
        ¬(m = .act .cancel number ∧ f.isLeaving number = true ∧ ¬f.bench.Settled process)) :=
  (kept_run (kept_idle host config attended javaBehavior behaviors) moves).settled_iff

/-- A client that fails leaves the tool interrupted. -/
theorem tool_settled_upset :
    let f := (empty (.idle Workshop.host Workshop.settings false Workshop.java
      [Workshop.deaf])).run (Workshop.opening 0 ++ [.act .step 0])
    let m := Move.act (.upset "full".toList) 0
    f.result? 0 = none ∧ (f.move m).failure? 0 = some (.client "full".toList) ∧
      f.tool? m 0 = some 1 ∧ (f.move m).bench.Settled 1 := by
  have hiff := tool_settled_iff Workshop.host Workshop.settings false Workshop.java
    [Workshop.deaf] (Workshop.opening 0 ++ [.act .step 0]) (.act (.upset "full".toList) 0) 0 1
    (.client "full".toList) (by decide) (by decide) (by decide)
  refine ⟨by decide, by decide, by decide, hiff.mpr ?_⟩
  rintro ⟨hcancel, _⟩
  cases hcancel

/-- A tool that has closed its output and still runs is left alone by a check that is cancelled
then. -/
theorem tool_deserted :
    ¬ ∀ (host : Host) (config : Config) (attended : Bool) (javaBehavior : Behavior)
      (behaviors : List Behavior) (moves : List Move) (m : Move) (number process : Nat)
      (failure : Failure),
      let f := (empty (.idle host config attended javaBehavior behaviors)).run moves
      f.result? number = none → (f.move m).failure? number = some failure →
        f.tool? m number = some process → (f.move m).bench.Settled process := by
  intro h
  have hsettled := h Workshop.host Workshop.settings false Workshop.java [Workshop.deaf]
    (Workshop.opening 0 ++ [.act .step 0, .close 1, .act .step 0]) (.act .cancel 0) 0 1 .cancelled
    (by decide) (by decide) (by decide)
  exact absurd hsettled (by decide)

end Floor

end TlaRunner.Workflow
