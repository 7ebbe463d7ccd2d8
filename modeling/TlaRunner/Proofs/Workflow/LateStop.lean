import TlaRunner.Proofs.Workflow.Reporting

/-!
# Stops behind the end of the output

Two things say whether a check was stopped, its report and the exit of its process.  The report
is made where the output ends, and the exit where the process has ended, so an interrupt that is
sent between the two is seen by the exit alone.  That is the one way in which the two differ
(`Floor.stopped_iff`), and it is open as long as a process runs on behind its output
(`Floor.stop_overlooked`).
-/

namespace TlaRunner.Workflow

open Files (Host)
open Supervision (Behavior Exit)

namespace Floor

/-- Whether the process of a check was interrupted behind the end of its output, while the check
waited for it to end. -/
def StoppedLate (first : Floor) (incidents : List Incident) (number : Nat) : Prop :=
  ∃ before i rest, incidents = before ++ i :: rest ∧ (first.pass before).Overtakes number i

/-- However things happen, checks tell what they should. -/
theorem told_pass {first : Floor} (hkept : first.Kept) (h : first.Told fun _ => False)
    (incidents : List Incident) :
    (first.pass incidents).Told (first.StoppedLate incidents) := by
  induction incidents using List.reverseRecOn with
  | nil =>
      have hnone : first.StoppedLate [] = fun _ => False :=
        funext fun number => eq_false (first.not_occurs_nil fun f i => f.Overtakes number i)
      rw [hnone]
      exact h
  | append_singleton incidents i ih =>
      have hlate : first.StoppedLate (incidents ++ [i]) = fun number =>
          first.StoppedLate incidents number ∨ (first.pass incidents).Overtakes number i :=
        funext fun number => propext (first.occurs_concat fun f i => f.Overtakes number i)
      rw [hlate, pass_concat]
      exact ih.meet (kept_pass hkept incidents) i

/-- A stop interrupts the process that a check waits for, unless its end is known. -/
theorem Kept.overtakes_stop {f : Floor} (h : f.Kept) {number process : Nat} {run : CheckRun}
    {report : CheckReport} (htask : f.tasks[number]? = some (.check run))
    (hresult : run.result = none) (hstage : run.stage = .exiting process report)
    (hunknown : f.bench.known? process = none) (hnot : ¬f.bench.Signaled process) :
    f.Overtakes number (.move .stop) := by
  obtain ⟨hactive, hprocess⟩ := h.running number run htask hresult
  rw [hstage] at hprocess
  refine ⟨run, htask, process, report, hstage, hnot, ?_⟩
  change f.bench.stop.1.Signaled process
  rw [Bench.stop_eq hactive hprocess]
  exact Bench.signaled_interrupt (h.spawned process (List.mem_of_getElem? hprocess)) hunknown

/-- A check that returns a report has an exit.  Where the report says that the run was stopped
the exit says so; and the other way round, unless the process was interrupted behind the end of
the output, while the check waited for it.  A stop that comes then does that, unless the end of
the process is known or it was interrupted before. -/
theorem stopped_iff (host : Host) (config : Config) (attended : Bool) (javaBehavior : Behavior)
    (behaviors : List Behavior) (incidents : List Incident) (number : Nat) (run : CheckRun)
    (report : CheckReport) :
    let first := empty (.idle host config attended javaBehavior behaviors)
    (first.pass incidents).tasks[number]? = some (.check run) →
      run.result = some (.ok report) →
        (∃ exit, run.stage = .ended (.ok (report, exit)) ∧
          (report.outcome = .stopped → exit.cancelled = true) ∧
          ((report.outcome = .stopped ↔ exit.cancelled = true) ↔
            ¬first.StoppedLate incidents number)) ∧
        ∀ before rest waiting process made, incidents = before ++ .move .stop :: rest →
          (first.pass before).tasks[number]? = some (.check waiting) → waiting.result = none →
            waiting.stage = .exiting process made →
              (first.pass before).bench.known? process = none →
                ¬(first.pass before).bench.Signaled process →
                  first.StoppedLate incidents number := by
  intro first htask hresult
  have hkept : first.Kept := kept_idle host config attended javaBehavior behaviors
  have htold := (told_pass hkept (told_empty _) incidents).checks number run htask
  refine ⟨?_, fun before rest waiting process made hsplit hwaiting hopen hstage hunknown hnot => ?_⟩
  · obtain ⟨last, hlast, hverdict⟩ := Option.map_eq_some_iff.mp (htold.result.symm.trans hresult)
    obtain ⟨exit, hstage⟩ := CheckRun.stage_of_verdict hlast hverdict
    refine ⟨exit, hstage, ?_⟩
    obtain ⟨stopped, hreport, hcancelled, hearly⟩ := (hstage ▸ htold.stage).cancelled_iff
    rw [hreport.outcome, hcancelled]
    refine ⟨Or.inl, fun hiff hlate => ?_, fun hnot => (or_iff_left hnot).symm⟩
    exact hearly (hiff.mpr (Or.inr hlate)) hlate
  · exact ⟨before, _, rest, hsplit,
      (kept_pass hkept before).overtakes_stop hwaiting hopen hstage hunknown hnot⟩

/-- What a check has returned, once it has, and the exit that it had by then. -/
def returned? (f : Floor) (number : Nat) : Option (CheckReport × Exit) :=
  match f.tasks[number]? with
  | some (.check ⟨_, _, _, _, .ended (.ok (_, exit)), some (.ok report)⟩) => some (report, exit)
  | _ => none

theorem run_of_returned? {f : Floor} {number : Nat} {report : CheckReport} {exit : Exit}
    (h : f.returned? number = some (report, exit)) :
    ∃ run made, f.tasks[number]? = some (.check run) ∧ run.result = some (.ok report) ∧
      run.stage = .ended (.ok (made, exit)) := by
  rw [returned?] at h
  split at h
  next spec extra ticket saved made exit report htask =>
    cases h
    exact ⟨_, made, htask, rfl, rfl⟩
  next => cases h

/-- A check that is stopped while it reads. -/
theorem stopped_iff_reading :
    let moves : List Move := Workshop.opening 0 ++ [.act .step 0, .stop, .finish 1,
      .act .step 0, .act .step 0]
    let last := (empty (.idle Workshop.host Workshop.settings false Workshop.java
      [Workshop.deaf])).pass (moves.map .move)
    ∃ report exit, last.returned? 0 = some (report, exit) ∧ report.outcome = .stopped ∧
      exit.cancelled = true := by
  intro moves last
  obtain ⟨⟨report, exit⟩, hreturned, hstopped⟩ :
      ∃ made ∈ last.returned? 0, made.1.outcome = .stopped := by decide
  obtain ⟨run, made, htask, hresult, hstage⟩ := run_of_returned? hreturned
  have hrun := stopped_iff Workshop.host Workshop.settings false Workshop.java [Workshop.deaf]
    (moves.map .move) 0 run report htask hresult
  obtain ⟨other, hother, hcancelled, _⟩ := hrun.1
  rw [hstage] at hother
  cases hother
  exact ⟨report, exit, hreturned, hstopped, hcancelled hstopped⟩

/-- A process that has closed its output and is stopped then ends as cancelled, and its report
does not say so. -/
theorem stop_overlooked :
    ¬ ∀ (host : Host) (config : Config) (attended : Bool) (javaBehavior : Behavior)
      (behaviors : List Behavior) (incidents : List Incident) (number : Nat)
      (report : CheckReport) (exit : Exit),
      ((empty (.idle host config attended javaBehavior behaviors)).pass incidents).returned?
        number = some (report, exit) → (report.outcome = .stopped ↔ exit.cancelled = true) := by
  intro h
  let moves : List Move := Workshop.opening 0 ++ [.act .step 0, .close 1, .act .step 0, .stop,
    .finish 1, .act .step 0]
  let last := (empty (.idle Workshop.host Workshop.settings false Workshop.java
    [Workshop.deaf])).pass (moves.map .move)
  obtain ⟨made, hreturned, houtcome, hcancelled⟩ :
      ∃ made ∈ last.returned? 0, made.1.outcome ≠ .stopped ∧ made.2.cancelled = true := by decide
  exact houtcome ((h _ _ _ _ _ _ 0 made.1 made.2 hreturned).mpr hcancelled)

end Floor

end TlaRunner.Workflow
