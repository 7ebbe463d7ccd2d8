import TlaRunner.Proofs.Workflow.Orderly
import TlaRunner.Proofs.Workflow.Saving

/-!
# Saved outputs replay their checks

`Floor.relayed` lists what a task has told of the outputs that it read.  Where outputs are saved,
a check that runs has told what can be seen in the pieces that it took, and these are what its file
holds once it is closed (`Floor.Recording`): nobody else writes, since at most one check runs and
parses save nothing.

So a check that returns a report without having been stopped leaves a file behind that can be read
again, in pieces of any size: the same is seen, and the report is the same
(`saved_output_replays`).
-/

namespace TlaRunner.Workflow

open Files (Host Saver SpecFiles)
open Supervision (Behavior Exit)
open Protocol (Emission Reading)

/-! ## Checks -/

namespace Plan

variable {σ ρ : Type} {p : Plan σ ρ} {b middle after : Bench} {told : List Emission}
  {stage next : Stage σ ρ}

theorem Breaks.of_host {failure : Failure} (h : p.Breaks middle told stage failure)
    (hhost : after.host = middle.host) (hattended : after.attended = middle.attended) :
    p.Breaks after told stage failure := by
  have hshown := Bench.shown_of_attended hattended
  cases h with
  | dropped hfiled hread htold =>
      exact .dropped (hfiled.of_host hhost) hread (htold.trans (hshown _).symm)
  | stuck hfiled hfault htold =>
      exact .stuck (hfiled.of_host hhost) hfault (htold.trans (hshown _).symm)
  | cut hfiled hfault htold =>
      exact .cut (hfiled.of_host hhost) hfault (htold.trans (hshown _).symm)

/-- What a task does besides, it does not do to files. -/
theorem Turns.rests (h : p.Turns b told stage middle next) (hrests : middle.Rests after) :
    p.Turns b told stage after next := by
  obtain ⟨tree, seen, hyields, hpours⟩ := h
  refine ⟨tree, seen, hyields.rests hrests, ?_⟩
  have hhost := hrests.host
  have hattended : after.attended = middle.attended := hrests.attended
  cases hpours with
  | goes h => exact .goes (h.of_host hhost hattended)
  | leaves hstage h => exact .leaves hstage (h.of_host hhost hattended)
  | breaks h => exact .breaks (h.of_host hhost hattended)
  | fails hsaver => exact .fails hsaver

end Plan

namespace CheckRun

/-- A check that takes over a stage shows findings at most, and is the same check. -/
theorem rests_enter (c : CheckRun) (b : Bench) (stage : Stage Checker.Run CheckReport) :
    b.Rests (c.enter (b, stage)).1 ∧ (c.enter (b, stage)).2.plan = c.plan := by
  cases stage with
  | ended last =>
      cases last with
      | error failure => exact ⟨.refl b, rfl⟩
      | ok last => exact ⟨b.rests_publish _, rfl⟩
  | _ => exact ⟨.refl b, rfl⟩

/-- Whoever reads an output without being stopped, in pieces of any size, sees what was told of it,
if anybody followed, and makes the same report. -/
def Replays (c : CheckRun) (output : Bytes) (report : CheckReport) (attended : Bool)
    (told : List Emission) : Prop :=
  ∀ chunks : List Bytes, chunks.flatten = output →
    let replay := Reading.consume Checker.decoder
      (Checker.session (some c.spec.modulePath.toText)) (chunks.map .bytes) false
    replay.2.fault = none ∧ replay.1.result = some report ∧
      told = if attended then replay.2.seen else []

/-- What happens to a check that saves its output. -/
theorem turns_act {b : Bench} {c : CheckRun} {told : List Emission}
    (h : c.plan.Saves b told c.stage) (hsaved : c.saved = true) (hresult : c.result = none)
    (act : Act) :
    c.plan.Turns b told c.stage (c.act b act).1 (c.act b act).2.stage ∧
      (c.act b act).2.plan = c.plan := by
  obtain ⟨hrests, hplan⟩ :=
    c.rests_enter (c.plan.act b c.stage act).1 (c.plan.act b c.stage act).2
  have hstage := (enter_spec hresult (c.plan.act b c.stage act).1
    (c.plan.act b c.stage act).2).2.2.2.1
  rw [act_eq b hresult, hstage]
  exact ⟨(h.act hsaved act).rests hrests, hplan⟩

end CheckRun

namespace Floor

/-! ## What a task tells -/

/-- What a task tells of its output at an incident. -/
def relays (f : Floor) (number : Nat) (i : Incident) : List Emission :=
  match i with
  | .move (.act _ other) =>
    if other = number then (f.meet i).bench.emissions.drop f.bench.emissions.length else []
  | _ => []

/-- What a task tells of its output, in order. -/
def relayed (f : Floor) (number : Nat) : List Incident → List Emission
  | [] => []
  | i :: rest => f.relays number i ++ (f.meet i).relayed number rest

theorem relayed_concat (f : Floor) (number : Nat) (incidents : List Incident) (i : Incident) :
    f.relayed number (incidents ++ [i]) =
      f.relayed number incidents ++ (f.pass incidents).relays number i := by
  induction incidents generalizing f with
  | nil => exact List.append_nil _
  | cons first rest ih =>
      rw [List.cons_append, relayed, ih, relayed, List.append_assoc]
      rfl

/-- A task tells something only when something happens to it. -/
theorem relays_of_ne {f : Floor} {number : Nat} {i : Incident}
    (h : ∀ act, i ≠ .move (.act act number)) : f.relays number i = [] := by
  cases i with
  | notice process => rfl
  | move m =>
      cases m with
      | act act other =>
          rw [relays, if_neg]
          rintro rfl
          exact h act rfl
      | _ => rfl

/-- It tells what becomes of the bench. -/
theorem relays_act {f : Floor} {number : Nat} {act : Act} {tree : Files.Tree}
    {seen : List Emission}
    (h : f.bench.Yields tree seen (f.meet (.move (.act act number))).bench) :
    f.relays number (.move (.act act number)) = f.bench.shown seen := by
  rw [relays, if_pos rfl, h.emissions, List.drop_left]

/-- A task that is not there yet tells nothing. -/
theorem relays_of_none {f : Floor} {number : Nat} (h : f.tasks[number]? = none) (i : Incident) :
    f.relays number i = [] := by
  rcases i.acts_or number with ⟨act, rfl⟩ | hother
  · rw [relays, if_pos rfl, meet, move, Floor.act, h]
    exact List.drop_length
  · exact relays_of_ne hother

theorem relayed_of_none {f : Floor} {number : Nat} {incidents : List Incident}
    (h : (f.pass incidents).tasks[number]? = none) : f.relayed number incidents = [] := by
  induction incidents using List.reverseRecOn with
  | nil => rfl
  | append_singleton incidents i ih =>
      rw [pass_concat, List.getElem?_eq_none_iff] at h
      have hbefore : (f.pass incidents).tasks[number]? = none :=
        List.getElem?_eq_none (Nat.le_trans (length_meet _ i) h)
      rw [relayed_concat, ih hbefore, relays_of_none hbefore]
      rfl

/-! ## Who writes -/

/-- What happens to no task leaves the files alone. -/
theorem rests_meet (f : Floor) {i : Incident}
    (hother : ∀ act number, i ≠ .move (.act act number)) : f.bench.Rests (f.meet i).bench := by
  have henter (spec : SpecFiles) (extra : List Text) :
      f.bench.Rests (f.enter spec extra).bench := by
    cases hactive : f.bench.slot.active with
    | some holder =>
        rw [enter_of_active hactive]
        exact .refl f.bench
    | none =>
        rw [enter_of_free hactive]
        exact Bench.rests_of_log rfl rfl rfl rfl
  cases i with
  | notice process => exact f.bench.rests_modifyChild process _
  | move m =>
      cases m with
      | check spec extra => exact henter spec extra
      | again =>
          rw [meet, move]
          split
          next request _ => exact henter request.spec request.extra
          next => exact .refl f.bench
      | parse spec => exact .refl f.bench
      | act act number => exact absurd rfl (hother act number)
      | stop => exact f.bench.rests_stop
      | attach port => exact f.bench.rests_tell rfl
      | finish process => exact f.bench.rests_modifyChild process _
      | close process => exact f.bench.rests_modifyChild process _
      | elapse time => exact Bench.rests_of_log rfl rfl rfl rfl

/-- No parse has a saver. -/
def Unsaved (f : Floor) : Prop :=
  ∀ (number : Nat) (run : ParseRun), f.tasks[number]? = some (.parse run) →
    (Task.parse run).saver? = none

theorem unsaved_meet {f : Floor} (h : f.Unsaved) (i : Incident) : (f.meet i).Unsaved := by
  intro number run hrun
  rcases task_of_meet hrun with hold | ⟨act, before, _, hbefore, _, _, hafter⟩ | ⟨_, hnew⟩
  · exact h number run hold
  · cases before with
    | check c =>
        rw [Task.act_check] at hafter
        cases hafter
    | parse parsed =>
        rw [hafter]
        exact (Task.relays_act f.bench (h number parsed hbefore) act).2
  · obtain ⟨spec, stage⟩ := run
    obtain rfl : stage = .transpiling .locating := hnew
    rfl

/-- What does not happen to a check that runs leaves the files alone. -/
theorem Unsaved.relays_meet {f : Floor} (h : f.Unsaved) {i : Incident}
    (hother : ∀ act number run, i = .move (.act act number) →
      f.tasks[number]? = some (.check run) → run.result ≠ none) :
    f.bench.Relays (f.meet i).bench := by
  have hsame : f.bench.Relays f.bench := (Bench.Rests.refl f.bench).relays
  by_cases hact : ∃ act number, i = .move (.act act number)
  · obtain ⟨act, number, rfl⟩ := hact
    cases htask : f.tasks[number]? with
    | none =>
        rw [meet, move, Floor.act, htask]
        exact hsame
    | some task =>
        cases task with
        | check run =>
            have hended : (Task.check run).result? ≠ none := fun hnone =>
              hother act number run rfl htask (Option.map_eq_none_iff.mp hnone)
            rw [meet, move, act_of_result? htask hended]
            exact hsame
        | parse run =>
            rw [meet, move, act_of_getElem? htask]
            exact (Task.relays_act f.bench (h number run htask) act).1
  · exact (rests_meet f fun act number hact' => hact ⟨act, number, hact'⟩).relays

/-! ## Checks that save their outputs -/

/-- What the files of checks that run hold, and what the checks have told. -/
structure Recording (first : Floor) (incidents : List Incident) : Prop where
  /-- The settings are the first ones. -/
  config : (first.pass incidents).bench.config = first.bench.config
  /-- Somebody follows if somebody did. -/
  attended : (first.pass incidents).bench.attended = first.bench.attended
  /-- Parses save nothing. -/
  unsaved : (first.pass incidents).Unsaved
  /-- A check that runs saves what it reads, and tells what it sees. -/
  checks : ∀ (number : Nat) (run : CheckRun),
    (first.pass incidents).tasks[number]? = some (.check run) → run.result = none →
      run.saved = true ∧
        run.plan.Saves (first.pass incidents).bench (first.relayed number incidents) run.stage

variable {first : Floor} {incidents : List Incident} {number : Nat} {run : CheckRun}

/-- What happens to a check that runs. -/
theorem Recording.act (h : first.Recording incidents)
    (htask : (first.pass incidents).tasks[number]? = some (.check run))
    (hresult : run.result = none) (act : Act) :
    let i : Incident := .move (.act act number)
    let done := (run.act (first.pass incidents).bench act).2
    (∃ tree seen, (first.pass incidents).bench.Yields tree seen
      (first.pass (incidents ++ [i])).bench) ∧
    run.plan.Pours run.stage (first.pass (incidents ++ [i])).bench
      (first.relayed number (incidents ++ [i])) done.stage ∧ done.plan = run.plan := by
  intro i done
  obtain ⟨hsaved, hsaves⟩ := h.checks number run htask hresult
  obtain ⟨⟨tree, seen, hyields, hpours⟩, hplan⟩ :=
    CheckRun.turns_act hsaves hsaved hresult act
  have hbench : ((first.pass incidents).meet i).bench =
      (run.act (first.pass incidents).bench act).1 := by
    rw [meet, move, act_of_getElem? htask, Task.act_check]
  rw [← hbench] at hyields hpours
  rw [pass_concat, relayed_concat, relays_act hyields]
  exact ⟨⟨tree, seen, hyields⟩, hpours, hplan⟩

/-- A check that runs then ran before, or is new. -/
theorem check_before {f : Floor} {i : Incident} {done : CheckRun}
    (h : (f.meet i).tasks[number]? = some (.check done)) (hresult : done.result = none) :
    (∃ run, f.tasks[number]? = some (.check run) ∧ run.result = none) ∨
      f.tasks[number]? = none := by
  rcases task_of_meet h with hold | ⟨act, before, _, hbefore, hopen, _, hafter⟩ | ⟨hnone, _⟩
  · exact Or.inl ⟨done, hold, hresult⟩
  · obtain ⟨run, rfl, _⟩ := Task.check_of_act hafter
    exact Or.inl ⟨run, hbefore, Option.map_eq_none_iff.mp hopen⟩
  · exact Or.inr hnone

/-- Whatever happens, the settings stay, and somebody follows if somebody did. -/
theorem Recording.yields (h : first.Recording incidents) (i : Incident) :
    ∃ tree seen, (first.pass incidents).bench.Yields tree seen
      (first.pass (incidents ++ [i])).bench := by
  by_cases hact : ∃ act number run, i = .move (.act act number) ∧
      (first.pass incidents).tasks[number]? = some (.check run) ∧ run.result = none
  · obtain ⟨act, number, run, rfl, htask, hresult⟩ := hact
    exact (h.act htask hresult act).1
  · rw [pass_concat]
    exact ⟨_, h.unsaved.relays_meet fun act number run hi htask hresult =>
      hact ⟨act, number, run, hi, htask, hresult⟩⟩

/-- A check that nothing happens to keeps its file. -/
theorem Recording.beside (h : first.Recording incidents) (hkept : (first.pass incidents).Kept)
    (htask : (first.pass incidents).tasks[number]? = some (.check run))
    (hresult : run.result = none) {i : Incident} (hother : ∀ act, i ≠ .move (.act act number)) :
    run.plan.Saves (first.pass (incidents ++ [i])).bench
      (first.relayed number (incidents ++ [i])) run.stage := by
  have hrelays : (first.pass incidents).bench.Relays ((first.pass incidents).meet i).bench := by
    refine h.unsaved.relays_meet fun act other last hi hlast hopen => hother act ?_
    rw [hi, hkept.single number other run last htask hlast hresult hopen]
  obtain ⟨seen, hyields⟩ := hrelays
  rw [pass_concat, relayed_concat, relays_of_ne hother, List.append_nil]
  exact (h.checks number run htask hresult).2.of_host hyields.host hyields.attended

/-- A check that is new has not begun to read, and saves its output if that is set. -/
theorem new_of_meet {f : Floor} {i : Incident} {done : CheckRun} (hnone : f.tasks[number]? = none)
    (h : (f.meet i).tasks[number]? = some (.check done)) (hresult : done.result = none) :
    done.saved = f.bench.config.createOutFiles ∧ done.stage = .locating := by
  obtain ⟨spec, extra, henter⟩ := check_of_new hnone h
  rw [henter] at h
  cases hactive : f.bench.slot.active with
  | some holder =>
      rw [enter_of_active hactive] at h
      obtain rfl := Task.check.inj (eq_of_getElem?_concat hnone h)
      cases hresult
  | none =>
      rw [enter_of_free hactive] at h
      obtain rfl := Task.check.inj (eq_of_getElem?_concat hnone h)
      exact ⟨rfl, rfl⟩

theorem Recording.concat (hsaved : first.bench.config.createOutFiles = true)
    (hkept : (first.pass incidents).Kept) (h : first.Recording incidents) (i : Incident) :
    first.Recording (incidents ++ [i]) := by
  obtain ⟨tree, seen, hyields⟩ := h.yields i
  constructor
  case config => exact hyields.config.trans h.config
  case attended => exact hyields.attended.trans h.attended
  case unsaved =>
    rw [pass_concat]
    exact unsaved_meet h.unsaved i
  case checks =>
    intro number done hdone hopen
    have hmeet := hdone
    rw [pass_concat] at hmeet
    rcases check_before hmeet hopen with ⟨run, htask, hresult⟩ | hnone
    · rcases stage_of_meet htask hresult hmeet with
        ⟨rfl, hother⟩ | ⟨act, rfl, rfl, _, _, hverdict⟩
      · exact ⟨(h.checks number done htask hresult).1, h.beside hkept htask hresult hother⟩
      · obtain ⟨_, hpours, hplan⟩ := h.act htask hresult act
        have hstage := Stage.isEnded_of_last?
          (Option.map_eq_none_iff.mp (hverdict.symm.trans hopen))
        refine ⟨(congrArg Plan.saved hplan).trans (h.checks number run htask hresult).1, ?_⟩
        rw [hplan]
        generalize (run.act (first.pass incidents).bench act).2.stage = next at hpours hstage
        cases hpours with
        | goes h => exact h
        | leaves _ _ => cases hstage
        | breaks _ => cases hstage
        | fails _ => cases hstage
    · obtain ⟨hset, hstage⟩ := new_of_meet hnone hmeet hopen
      rw [h.config, hsaved] at hset
      have hsilent : first.relayed number (incidents ++ [i]) = [] := by
        rw [relayed_concat, relayed_of_none hnone, relays_of_none hnone]
        rfl
      rw [hsilent, hstage]
      exact ⟨hset, .prepares rfl rfl rfl⟩

/-- Where outputs are saved, they are, whatever happens. -/
theorem recording_pass (hkept : first.Kept) (hempty : first.tasks = [])
    (hsaved : first.bench.config.createOutFiles = true) (incidents : List Incident) :
    first.Recording incidents := by
  induction incidents using List.reverseRecOn with
  | nil =>
      refine ⟨rfl, rfl, fun number run hrun => ?_, fun number run hrun => ?_⟩
      · change first.tasks[number]? = _ at hrun
        rw [hempty] at hrun
        cases hrun
      · change first.tasks[number]? = _ at hrun
        rw [hempty] at hrun
        cases hrun
  | append_singleton incidents i ih => exact ih.concat hsaved (kept_pass hkept incidents) i

/-! ## Replays -/

/-- What is in the file of a check, against what the check did, when one more thing happens. -/
structure Replays (first : Floor) (incidents : List Incident) (i : Incident) : Prop where
  /-- While a check reads, the pieces that it took would be in its file if that were closed.  It
  has read them and told what can be seen in them. -/
  reads : ∀ (number : Nat) (run : CheckRun) (process : Nat)
    (reading : Reading Checker.Run CheckReport) (saver : Option Saver),
    (first.pass incidents).tasks[number]? = some (.check run) →
      run.stage = .reading process reading saver → ∃ (pulled : List Bytes) (seen : List Emission),
        run.plan.Filed (Plan.closeSaver (first.pass incidents).bench saver) pulled.flatten ∧
          (Reading.start run.plan.session).feedChunks Checker.decoder (pulled.map .bytes) =
            (reading, ⟨seen, none⟩) ∧
          first.relayed number incidents = if first.bench.attended then seen else []
  /-- When it breaks off while it reads, they are. -/
  breaks : ∀ (number : Nat) (run done : CheckRun) (process : Nat)
    (reading : Reading Checker.Run CheckReport) (saver : Option Saver) (failure : Failure),
    (first.pass incidents).tasks[number]? = some (.check run) →
      run.stage = .reading process reading saver →
        (first.pass (incidents ++ [i])).tasks[number]? = some (.check done) →
          done.stage = .ended (.error failure) →
            run.plan.Breaks (first.pass (incidents ++ [i])).bench
              (first.relayed number (incidents ++ [i])) run.stage failure
  /-- When it returns a report without having been stopped, its file replays it. -/
  returns : ∀ (number : Nat) (run done : CheckRun) (report : CheckReport),
    (first.pass incidents).tasks[number]? = some (.check run) → run.result = none →
      (first.pass (incidents ++ [i])).tasks[number]? = some (.check done) →
        done.result = some (.ok report) → report.outcome ≠ .stopped → ∃ output : Bytes,
          run.plan.Filed (first.pass (incidents ++ [i])).bench output ∧
            run.Replays output report first.bench.attended
              (first.relayed number (incidents ++ [i]))

theorem Recording.shown (h : first.Recording incidents) (seen : List Emission) :
    (first.pass incidents).bench.shown seen = if first.bench.attended then seen else [] := by
  rw [Bench.shown, h.attended]

theorem Recording.returns (h : first.Recording incidents) {i : Incident}
    (hnext : first.Recording (incidents ++ [i])) {done : CheckRun} {report : CheckReport}
    (htask : (first.pass incidents).tasks[number]? = some (.check run))
    (hresult : run.result = none)
    (hdone : (first.pass (incidents ++ [i])).tasks[number]? = some (.check done))
    (hreport : done.result = some (.ok report)) (hunstopped : report.outcome ≠ .stopped) :
    ∃ output : Bytes, run.plan.Filed (first.pass (incidents ++ [i])).bench output ∧
      run.Replays output report first.bench.attended (first.relayed number (incidents ++ [i])) := by
  have hmeet := hdone
  rw [pass_concat] at hmeet
  rcases stage_of_meet htask hresult hmeet with
    ⟨rfl, _⟩ | ⟨act, rfl, rfl, _, _, hverdict⟩
  · rw [hresult] at hreport
    cases hreport
  · obtain ⟨_, hpours, _⟩ := h.act htask hresult act
    obtain ⟨last, hlast, hok⟩ := Option.map_eq_some_iff.mp (hverdict.symm.trans hreport)
    obtain ⟨exit, hstage⟩ := CheckRun.stage_of_verdict hlast hok
    rw [hstage] at hpours
    cases hpours with
    | goes hsaves =>
        cases hsaves with
        | prepares _ hopen => cases hopen
    | leaves hexiting hsaves =>
        rw [hexiting] at hsaves
        cases hsaves with
        | prepares htool => cases htool
        | @waits _ _ pulled stopped hrecords =>
            obtain rfl : stopped = false := by
              refine Bool.eq_false_iff.mpr fun hstopped => hunstopped ?_
              exact (run.vouches.consume hrecords.fault hrecords.report).outcome.mpr hstopped
            refine ⟨pulled.flatten, hrecords.filed, fun chunks hchunks => ?_⟩
            have hsame := Reading.consume_congr Checker.decoder
              (Checker.session (some run.spec.modulePath.toText)) hchunks false
            intro replay
            have hreplay : replay = _ := hsame
            rw [hreplay, ← hnext.shown]
            exact ⟨hrecords.fault, hrecords.report, hrecords.told⟩

theorem Recording.replays (h : first.Recording incidents) (hkept : (first.pass incidents).Kept)
    {i : Incident} (hnext : first.Recording (incidents ++ [i])) : first.Replays incidents i := by
  -- a check that reads has no result
  have hreading {number : Nat} {run : CheckRun} {process : Nat}
      {reading : Reading Checker.Run CheckReport} {saver : Option Saver}
      (htask : (first.pass incidents).tasks[number]? = some (.check run))
      (hstage : run.stage = .reading process reading saver) : run.result = none := by
    refine Option.map_eq_none_iff.mp ((hkept.fits _ (List.mem_of_getElem? htask)).opened.mpr ?_)
    rw [Task.isOpen, Task.ask, hstage]
    rfl
  constructor
  case reads =>
    intro number run process reading saver htask hstage
    have hsaves := (h.checks number run htask (hreading htask hstage)).2
    rw [hstage] at hsaves
    cases hsaves with
    | prepares htool => cases htool
    | @reads _ _ saver pulled seen hpath hhas hread htold =>
        refine ⟨pulled, seen, ⟨saver.path, hpath, Plan.read?_closeSaver hhas⟩, hread, ?_⟩
        rw [htold, h.shown]
  case breaks =>
    intro number run done process reading saver failure htask hstage hdone hfailed
    have hresult := hreading htask hstage
    rw [pass_concat] at hdone
    rcases stage_of_meet htask hresult hdone with ⟨rfl, _⟩ | ⟨act, rfl, rfl, _⟩
    · rw [hstage] at hfailed
      cases hfailed
    · obtain ⟨_, hpours, _⟩ := h.act htask hresult act
      rw [hfailed] at hpours
      cases hpours with
      | goes hsaves =>
          cases hsaves with
          | prepares _ hopen => cases hopen
      | breaks hbreaks => exact hbreaks
      | fails hsaver =>
          have hsaves := (h.checks number run htask hresult).2
          rw [hstage] at hsaves hsaver
          cases hsaves with
          | prepares htool => cases htool
          | reads => cases hsaver
  case returns =>
    intro number run done report htask hresult hdone hreport hunstopped
    exact h.returns hnext htask hresult hdone hreport hunstopped

/-- A file for an output gets the pieces that are taken and nothing else, and they are read as they
are.  So the file of a check whose outputs are saved replays it, whatever has happened. -/
theorem saved_output_replays (host : Host) (config : Config) (attended : Bool)
    (javaBehavior : Behavior) (behaviors : List Behavior) (incidents : List Incident) (i : Incident)
    (hsaved : config.createOutFiles = true) :
    (∀ (σ ρ : Type) (p : Plan σ ρ) (b : Bench) (path : Path) (saver : Saver) (tree : Files.Tree)
      (pieces : List Bytes), (Saver.of path).open b.host = .ok (saver, tree) →
        let s : ReadState σ ρ := ⟨b.setTree tree, .start p.session, some saver, none⟩
        let after := pieces.foldl p.readPiece s
        ∃ pulled, p.Pulls s path [] pieces pulled ∧
          (Plan.closeSaver after.bench after.saver).host.read? path =
            .ok (some pulled.flatten)) ∧
      (empty (.idle host config attended javaBehavior behaviors)).Replays incidents i := by
  refine ⟨fun σ ρ p b path saver tree pieces hopen => Plan.tees hopen p pieces, ?_⟩
  have hkept := kept_idle host config attended javaBehavior behaviors
  have hrecording := recording_pass hkept rfl hsaved
  exact (hrecording incidents).replays (kept_pass hkept incidents) (hrecording _)

end Floor

namespace Workshop

/-- The settings, under which outputs are saved. -/
def saving : Config := { settings with createOutFiles := true }

/-- A tool that greets. -/
def greeter : Behavior :=
  .runs ⟨some (Text.encode "hi\n".toList), some [], 0, .atOnce, 0, false⟩

end Workshop

namespace Floor

/-- A greeting is told, and is in the file when the check returns. -/
theorem saved_output_replays_greeting :
    let first := empty (.idle Workshop.host Workshop.saving true Workshop.java [Workshop.greeter])
    let incidents : List Incident :=
      (Workshop.opening 0 ++ List.replicate 2 (Move.act .step 0)).map .move
    let i : Incident := .move (.act .step 0)
    let last := first.pass (incidents ++ [i])
    Workshop.saving.createOutFiles = true ∧ first.Replays incidents i ∧
      last.bench.host.read? ⟨.root, ["A.out".toList]⟩ = .ok (some (Text.encode "hi\n".toList)) ∧
        (first.relayed 0 (incidents ++ [i])).filterMap Emission.echo? = ["hi".toList] ∧
          last.tasks[0]?.any (fun task => task.result?.any fun result =>
            match result with
            | .ok (.check report) => report.outcome ≠ .stopped
            | _ => false) = true := by
  intro first incidents i last
  refine ⟨rfl, ?_, by decide, by decide, by decide⟩
  exact (saved_output_replays Workshop.host Workshop.saving true Workshop.java [Workshop.greeter]
    incidents i rfl).2

end Floor

end TlaRunner.Workflow
