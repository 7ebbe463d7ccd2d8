import TlaRunner.Proofs.Workflow.Reporting

/-!
# Findings that are shown

Findings are shown by tasks that end, and by nothing else: what happens to the run of a tool
leaves them alone (`Plan.keeps_act`), and a task that takes over the end of its run shows the
findings of its report, if there is one (`Task.shows_act`).

`Floor.ledger` lists which task showed what.  It has one entry for every task that has ended with
findings, and what is shown in the end is what its entries show one after the other.
-/

namespace TlaRunner.Workflow

open Files (Host Saver SpecFiles)
open Supervision (Behavior Child Exit)
open Protocol (Reading)
open Diagnostic (Collection Sink)

variable {σ ρ : Type}

/-! ## Runs show nothing -/

namespace Bench

theorem keeps_seekJava (b : Bench) : b.Keeps b.seekJava.1 := by
  rw [seekJava]
  split
  next cache search _ =>
    have hcache : b.Keeps { b with cache } := ⟨rfl, rfl, rfl⟩
    cases search with
    | known executable => exact hcache
    | failed fault => exact hcache
    | ask executable =>
        have hstart := hcache.trans (keeps_start { b with cache } b.javaBehavior executable.toText
          Java.versionQuery none)
        simp only [startProbe]
        split
        next heq =>
          rw [heq] at hstart
          exact hstart
        next heq =>
          rw [heq] at hstart
          split
          · exact hstart
          · exact hstart

theorem keeps_learnJava {b after : Bench} {process : Nat} {executable : Path}
    {result : Except Failure Unit} (h : b.learnJava process executable = some (after, result)) :
    b.Keeps after := by
  rw [learnJava] at h
  obtain ⟨child, _, hwait⟩ := Option.bind_eq_some_iff.mp h
  obtain ⟨⟨exit, waited⟩, _, hlearn⟩ := Option.map_eq_some_iff.mp hwait
  simp only at hlearn
  split at hlearn
  next =>
    obtain ⟨rfl, _⟩ := Prod.mk.inj hlearn
    exact b.keeps_modifyChild process _
  next =>
    obtain ⟨rfl, _⟩ := Prod.mk.inj hlearn
    exact ⟨rfl, rfl, rfl⟩

end Bench

namespace Plan

variable (p : Plan σ ρ)

theorem keeps_conclude (b : Bench) (result : Except Failure (ρ × Exit)) :
    b.Keeps (p.conclude b result).1 := by
  rw [conclude]
  cases p.ticket with
  | none => exact .refl b
  | some ticket => exact b.keeps_release ticket

theorem keeps_closeSaver (b : Bench) (saver : Option Saver) : b.Keeps (closeSaver b saver) := by
  cases saver with
  | none => exact .refl b
  | some saver => exact b.keeps_setTree _

theorem keeps_abandon (b : Bench) (process : Nat) (saver : Option Saver) (failure : Failure) :
    b.Keeps (p.abandon b process saver failure).1 :=
  (keeps_closeSaver b saver).trans ((Bench.keeps_modifyChild _ process _).trans
    (p.keeps_conclude _ _))

theorem keeps_openSaver {b after : Bench} {saver : Option Saver}
    (h : p.openSaver b = .ok (saver, after)) : b.Keeps after := by
  rw [openSaver] at h
  split at h
  · cases hpath : (Files.outputFile p.spec.modulePath).mapError Failure.nameless with
    | error error => rw [hpath] at h; cases h
    | ok path =>
        rw [hpath] at h
        cases hopen : ((Saver.of path).open b.host).mapError Failure.saver with
        | error fault =>
            simp only [bind, Except.bind, hopen] at h
            cases h
        | ok opened =>
            simp only [bind, Except.bind, hopen] at h
            cases h
            exact b.keeps_setTree _
  · cases h
    exact .refl b

theorem keeps_locate (b : Bench) : b.Keeps (p.locate b).1 := by
  have hseek := b.keeps_seekJava
  rw [locate]
  split
  next heq => rw [heq] at hseek; exact hseek
  next heq => rw [heq] at hseek; exact hseek
  next heq => rw [heq] at hseek; exact hseek.trans (p.keeps_conclude _ _)

theorem keeps_learn (b : Bench) (process : Nat) (executable : Path) :
    b.Keeps (p.learn b process executable).1 := by
  rw [learn]
  split
  next => exact .refl b
  next hlearn => exact (Bench.keeps_learnJava hlearn).trans (p.keeps_conclude _ _)
  next hlearn => exact Bench.keeps_learnJava hlearn

theorem keeps_launch (b : Bench) (executable : Path) : b.Keeps (p.launch b executable).1 := by
  rw [launch]
  split
  next => exact p.keeps_conclude b _
  next arguments _ =>
    have hstart := b.keeps_startTool executable arguments p.spec.directory
    split
    next heq => rw [heq] at hstart; exact hstart.trans (p.keeps_conclude _ _)
    next started process heq =>
      rw [heq] at hstart
      have hattach : started.Keeps ((p.ticket.map (started.attach · process)).getD started) := by
        cases p.ticket with
        | none => exact .refl started
        | some ticket => exact started.keeps_attach ticket process
      have hheld := hstart.trans hattach
      simp only
      split
      next => exact hheld.trans (p.keeps_abandon _ process none _)
      next saver opened hopen =>
        have hopened := hheld.trans (p.keeps_openSaver hopen)
        split
        next => exact hopened.trans (p.keeps_abandon _ process saver _)
        next => exact hopened

theorem keeps_readPiece (s : ReadState σ ρ) (piece : Bytes) :
    s.bench.Keeps (p.readPiece s piece).bench := by
  rw [readPiece]
  split
  next => exact .refl _
  next =>
    split
    next => exact .refl _
    next written _ =>
      have hwritten : s.bench.Keeps ((written.map fun w => s.bench.setTree w.2).getD s.bench) := by
        cases written with
        | none => exact .refl _
        | some written => exact s.bench.keeps_setTree _
      exact hwritten.trans (Bench.keeps_relay _ _)

theorem keeps_readOn (b : Bench) (process : Nat) (child : Child) (reading : Reading σ ρ)
    (saver : Option Saver) : b.Keeps (p.readOn b process child reading saver).bench := by
  have hpieces (pieces : List Bytes) (s : ReadState σ ρ) :
      s.bench.Keeps (pieces.foldl p.readPiece s).bench := by
    induction pieces generalizing s with
    | nil => exact .refl _
    | cons piece rest ih => exact (p.keeps_readPiece s piece).trans (ih _)
  exact (b.keeps_modifyChild process _).trans
    (hpieces _ ⟨b.modifyChild process fun c => { c with unread := [] }, reading, saver, none⟩)

theorem keeps_read (b : Bench) (process : Nat) (reading : Reading σ ρ) (saver : Option Saver) :
    b.Keeps (p.read b process reading saver).1 := by
  rw [Plan.read]
  split
  next => exact .refl b
  next child _ =>
    have hread := p.keeps_readOn b process child reading saver
    simp only
    split
    next => exact hread.trans (p.keeps_abandon _ _ _ _)
    next =>
      split
      next => exact hread
      next =>
        have hrelayed := hread.trans (Bench.keeps_relay
          (p.readOn b process child reading saver).bench
          ((p.readOn b process child reading saver).reading.finish p.decoder child.signaled).2.seen)
        split
        next => exact hrelayed.trans (p.keeps_abandon _ _ _ _)
        next =>
          split
          next => exact hrelayed.trans (p.keeps_abandon _ _ _ _)
          next => exact hrelayed.trans (keeps_closeSaver _ _)

theorem keeps_leave (b : Bench) (process : Nat) (report : ρ) :
    b.Keeps (p.leave b process report).1 := by
  rw [leave]
  split
  next => exact .refl b
  next => exact (b.keeps_modifyChild process _).trans (p.keeps_conclude _ _)

/-- Whatever happens to a run, what is shown and what was checked last stay. -/
theorem keeps_act (b : Bench) (stage : Stage σ ρ) (act : Act) :
    b.Keeps (p.act b stage act).1 := by
  cases act with
  | step =>
      cases stage with
      | locating => exact p.keeps_locate b
      | probing process executable => exact p.keeps_learn b process executable
      | launching executable => exact p.keeps_launch b executable
      | reading process reading saver => exact p.keeps_read b process reading saver
      | exiting process report => exact p.keeps_leave b process report
      | ended result => exact .refl b
  | upset reason =>
      cases stage with
      | reading process reading saver => exact p.keeps_abandon b process saver _
      | _ => exact .refl b
  | cancel =>
      cases stage with
      | reading process reading saver => exact p.keeps_abandon b process saver _
      | ended result => exact .refl b
      | _ => exact p.keeps_conclude b _

end Plan

/-! ## Tasks show what they found -/

namespace Bench

/-- What becomes of what is shown when findings are shown one after the other. -/
structure Shows (b after : Bench) (found : List Collection) : Prop where
  /-- What was checked last stays. -/
  last : after.slot.last = b.slot.last
  /-- Somebody follows if somebody did. -/
  attended : after.attended = b.attended
  /-- The last findings are shown, if anybody follows. -/
  sink : after.sink = if b.attended then found.foldl Sink.publish b.sink else b.sink

theorem Keeps.shows {b after : Bench} (h : b.Keeps after) : b.Shows after [] := by
  refine ⟨h.last, h.attended, ?_⟩
  rw [h.sink, List.foldl_nil, ite_self]

theorem Shows.trans {b middle after : Bench} {first last : List Collection}
    (hfirst : b.Shows middle first) (hlast : middle.Shows after last) :
    b.Shows after (first ++ last) := by
  refine ⟨hlast.last.trans hfirst.last, hlast.attended.trans hfirst.attended, ?_⟩
  rw [hlast.sink, hfirst.attended, hfirst.sink, List.foldl_append]
  cases b.attended with
  | true => rfl
  | false => rfl

theorem shows_publish (b : Bench) (found : Collection) : b.Shows (b.publish found) [found] := by
  rw [publish]
  split
  next h => exact ⟨rfl, rfl, by rw [if_pos h]; rfl⟩
  next h => exact ⟨rfl, rfl, by rw [if_neg h]⟩

end Bench

namespace Task

/-- The findings of a task that has ended with some. -/
def findings? : Task → Option Collection
  | check ⟨_, _, _, _, .ended (.ok (report, _)), some _⟩ => some (.ofMapping report.diagnostics)
  | parse ⟨_, .ended (.ok outcome)⟩ => some outcome.diagnostics
  | _ => none

/-- A check that has ended with a report has its findings. -/
theorem findings?_check {c : CheckRun} {report : CheckReport} {exit : Exit}
    (hstage : c.stage = .ended (.ok (report, exit)))
    (hresult : c.result = c.stage.last?.map CheckRun.verdict) :
    (check c).findings? = some (.ofMapping report.diagnostics) := by
  rw [hstage] at hresult
  obtain ⟨spec, extra, ticket, saved, stage, result⟩ := c
  obtain rfl : stage = _ := hstage
  obtain rfl : result = some _ := hresult
  rfl

theorem findings?_of_result? {task : Task} (h : task.result? = none) : task.findings? = none := by
  rw [findings?.eq_def]
  split
  next => cases h
  next => cases h
  next => rfl

end Task

/-- A check that takes over the end of its run shows the findings of the report. -/
theorem CheckRun.shows_enter (c : CheckRun) (b : Bench) (stage : Stage Checker.Run CheckReport) :
    b.Shows (c.enter (b, stage)).1 (Task.check (c.enter (b, stage)).2).findings?.toList := by
  cases stage with
  | ended last =>
      cases last with
      | error failure => exact (Bench.Keeps.refl b).shows
      | ok last => exact b.shows_publish _
  | _ => exact (Bench.Keeps.refl b).shows

/-- A parse shows nothing while the transpiler runs. -/
theorem ParseRun.shows_transpiling (b : Bench) (spec : SpecFiles)
    (stage : Stage Transpiler.State ParseReport) :
    let next := enterTranspiling (b, stage)
    b.Shows next.1 (Task.parse ⟨spec, next.2⟩).findings?.toList := by
  have hnothing := (Bench.Keeps.refl b).shows
  cases stage with
  | ended last =>
      simp only [enterTranspiling]
      cases reportOf .transpiler last with
      | error failure => exact hnothing
      | ok report => exact hnothing
  | _ => exact hnothing

/-- It shows the findings of both tools where it ends with them. -/
theorem ParseRun.shows_analyzing (b : Bench) (spec : SpecFiles) (transpiled : ParseReport)
    (stage : Stage Analyzer.Grammar ParseReport) :
    let next := enterAnalyzing transpiled (b, stage)
    b.Shows next.1 (Task.parse ⟨spec, next.2⟩).findings?.toList := by
  have hnothing := (Bench.Keeps.refl b).shows
  cases stage with
  | ended last =>
      simp only [enterAnalyzing]
      cases reportOf .analyzer last with
      | error failure => exact hnothing
      | ok report => exact b.shows_publish _
  | _ => exact hnothing

namespace Task

/-- What happens to a task that has not ended shows the findings that it ends with. -/
theorem shows_act (b : Bench) (task : Task) (h : task.result? = none) (act : Act) :
    b.Shows (task.act b act).1 (task.act b act).2.findings?.toList := by
  cases task with
  | check c =>
      rw [act_check, CheckRun.act_eq b (Option.map_eq_none_iff.mp h)]
      exact (c.plan.keeps_act b c.stage act).shows.trans (c.shows_enter _ _)
  | parse run =>
      obtain ⟨spec, stage⟩ := run
      cases stage with
      | transpiling stage =>
          rw [act_transpiling]
          exact ((ParseRun.transpilerPlan spec).keeps_act b stage act).shows.trans
            (ParseRun.shows_transpiling _ spec _)
      | analyzing transpiled stage =>
          rw [act_analyzing]
          exact ((ParseRun.analyzerPlan spec).keeps_act b stage act).shows.trans
            (ParseRun.shows_analyzing _ spec transpiled _)
      | ended result => cases h

end Task

/-! ## The ledger -/

namespace Floor

/-- The findings of a task that has ended with some. -/
def findings? (f : Floor) (number : Nat) : Option Collection :=
  f.tasks[number]?.bind (·.findings?)

/-- Which task shows what at an incident. -/
def entries (f : Floor) (i : Incident) : List (Nat × Collection) :=
  match i with
  | .move (.act _ number) =>
    if (f.findings? number).isSome then []
    else ((f.meet i).findings? number).toList.map (number, ·)
  | _ => []

/-- Which task shows what, in order. -/
def ledger (f : Floor) : List Incident → List (Nat × Collection)
  | [] => []
  | i :: rest => f.entries i ++ (f.meet i).ledger rest

theorem findings?_of_isNew {task : Task} (h : IsNew task) : task.findings? = none := by
  cases task with
  | check run =>
      obtain ⟨spec, extra, ticket, saved, stage, result⟩ := run
      rcases h with ⟨_, rfl⟩ | ⟨error, rfl, rfl⟩
      · exact Task.findings?_of_result? rfl
      · rfl
  | parse run =>
      obtain ⟨spec, stage⟩ := run
      obtain rfl : stage = _ := h
      rfl

/-- A task that has ended has its findings for good. -/
theorem findings?_meet_of_some {f : Floor} {number : Nat} {found : Collection}
    (h : f.findings? number = some found) (i : Incident) :
    (f.meet i).findings? number = some found := by
  obtain ⟨task, htask, hfound⟩ := Option.bind_eq_some_iff.mp h
  have hended : task.result? ≠ none := fun hnone => by
    rw [Task.findings?_of_result? hnone] at hfound
    cases hfound
  have hkept : (f.meet i).tasks[number]? = some task := by
    rcases i.acts_or number with ⟨act, rfl⟩ | hother
    · rw [meet, move, act_of_result? htask hended]
      exact htask
    · exact tasks_meet htask hother
  rw [findings?, hkept, Option.bind_some, hfound]

theorem findings?_pass_of_some {f : Floor} {number : Nat} {found : Collection}
    (h : f.findings? number = some found) (incidents : List Incident) :
    (f.pass incidents).findings? number = some found := by
  induction incidents generalizing f with
  | nil => exact h
  | cons i rest ih => exact ih (findings?_meet_of_some h i)

/-- A task comes to findings when something happens to it. -/
theorem findings?_meet_of_ne {f : Floor} {number : Nat} {i : Incident}
    (h : ∀ act, i ≠ .move (.act act number)) :
    (f.meet i).findings? number = f.findings? number := by
  rw [findings?, findings?]
  cases htask : f.tasks[number]? with
  | some task => rw [tasks_meet htask h]
  | none =>
      cases hafter : (f.meet i).tasks[number]? with
      | none => rfl
      | some task =>
          rcases task_of_meet hafter with hold | ⟨act, _, hact, _⟩ | ⟨_, hnew⟩
          · rw [htask] at hold
            cases hold
          · exact absurd hact (h act)
          · exact findings?_of_isNew hnew

/-- Only the task to which something happens has entries then. -/
theorem acts_of_mem_entries {f : Floor} {i : Incident} {entry : Nat × Collection}
    (h : entry ∈ f.entries i) : ∃ act, i = .move (.act act entry.1) := by
  rw [entries.eq_def] at h
  split at h
  next act number =>
    split at h
    next => cases h
    next =>
      obtain ⟨found, _, rfl⟩ := List.mem_map.mp h
      exact ⟨act, rfl⟩
  next => cases h

/-- The entries of a task at an incident: its findings, if it comes to them then. -/
theorem filter_entries (f : Floor) (i : Incident) (number : Nat) :
    (f.entries i).filter (·.1 = number) =
      if (f.findings? number).isSome then []
      else ((f.meet i).findings? number).toList.map (number, ·) := by
  rcases i.acts_or number with ⟨act, rfl⟩ | hother
  · refine List.filter_eq_self.mpr fun entry hentry => ?_
    obtain ⟨_, hsame⟩ := acts_of_mem_entries hentry
    cases hsame
    exact decide_eq_true rfl
  · rw [findings?_meet_of_ne hother, List.filter_eq_nil_iff.mpr fun entry hentry => ?_]
    · cases f.findings? number with
      | none => rfl
      | some found => rfl
    · rw [decide_eq_true_iff]
      rintro rfl
      obtain ⟨act, hact⟩ := acts_of_mem_entries hentry
      exact hother act hact

/-- A task that ends with findings has one entry, and any other none. -/
theorem filter_ledger (f : Floor) (incidents : List Incident) (number : Nat) :
    (f.ledger incidents).filter (·.1 = number) =
      if (f.findings? number).isSome then []
      else ((f.pass incidents).findings? number).toList.map (number, ·) := by
  -- findings are there for good, so of all incidents at most one enters them
  induction incidents generalizing f with
  | nil =>
      rw [ledger, List.filter_nil]
      change [] = if (f.findings? number).isSome then []
        else (f.findings? number).toList.map (number, ·)
      cases f.findings? number with
      | none => rfl
      | some found => rfl
  | cons i rest ih =>
      rw [ledger, List.filter_append, filter_entries, ih, pass_cons]
      cases hbefore : f.findings? number with
      | some found =>
          rw [findings?_meet_of_some hbefore i]
          rfl
      | none =>
          cases hafter : (f.meet i).findings? number with
          | none => rfl
          | some found =>
              rw [findings?_pass_of_some hafter rest]
              rfl

/-- Where no task comes to findings there is no entry. -/
theorem entries_eq_nil {f : Floor} {i : Incident}
    (h : ∀ number, (f.meet i).findings? number = f.findings? number) : f.entries i = [] := by
  rw [entries.eq_def]
  split
  next act number =>
    split
    next => rfl
    next hnone =>
      rw [h number, Option.not_isSome_iff_eq_none.mp hnone]
      rfl
  next => rfl

/-- An incident shows what it enters in the ledger, and leaves alone what was checked last unless
it begins a check. -/
theorem shows_meet (f : Floor) (i : Incident) :
    (∃ spec extra, f.bench.slot.active = none ∧ f.meet i = f.enter spec extra ∧ f.entries i = []) ∨
      f.bench.Shows (f.meet i).bench ((f.entries i).map Prod.snd) := by
  have hmeets := f.meets i
  generalize hafter : f.meet i = after at hmeets ⊢
  cases hmeets with
  | @acts act number task hact htask hresult =>
      subst hact
      have hnone : f.findings? number = none := by
        rw [findings?, htask, Option.bind_some, Task.findings?_of_result? hresult]
      have hfound : (f.meet (.move (.act act number))).findings? number =
          (task.act f.bench act).2.findings? := by
        rw [findings?, hafter, List.getElem?_set_self (List.getElem?_eq_some_iff.mp htask).1,
          Option.bind_some]
      have hentries : (f.entries (.move (.act act number))).map Prod.snd =
          (task.act f.bench act).2.findings?.toList := by
        rw [entries, hnone, hfound]
        cases (task.act f.bench act).2.findings? with
        | none => rfl
        | some found => rfl
      rw [hentries]
      exact Or.inr (Task.shows_act f.bench _ hresult act)
  | @enters spec extra hother =>
      have hentries := entries_eq_nil fun number =>
        findings?_meet_of_ne (f := f) fun act => hother act number
      cases hactive : f.bench.slot.active with
      | none => exact Or.inl ⟨spec, extra, rfl, rfl, hentries⟩
      | some holder =>
          rw [hentries, enter_of_active hactive]
          exact Or.inr (Bench.Keeps.refl f.bench).shows
  | parses hother =>
      rw [entries_eq_nil fun number => findings?_meet_of_ne (f := f) fun act => hother act number]
      exact Or.inr (Bench.Keeps.refl f.bench).shows
  | passes hkeeps _ =>
      have hsame (number : Nat) : (f.meet i).findings? number = f.findings? number := by
        rw [findings?, findings?, hafter]
      rw [entries_eq_nil hsame]
      exact Or.inr hkeeps.shows

theorem sink_meet (f : Floor) (i : Incident) :
    (f.meet i).bench.attended = f.bench.attended ∧
      (f.meet i).bench.sink =
        if f.bench.attended then ((f.entries i).map Prod.snd).foldl Sink.publish f.bench.sink
        else f.bench.sink := by
  rcases f.shows_meet i with ⟨spec, extra, hfree, henter, hentries⟩ | hshows
  · rw [henter, enter_of_free hfree, hentries]
    exact ⟨rfl, (ite_self _).symm⟩
  · exact ⟨hshows.attended, hshows.sink⟩

/-- What is shown in the end is what the entries of the ledger show one after the other. -/
theorem sink_pass (f : Floor) (incidents : List Incident) :
    (f.pass incidents).bench.sink =
      if f.bench.attended then ((f.ledger incidents).map Prod.snd).foldl Sink.publish f.bench.sink
      else f.bench.sink := by
  induction incidents generalizing f with
  | nil => exact (ite_self _).symm
  | cons i rest ih =>
      obtain ⟨hattended, hsink⟩ := f.sink_meet i
      rw [pass_cons, ih, hattended, hsink, ledger, List.map_append, List.foldl_append]
      split
      · rfl
      · rfl

/-- What is on display once the entries of a ledger have been shown, if anybody follows: the last
entry, with one replacement for each. -/
structure Displays (sink : Sink) (attended : Bool) (ledger : List (Nat × Collection)) : Prop where
  mapping : sink.mapping =
    if attended then (ledger.getLast?.map fun entry => entry.2.mapping).getD [] else []
  updates : sink.updates = if attended then ledger.length else 0

theorem displays_foldl_publish (ledger : List (Nat × Collection)) :
    Displays ((ledger.map Prod.snd).foldl Sink.publish .empty) true ledger := by
  induction ledger using List.reverseRecOn with
  | nil => exact ⟨rfl, rfl⟩
  | append_singleton ledger entry ih =>
      rw [List.map_append, List.map_singleton, List.foldl_concat]
      constructor
      · rw [if_pos rfl, List.getLast?_concat]
        rfl
      · rw [if_pos rfl, List.length_append, List.length_singleton]
        exact congrArg (· + 1) ih.updates

/-- What is on display in the end, if nothing was shown before. -/
theorem displays_pass {f : Floor} (hsink : f.bench.sink = .empty) (incidents : List Incident) :
    Displays (f.pass incidents).bench.sink f.bench.attended (f.ledger incidents) := by
  rw [sink_pass, hsink]
  cases f.bench.attended with
  | true => exact displays_foldl_publish (f.ledger incidents)
  | false => exact ⟨rfl, rfl⟩

end Floor

end TlaRunner.Workflow
