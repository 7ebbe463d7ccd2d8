import TlaRunner.Proofs.Workflow.Task

/-!
# Files and what is told

What becomes of the files of a bench, and what its runs tell of the outputs that they read, is
written `Bench.Yields`.  Most of what happens on a bench changes neither (`Bench.Rests`).

A run that does not save its output leaves the files alone (`Plan.relays_act`), and so does every
parse (`Task.relays_act`).
-/

namespace TlaRunner.Workflow

open Files (Saver SpecFiles Tree)
open Supervision (Behavior Child Exit)
open Protocol (Emission Reading)

/-- What a notice tells of an output. -/
def Notice.emission? : Notice → Option Emission
  | .emission content => some content
  | _ => none

namespace Bench

/-- What was told of the outputs. -/
def emissions (b : Bench) : List Emission :=
  b.log.filterMap Notice.emission?

/-- What is told of what was seen. -/
def shown (b : Bench) (seen : List Emission) : List Emission :=
  if b.attended then seen else []

theorem shown_nil (b : Bench) : b.shown [] = [] := by
  rw [shown, ite_self]

theorem shown_append (b : Bench) (first last : List Emission) :
    b.shown (first ++ last) = b.shown first ++ b.shown last := by
  rw [shown, shown, shown]
  split
  · rfl
  · rfl

theorem shown_of_attended {b after : Bench} (h : after.attended = b.attended)
    (seen : List Emission) : after.shown seen = b.shown seen := by
  rw [shown, shown, h]

/-- What becomes of a bench whose host has other files then, and on which something was seen. -/
structure Yields (b : Bench) (tree : Tree) (seen : List Emission) (after : Bench) : Prop where
  /-- Nothing but the files changes on the host. -/
  host : after.host = { b.host with tree }
  /-- The settings stay. -/
  config : after.config = b.config
  /-- Somebody follows if somebody did. -/
  attended : after.attended = b.attended
  /-- What was seen was told. -/
  emissions : after.emissions = b.emissions ++ b.shown seen

/-- The host stays as it is, and nothing is told. -/
def Rests (b after : Bench) : Prop := b.Yields b.host.tree [] after

theorem Yields.trans {b middle after : Bench} {first last : Tree} {seen more : List Emission}
    (hfirst : b.Yields first seen middle) (hlast : middle.Yields last more after) :
    b.Yields last (seen ++ more) after := by
  refine ⟨?_, hlast.config.trans hfirst.config, hlast.attended.trans hfirst.attended, ?_⟩
  · rw [hlast.host, hfirst.host]
  · rw [hlast.emissions, hfirst.emissions, shown_of_attended hfirst.attended, shown_append,
      List.append_assoc]

/-- Where nothing happens first. -/
theorem Rests.yields {b middle after : Bench} {tree : Tree} {seen : List Emission}
    (hfirst : b.Rests middle) (hlast : middle.Yields tree seen after) :
    b.Yields tree seen after :=
  Yields.trans hfirst hlast

/-- Where nothing happens then. -/
theorem Yields.rests {b middle after : Bench} {tree : Tree} {seen : List Emission}
    (hfirst : b.Yields tree seen middle) (hlast : middle.Rests after) :
    b.Yields tree seen after := by
  have htree : middle.host.tree = tree := by rw [hfirst.host]
  have hboth := hfirst.trans hlast
  rwa [htree, List.append_nil] at hboth

theorem Rests.trans {b middle after : Bench} (hfirst : b.Rests middle)
    (hlast : middle.Rests after) : b.Rests after :=
  Yields.rests hfirst hlast

theorem Rests.host {b after : Bench} (h : b.Rests after) : after.host = b.host :=
  Yields.host h

/-- Nothing but the host, the settings and the log matters. -/
theorem rests_of_log {b after : Bench} (hhost : after.host = b.host)
    (hconfig : after.config = b.config) (hattended : after.attended = b.attended)
    (hlog : after.log = b.log) : b.Rests after := by
  refine ⟨hhost, hconfig, hattended, ?_⟩
  rw [shown_nil, List.append_nil, emissions, emissions, hlog]

theorem Rests.refl (b : Bench) : b.Rests b := rests_of_log rfl rfl rfl rfl

/-- The files stay as they are. -/
def Relays (b after : Bench) : Prop := ∃ seen, b.Yields b.host.tree seen after

theorem Rests.relays {b after : Bench} (h : b.Rests after) : b.Relays after := ⟨[], h⟩

theorem Relays.trans {b middle after : Bench} (hfirst : b.Relays middle)
    (hlast : middle.Relays after) : b.Relays after := by
  obtain ⟨seen, hfirst⟩ := hfirst
  obtain ⟨more, hlast⟩ := hlast
  have htree : middle.host.tree = b.host.tree := by rw [hfirst.host]
  rw [htree] at hlast
  exact ⟨seen ++ more, hfirst.trans hlast⟩

theorem Relays.host {b after : Bench} (h : b.Relays after) : after.host = b.host := by
  obtain ⟨seen, h⟩ := h
  exact h.host

/-! ## What rests -/

theorem rests_start (b : Bench) (behavior : Behavior) (executable : Text) (arguments : List Text)
    (directory : Option Path) : b.Rests (b.start behavior executable arguments directory).1 := by
  cases behavior with
  | refused reason => exact rests_of_log rfl rfl rfl rfl
  | runs program => exact rests_of_log rfl rfl rfl rfl

theorem rests_startTool (b : Bench) (executable : Path) (arguments : List Text)
    (directory : Path) : b.Rests (b.startTool executable arguments directory).1 := by
  have hbehaviors : b.Rests { b with behaviors := b.behaviors.tail } :=
    rests_of_log rfl rfl rfl rfl
  exact hbehaviors.trans (rests_start _ _ _ _ _)

theorem rests_modifyChild (b : Bench) (process : Nat) (f : Child → Child) :
    b.Rests (b.modifyChild process f) := rests_of_log rfl rfl rfl rfl

theorem rests_attach (b : Bench) (ticket process : Nat) : b.Rests (b.attach ticket process) := by
  rw [attach]
  simp only
  split
  · exact rests_of_log rfl rfl rfl rfl
  · exact rests_of_log rfl rfl rfl rfl

theorem rests_release (b : Bench) (ticket : Nat) : b.Rests (b.release ticket) :=
  rests_of_log rfl rfl rfl rfl

theorem rests_stop (b : Bench) : b.Rests b.stop.1 := by
  rw [stop]
  split
  · exact .refl b
  next ticket _ =>
    simp only
    cases (b.slot.cancel ticket).2 with
    | none => exact rests_of_log rfl rfl rfl rfl
    | some process => exact rests_of_log rfl rfl rfl rfl

theorem rests_publish (b : Bench) (findings : Diagnostic.Collection) :
    b.Rests (b.publish findings) := by
  rw [publish]
  split
  · exact rests_of_log rfl rfl rfl rfl
  · exact .refl b

/-- Notices that tell nothing of an output. -/
theorem rests_tell (b : Bench) {notices : List Notice}
    (h : notices.filterMap Notice.emission? = []) : b.Rests (b.tell notices) := by
  refine ⟨rfl, rfl, rfl, ?_⟩
  rw [emissions, tell, List.filterMap_append, h, shown_nil]
  rfl

theorem rests_seekJava (b : Bench) : b.Rests b.seekJava.1 := by
  rw [seekJava]
  split
  next cache search _ =>
    have hcache : b.Rests { b with cache } := rests_of_log rfl rfl rfl rfl
    cases search with
    | known executable => exact hcache
    | failed fault => exact hcache
    | ask executable =>
        have hstart := hcache.trans (rests_start { b with cache } b.javaBehavior executable.toText
          Java.versionQuery none)
        simp only [startProbe]
        split
        next heq =>
          rw [heq] at hstart
          exact hstart
        next heq =>
          rw [heq] at hstart
          split
          · exact hstart
          · exact hstart

theorem rests_learnJava {b after : Bench} {process : Nat} {executable : Path}
    {result : Except Failure Unit} (h : b.learnJava process executable = some (after, result)) :
    b.Rests after := by
  rw [learnJava] at h
  obtain ⟨child, _, hwait⟩ := Option.bind_eq_some_iff.mp h
  obtain ⟨⟨exit, waited⟩, _, hlearn⟩ := Option.map_eq_some_iff.mp hwait
  have hmodify := b.rests_modifyChild process fun _ => waited
  simp only at hlearn
  split at hlearn
  next =>
    obtain ⟨rfl, _⟩ := Prod.mk.inj hlearn
    exact hmodify
  next cache warning _ =>
    obtain ⟨rfl, _⟩ := Prod.mk.inj hlearn
    have hcache : (b.modifyChild process fun _ => waited).Rests
        { b.modifyChild process fun _ => waited with cache } := rests_of_log rfl rfl rfl rfl
    refine hmodify.trans (hcache.trans (rests_tell _ ?_))
    cases warning with
    | none => rfl
    | some text => rfl

/-! ## What does not -/

theorem yields_relay (b : Bench) (seen : List Emission) :
    b.Yields b.host.tree seen (b.relay seen) := by
  rw [relay]
  split
  next hattended =>
    refine ⟨rfl, rfl, rfl, ?_⟩
    rw [emissions, tell, List.filterMap_append, shown, if_pos hattended]
    refine congrArg (b.emissions ++ ·) ?_
    rw [List.filterMap_map]
    exact List.filterMap_some
  next hattended =>
    refine ⟨rfl, rfl, rfl, ?_⟩
    rw [shown, if_neg hattended, List.append_nil]

theorem relays_relay (b : Bench) (seen : List Emission) : b.Relays (b.relay seen) :=
  ⟨seen, b.yields_relay seen⟩

theorem yields_setTree (b : Bench) (tree : Tree) : b.Yields tree [] (b.setTree tree) :=
  ⟨rfl, rfl, rfl, (rests_of_log rfl rfl rfl rfl : b.Rests b).emissions⟩

end Bench

/-! ## Runs -/

variable {σ ρ : Type}

/-- The saver of a run that reads. -/
def Stage.saver? : Stage σ ρ → Option Saver
  | reading _ _ saver => saver
  | _ => none

/-- A stage before the output is read, or a failure there. -/
def Stage.IsEarly (stage : Stage σ ρ) : Prop :=
  stage.tool? = none ∧ stage.isEnded = false ∨ ∃ failure, stage = .ended (.error failure)

theorem Stage.IsEarly.saver? {stage : Stage σ ρ} (h : stage.IsEarly) : stage.saver? = none := by
  rcases h with ⟨htool, _⟩ | ⟨failure, rfl⟩
  · cases stage with
    | reading process reading saver => cases htool
    | _ => rfl
  · rfl

namespace Plan

variable (p : Plan σ ρ)

theorem rests_conclude (b : Bench) (result : Except Failure (ρ × Exit)) :
    b.Rests (p.conclude b result).1 := by
  rw [conclude]
  cases p.ticket with
  | none => exact .refl b
  | some ticket => exact b.rests_release ticket

theorem rests_abandon (b : Bench) (process : Nat) (failure : Failure) :
    b.Rests (p.abandon b process none failure).1 :=
  (b.rests_modifyChild process _).trans (p.rests_conclude _ _)

theorem rests_locate (b : Bench) : b.Rests (p.locate b).1 ∧ (p.locate b).2.IsEarly := by
  have hseek := b.rests_seekJava
  rw [locate]
  split
  next heq => rw [heq] at hseek; exact ⟨hseek, Or.inl ⟨rfl, rfl⟩⟩
  next heq => rw [heq] at hseek; exact ⟨hseek, Or.inl ⟨rfl, rfl⟩⟩
  next heq => rw [heq] at hseek; exact ⟨hseek.trans (p.rests_conclude _ _), Or.inr ⟨_, rfl⟩⟩

theorem rests_learn (b : Bench) (process : Nat) (executable : Path) :
    b.Rests (p.learn b process executable).1 ∧ (p.learn b process executable).2.IsEarly := by
  rw [learn]
  split
  next => exact ⟨.refl b, Or.inl ⟨rfl, rfl⟩⟩
  next hlearn =>
    exact ⟨(Bench.rests_learnJava hlearn).trans (p.rests_conclude _ _), Or.inr ⟨_, rfl⟩⟩
  next hlearn => exact ⟨Bench.rests_learnJava hlearn, Or.inl ⟨rfl, rfl⟩⟩

/-- A tool that is started comes to a bench that is as it was. -/
theorem rests_started (b : Bench) (executable : Path) (arguments : List Text) :
    let started := b.startTool executable arguments p.spec.directory
    b.Rests started.1 ∧
      ∀ process, b.Rests ((p.ticket.map (started.1.attach · process)).getD started.1) := by
  intro started
  have hstart := b.rests_startTool executable arguments p.spec.directory
  refine ⟨hstart, fun process => ?_⟩
  cases p.ticket with
  | none => exact hstart
  | some ticket => exact hstart.trans (Bench.rests_attach _ ticket process)

theorem rests_leave (b : Bench) (process : Nat) (report : ρ) :
    b.Rests (p.leave b process report).1 ∧
      ((p.leave b process report).2 = .exiting process report ∨
        ∃ exit, (p.leave b process report).2 = .ended (.ok (report, exit))) := by
  rw [leave]
  split
  next => exact ⟨.refl b, Or.inl rfl⟩
  next exit waited _ =>
    exact ⟨(b.rests_modifyChild process _).trans (p.rests_conclude _ _), Or.inr ⟨exit, rfl⟩⟩

/-! ## Runs that do not save their output -/

section

variable {p : Plan σ ρ} (b : Bench)

theorem relays_launch (hsaved : p.saved = false) (executable : Path) :
    b.Relays (p.launch b executable).1 ∧ (p.launch b executable).2.saver? = none := by
  rw [launch]
  split
  next => exact ⟨(p.rests_conclude b _).relays, rfl⟩
  next arguments _ =>
    obtain ⟨hstart, hattach⟩ := p.rests_started b executable arguments
    split
    next heq =>
      rw [heq] at hstart
      exact ⟨(hstart.trans (p.rests_conclude _ _)).relays, rfl⟩
    next started process heq =>
      rw [heq] at hattach
      have hheld := hattach process
      have hopen (b : Bench) : p.openSaver b = .ok (none, b) := by
        rw [openSaver, hsaved]
        rfl
      simp only [hopen]
      split
      next => exact ⟨(hheld.trans (p.rests_abandon _ process _)).relays, rfl⟩
      next => exact ⟨hheld.relays, rfl⟩

/-- Without a saver pieces are read and shown, and that is all. -/
theorem relays_readPiece {s : ReadState σ ρ} (h : s.saver = none) (piece : Bytes) :
    s.bench.Relays (p.readPiece s piece).bench ∧ (p.readPiece s piece).saver = none := by
  rw [readPiece]
  split
  next => exact ⟨(Bench.Rests.refl _).relays, h⟩
  next =>
    simp only [h]
    exact ⟨s.bench.relays_relay _, rfl⟩

theorem relays_readOn (process : Nat) (child : Child) (reading : Reading σ ρ) :
    b.Relays (p.readOn b process child reading none).bench ∧
      (p.readOn b process child reading none).saver = none := by
  have hpieces (pieces : List Bytes) (s : ReadState σ ρ) (h : s.saver = none) :
      s.bench.Relays (pieces.foldl p.readPiece s).bench ∧
        (pieces.foldl p.readPiece s).saver = none := by
    induction pieces generalizing s with
    | nil => exact ⟨(Bench.Rests.refl _).relays, h⟩
    | cons piece rest ih =>
        obtain ⟨hpiece, hsaver⟩ := relays_readPiece (p := p) h piece
        exact (ih _ hsaver).imp_left hpiece.trans
  have hread := hpieces (Child.pieces Child.readSize child.unread.length child.unread)
    ⟨b.modifyChild process fun c => { c with unread := [] }, reading, none, none⟩ rfl
  exact hread.imp_left (b.rests_modifyChild process _).relays.trans

theorem relays_read (process : Nat) (reading : Reading σ ρ) :
    b.Relays (p.read b process reading none).1 ∧
      (p.read b process reading none).2.saver? = none := by
  rw [Plan.read]
  split
  next => exact ⟨(Bench.Rests.refl b).relays, rfl⟩
  next child _ =>
    obtain ⟨hread, hsaver⟩ := relays_readOn (p := p) b process child reading
    have habandon {last : Bench} (h : b.Relays last) (failure : Failure) :
        b.Relays (p.abandon last process none failure).1 ∧
          (p.abandon last process none failure).2.saver? = none :=
      ⟨h.trans (p.rests_abandon last process failure).relays, rfl⟩
    simp only [hsaver]
    split
    next failure _ => exact habandon hread failure
    next =>
      split
      next => exact ⟨hread, rfl⟩
      next =>
        have hfinished := hread.trans (Bench.relays_relay _
          ((p.readOn b process child reading none).reading.finish p.decoder child.signaled).2.seen)
        split
        next => exact habandon hfinished _
        next =>
          split
          next => exact habandon hfinished _
          next => exact ⟨hfinished, rfl⟩

/-- Whatever happens to a run that does not save its output, it leaves the files alone. -/
theorem relays_act (hsaved : p.saved = false) {stage : Stage σ ρ} (hsaver : stage.saver? = none)
    (act : Act) : b.Relays (p.act b stage act).1 ∧ (p.act b stage act).2.saver? = none := by
  have hrests : b.Relays b := (Bench.Rests.refl b).relays
  cases act with
  | step =>
      cases stage with
      | locating => exact (p.rests_locate b).imp Bench.Rests.relays Stage.IsEarly.saver?
      | probing process executable =>
          exact (p.rests_learn b process executable).imp Bench.Rests.relays Stage.IsEarly.saver?
      | launching executable => exact relays_launch b hsaved executable
      | reading process reading saver =>
          obtain rfl : saver = none := hsaver
          exact relays_read b process reading
      | exiting process report =>
          obtain ⟨hleave, hnext⟩ := p.rests_leave b process report
          refine ⟨hleave.relays, ?_⟩
          rcases hnext with hwaits | ⟨exit, hended⟩
          · exact congrArg Stage.saver? hwaits
          · exact congrArg Stage.saver? hended
      | ended result => exact ⟨hrests, rfl⟩
  | upset reason =>
      cases stage with
      | reading process reading saver =>
          obtain rfl : saver = none := hsaver
          exact ⟨(p.rests_abandon b process _).relays, rfl⟩
      | _ => exact ⟨hrests, rfl⟩
  | cancel =>
      cases stage with
      | reading process reading saver =>
          obtain rfl : saver = none := hsaver
          exact ⟨(p.rests_abandon b process _).relays, rfl⟩
      | ended result => exact ⟨hrests, rfl⟩
      | _ => exact ⟨(p.rests_conclude b _).relays, rfl⟩

end

end Plan

/-! ## Parses -/

namespace Task

/-- The saver of a task that reads. -/
def saver? (task : Task) : Option Saver :=
  task.ask Stage.saver? none

theorem rests_transpiling (b : Bench) (spec : SpecFiles)
    {stage : Stage Transpiler.State ParseReport} (hsaver : stage.saver? = none) :
    let next := ParseRun.enterTranspiling (b, stage)
    b.Rests next.1 ∧ (parse ⟨spec, next.2⟩).saver? = none := by
  cases stage with
  | ended last =>
      simp only [ParseRun.enterTranspiling]
      cases ParseRun.reportOf .transpiler last with
      | error failure => exact ⟨.refl b, rfl⟩
      | ok report => exact ⟨.refl b, rfl⟩
  | _ => exact ⟨.refl b, hsaver⟩

theorem rests_analyzing (b : Bench) (spec : SpecFiles) (transpiled : ParseReport)
    {stage : Stage Analyzer.Grammar ParseReport} (hsaver : stage.saver? = none) :
    let next := ParseRun.enterAnalyzing transpiled (b, stage)
    b.Rests next.1 ∧ (parse ⟨spec, next.2⟩).saver? = none := by
  cases stage with
  | ended last =>
      simp only [ParseRun.enterAnalyzing]
      cases ParseRun.reportOf .analyzer last with
      | error failure => exact ⟨.refl b, rfl⟩
      | ok report => exact ⟨b.rests_publish _, rfl⟩
  | _ => exact ⟨.refl b, hsaver⟩

/-- Whatever happens to a parse, it leaves the files alone. -/
theorem relays_act (b : Bench) {run : ParseRun} (hsaver : (parse run).saver? = none) (act : Act) :
    b.Relays ((parse run).act b act).1 ∧ ((parse run).act b act).2.saver? = none := by
  obtain ⟨spec, stage⟩ := run
  cases stage with
  | transpiling stage =>
      obtain ⟨hrelays, hnone⟩ :=
        Plan.relays_act (p := ParseRun.transpilerPlan spec) b rfl hsaver act
      rw [act_transpiling]
      exact (rests_transpiling _ spec hnone).imp_left fun hrests => hrelays.trans hrests.relays
  | analyzing transpiled stage =>
      obtain ⟨hrelays, hnone⟩ :=
        Plan.relays_act (p := ParseRun.analyzerPlan spec) b rfl hsaver act
      rw [act_analyzing]
      exact (rests_analyzing _ spec transpiled hnone).imp_left fun hrests =>
        hrelays.trans hrests.relays
  | ended result =>
      have hended : (parse ⟨spec, .ended result⟩).result? ≠ none := fun h => by cases h
      rw [act_of_result? hended]
      exact ⟨(Bench.Rests.refl b).relays, hsaver⟩

end Task

end TlaRunner.Workflow
