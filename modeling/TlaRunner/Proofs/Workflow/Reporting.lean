import TlaRunner.Proofs.Report.Replay
import TlaRunner.Proofs.Workflow.Incident

/-!
# How a run comes to its report

While a run reads it has a session, and what holds of the session in the beginning and is
kept by lines that can be read holds as long as the run reads.  So it holds where the output
ends, and there it says something of the report.  A plan `Vouches` for what its reports say in
this way.

A run reports once (`Plan.Tells`): its report is made where the output ends, from whether the
process was interrupted by then; it is kept while the run waits; and the run ends with it, and
with the exit that was waited for.
-/

namespace TlaRunner

/-! ## Sessions of the model checker -/

namespace Checker

open Protocol (Session Gathered)
open Protocol.Reading (feedLines)
open Diagnostic (Collection)

/-- What holds of a session of the model checker until its output ends. -/
structure Promising (s : Session Run CheckReport) : Prop where
  /-- There is no report yet. -/
  unfinished : s.result = none
  /-- The outcome so far goes with the error messages. -/
  consistent : (standing s.gathered).Consistent
  /-- The findings were built up from names and records. -/
  held : ∃ named found, s.gathered.diagnostics.Holds named found

/-- What a report is, given whether the run was stopped before it was made. -/
structure Faithful (report : CheckReport) (stopped : Bool) : Prop where
  /-- It says that the run was stopped if it was. -/
  outcome : report.outcome = .stopped ↔ stopped = true
  /-- Its findings are the mapping of their own collection. -/
  findings : (Collection.ofMapping report.diagnostics).mapping = report.diagnostics

theorem promising_session (spec : Option Text) : Promising (session spec) :=
  ⟨rfl, Standing.consistent_start, _, _, holds_session spec⟩

theorem result_feedLines {s : Session Run CheckReport} {lines : List Text}
    (hrun : (feedLines decoder s lines).2.fault = none)
    (h : s.result = none) (hconsistent : (standing s.gathered).Consistent) :
    (feedLines decoder s lines).1.result = none ∧
      (standing (feedLines decoder s lines).1.gathered).Consistent := by
  induction lines generalizing s with
  | nil => exact ⟨h, hconsistent⟩
  | cons line rest ih =>
      obtain ⟨first, hfirst⟩ := Protocol.Reading.ok_of_feedLines_cons hrun
      obtain ⟨hsession, hfault, _⟩ := Protocol.Reading.feedLines_cons_of_ok rest hfirst
      rw [hsession]
      exact ih (hfault.symm.trans hrun) ((s.result_feed decoder line).trans h)
        (consistent_feed hconsistent line)

/-- Lines that can be read keep what holds of a session. -/
theorem Promising.feedLines {s : Session Run CheckReport} (h : Promising s) {lines : List Text}
    (hrun : (feedLines decoder s lines).2.fault = none) :
    Promising (feedLines decoder s lines).1 := by
  obtain ⟨hresult, hconsistent⟩ := result_feedLines hrun h.unfinished h.consistent
  obtain ⟨m, g, result⟩ := s
  obtain rfl : result = none := h.unfinished
  obtain ⟨named, found, hheld⟩ := h.held
  exact ⟨hresult, hconsistent, _, _, Protocol.holds_of_feedLines announces hheld hrun⟩

/-- The report that is made then is faithful. -/
theorem Promising.close {s : Session Run CheckReport} (h : Promising s) {stopped : Bool}
    {report : CheckReport} (hreport : (s.close decoder stopped).1.result = some report) :
    Faithful report stopped := by
  obtain ⟨settled, _, hresult, _, _, _, hstopped, _⟩ :=
    close_settles h.unfinished h.consistent stopped
  obtain rfl := Option.some.inj (hresult.symm.trans hreport)
  refine ⟨hstopped, ?_⟩
  obtain ⟨m, g, result⟩ := s
  obtain rfl : result = none := h.unfinished
  obtain ⟨named, found, hheld⟩ := h.held
  -- an anomaly that is noted at the end leaves the findings alone
  have hend (noted : Gathered Run) (hnoted : noted.diagnostics = g.diagnostics)
      (hmade : settled = decoder.report (decoder.onEnd noted).1 stopped) :
      (Collection.ofMapping settled.diagnostics).mapping = settled.diagnostics := by
    rw [hmade]
    exact Collection.mapping_ofMapping
      ((announces.onEnd noted).holds (hnoted ▸ hheld)).replays
  cases m with
  | none => exact hend g rfl (Option.some.inj hreport).symm
  | some m =>
      exact hend (g.note .truncated (Session.cutOff m.code)) rfl (Option.some.inj hreport).symm

end Checker

namespace Workflow

open Files (Saver)
open Supervision (Child Exit)
open Protocol (Reading Session)
open Protocol.Reading (feedLines)

variable {σ ρ : Type}

/-! ## Runs that read -/

namespace Plan

/-- The promise of a plan: what holds of its session as long as it reads, and what this says of
the report, given whether the run was stopped before it was made. -/
structure Vouches (p : Plan σ ρ) (P : Session σ ρ → Prop) (R : ρ → Bool → Prop) : Prop where
  /-- It holds in the beginning. -/
  start : P p.session
  /-- Lines that can be read keep it. -/
  feed : ∀ {s lines}, P s → (feedLines p.decoder s lines).2.fault = none →
    P (feedLines p.decoder s lines).1
  /-- The end of the output makes a report of it. -/
  close : ∀ {s stopped report}, P s → (s.close p.decoder stopped).1.result = some report →
    R report stopped

variable {p : Plan σ ρ} {P : Session σ ρ → Prop} {R : ρ → Bool → Prop}

theorem Vouches.readPiece (h : p.Vouches P R) {s : ReadState σ ρ}
    (hs : s.failure = none → P s.reading.session) (piece : Bytes)
    (hok : (p.readPiece s piece).failure = none) : P (p.readPiece s piece).reading.session := by
  rw [Plan.readPiece] at hok ⊢
  split at hok
  next failure hfailure =>
    rw [hfailure] at hok
    cases hok
  next hfailure =>
    split at hok
    next fault _ => cases hok
    next written hwritten =>
      simp only [Reading.feedChunk]
      exact h.feed (hs hfailure) (Option.map_eq_none_iff.mp hok)

theorem Vouches.readOn (h : p.Vouches P R) (b : Bench) (process : Nat) (child : Child)
    {reading : Reading σ ρ} (hreading : P reading.session) (saver : Option Saver)
    (hok : (p.readOn b process child reading saver).failure = none) :
    P (p.readOn b process child reading saver).reading.session := by
  have hpieces (pieces : List Bytes) (s : ReadState σ ρ)
      (hs : s.failure = none → P s.reading.session) :
      (pieces.foldl p.readPiece s).failure = none →
        P (pieces.foldl p.readPiece s).reading.session := by
    induction pieces generalizing s with
    | nil => exact hs
    | cons piece rest ih => exact ih _ (h.readPiece hs piece)
  exact hpieces _ _ (fun _ => hreading) hok

/-- Lines that are read to the end of the output without a fault make a report. -/
theorem Vouches.readLines (h : p.Vouches P R) {s : Session σ ρ} (hs : P s) {lines : List Text}
    {stopped : Bool} {report : ρ}
    (hok : (Reading.readLines p.decoder s lines stopped).2.fault = none)
    (hreport : (Reading.readLines p.decoder s lines stopped).1.result = some report) :
    R report stopped := by
  have hlines : (feedLines p.decoder s lines).2.fault = none := by
    cases hfault : (feedLines p.decoder s lines).2.fault with
    | none => rfl
    | some fault =>
        rw [Reading.readLines, Protocol.Emissions.andThen_of_fault hfault, hfault] at hok
        cases hok
  rw [Reading.readLines, Protocol.Emissions.andThen_of_ok hlines] at hreport
  exact h.close (h.feed hs hlines) hreport

/-- A reading that ends without a fault ends with a report. -/
theorem Vouches.finish (h : p.Vouches P R) {reading : Reading σ ρ} (hreading : P reading.session)
    {stopped : Bool} {report : ρ} (hok : (reading.finish p.decoder stopped).2.fault = none)
    (hreport : (reading.finish p.decoder stopped).1.session.report p.decoder = .ok report) :
    R report stopped := by
  obtain ⟨hsession, hseen⟩ := Prod.ext_iff.mp (reading.finish_eq (d := p.decoder) stopped)
  simp only at hsession hseen
  refine h.readLines hreading (hseen ▸ hok) ?_
  rw [← hsession]
  exact Session.report_eq_ok_iff.mp hreport

/-- So does a whole output. -/
theorem Vouches.consume (h : p.Vouches P R) {chunks : List Protocol.Chunk} {stopped : Bool}
    {report : ρ} (hok : (Reading.consume p.decoder p.session chunks stopped).2.fault = none)
    (hreport : (Reading.consume p.decoder p.session chunks stopped).1.result = some report) :
    R report stopped := by
  rw [Reading.consume_eq] at hok hreport
  exact h.readLines h.start hok hreport

/-! ## Reports -/

/-- What something that happens to a run means for its report. -/
inductive Tells (P : Session σ ρ → Prop) (R : ρ → Bool → Prop) (b : Bench) (stage : Stage σ ρ)
    (after : Bench) : Stage σ ρ → Prop
  /-- The run has not begun to read. -/
  | prepares {next : Stage σ ρ} (hstage : stage.isExiting = false) (htool : next.tool? = none)
      (hnext : next.isEnded = false) : Tells P R b stage after next
  /-- It reads as it should. -/
  | reads {process : Nat} {reading : Reading σ ρ} {saver : Option Saver}
      (hstage : stage.isExiting = false) (hreading : P reading.session) :
      Tells P R b stage after (.reading process reading saver)
  /-- The output has ended. -/
  | closes {process : Nat} {report : ρ} {stopped : Bool} (hstage : stage.isExiting = false)
      (hreport : R report stopped) (hsignaled : after.Signaled process ↔ stopped = true) :
      Tells P R b stage after (.exiting process report)
  /-- The run waits. -/
  | waits {process : Nat} {report : ρ} (hstage : stage = .exiting process report)
      (hsame : after.Signaled process ↔ b.Signaled process) :
      Tells P R b stage after (.exiting process report)
  /-- The process has ended. -/
  | leaves {process : Nat} {report : ρ} {exit : Exit} (hstage : stage = .exiting process report)
      (hexit : exit.cancelled = true ↔ b.Signaled process)
      (hsame : after.Signaled process ↔ b.Signaled process) :
      Tells P R b stage after (.ended (.ok (report, exit)))
  /-- The run has failed. -/
  | fails {failure : Failure} : Tells P R b stage after (.ended (.error failure))

/-- Of the bench only its processes matter. -/
theorem Tells.of_calls {b after last : Bench} {stage next : Stage σ ρ}
    (h : Tells P R b stage after next) (hcalls : last.calls = after.calls) :
    Tells P R b stage last next := by
  have hsame {process : Nat} : last.Signaled process ↔ after.Signaled process :=
    Bench.signaled_of_calls hcalls
  cases h with
  | prepares hstage htool hnext => exact .prepares hstage htool hnext
  | reads hstage hreading => exact .reads hstage hreading
  | closes hstage hreport hsignaled => exact .closes hstage hreport (hsame.trans hsignaled)
  | waits hstage hkept => exact .waits hstage (hsame.trans hkept)
  | leaves hstage hexit hkept => exact .leaves hstage hexit (hsame.trans hkept)
  | fails => exact .fails

theorem tells_locate (b : Bench) :
    Tells P R b .locating (p.locate b).1 (p.locate b).2 := by
  rw [locate]
  split
  · exact .prepares rfl rfl rfl
  · exact .prepares rfl rfl rfl
  · exact .fails

theorem tells_learn (b : Bench) (process : Nat) (executable : Path) :
    Tells P R b (.probing process executable) (p.learn b process executable).1
      (p.learn b process executable).2 := by
  rw [learn]
  split
  · exact .prepares rfl rfl rfl
  · exact .fails
  · exact .prepares rfl rfl rfl

theorem Vouches.tells_launch (h : p.Vouches P R) (b : Bench) (executable : Path) :
    Tells P R b (.launching executable) (p.launch b executable).1 (p.launch b executable).2 := by
  rw [launch]
  split
  · exact .fails
  · split
    · exact .fails
    · simp only
      split
      · exact .fails
      · split
        · exact .fails
        · exact .reads rfl h.start

/-- Whether a process was interrupted does not change while what it wrote is read. -/
theorem signaled_readOn (p : Plan σ ρ) {b : Bench} {process : Nat} {child : Child}
    (hchild : b.child? process = some child) (reading : Reading σ ρ) (saver : Option Saver)
    {after : Bench} (hcalls : after.calls = (p.readOn b process child reading saver).bench.calls) :
    after.Signaled process ↔ child.signaled = true := by
  have hread := p.reads_readOn b process child reading saver
  have hafter : after.child? process = some { child with unread := [] } := by
    rw [Bench.child?_of_calls (hcalls.trans hread.calls), Bench.child?_modifyChild, if_pos rfl,
      hchild, Option.map_some]
  rw [Bench.Signaled, hafter]
  simp

theorem Vouches.tells_read (h : p.Vouches P R) (b : Bench) (process : Nat)
    {reading : Reading σ ρ} (hreading : P reading.session) (saver : Option Saver) :
    Tells P R b (.reading process reading saver) (p.read b process reading saver).1
      (p.read b process reading saver).2 := by
  rw [Plan.read]
  split
  next => exact .reads rfl hreading
  next child hchild =>
    simp only
    split
    next => exact .fails
    next hok =>
      have hread := h.readOn b process child hreading saver hok
      split
      next => exact .reads rfl hread
      next =>
        split
        next => exact .fails
        next hfinished =>
          split
          next => exact .fails
          next report hreport =>
            refine .closes rfl (h.finish hread hfinished hreport) ?_
            refine p.signaled_readOn hchild reading saver ?_
            rw [(calls_closeSaver _ _).1, (Bench.calls_relay _ _).1]

theorem tells_leave (b : Bench) (process : Nat) (report : ρ) :
    Tells P R b (.exiting process report) (p.leave b process report).1
      (p.leave b process report).2 := by
  rw [leave]
  split
  next => exact .waits rfl .rfl
  next exit waited hwait =>
    obtain ⟨child, hchild, hwaited⟩ := Option.bind_eq_some_iff.mp hwait
    obtain ⟨status, _, heq⟩ := Option.map_eq_some_iff.mp hwaited
    obtain ⟨rfl, rfl⟩ := Prod.mk.inj heq
    have hbefore : b.Signaled process ↔ child.signaled = true := by
      rw [Bench.Signaled, hchild]
      simp
    refine .leaves rfl hbefore.symm ?_
    rw [Bench.signaled_of_calls (p.calls_conclude _ _).1, hbefore, Bench.Signaled,
      Bench.child?_modifyChild, if_pos rfl, hchild, Option.map_some]
    simp

/-- Whatever happens to a run that reads as it should, its report is made in this way. -/
theorem Vouches.tells_act (h : p.Vouches P R) (b : Bench) (stage : Stage σ ρ)
    (hreading : ∀ process reading saver, stage = .reading process reading saver →
      P reading.session) (hstage : stage.isEnded = false) (act : Act) :
    Tells P R b stage (p.act b stage act).1 (p.act b stage act).2 := by
  cases act with
  | step =>
      cases stage with
      | locating => exact tells_locate b
      | probing process executable => exact tells_learn b process executable
      | launching executable => exact h.tells_launch b executable
      | reading process reading saver =>
          exact h.tells_read b process (hreading process reading saver rfl) saver
      | exiting process report => exact tells_leave b process report
      | ended result => cases hstage
  | upset reason =>
      cases stage with
      | reading process reading saver => exact .fails
      | exiting process report => exact .waits rfl .rfl
      | ended result => cases hstage
      | _ => exact .prepares rfl rfl rfl
  | cancel =>
      cases stage with
      | ended result => cases hstage
      | _ => exact .fails

end Plan

/-! ## Interrupts behind the end of the output -/

namespace Stage

variable {P : Session σ ρ → Prop} {R : ρ → Bool → Prop}

/-- Whether the process that a run waits for was interrupted between two benches. -/
def Overtaken (stage : Stage σ ρ) (b after : Bench) : Prop :=
  ∃ process report, stage = .exiting process report ∧ ¬b.Signaled process ∧ after.Signaled process

theorem not_overtaken {stage : Stage σ ρ} (h : stage.isExiting = false) (b after : Bench) :
    ¬stage.Overtaken b after := by
  rintro ⟨process, report, rfl, _⟩
  cases h

theorem overtaken_exiting {process : Nat} {report : ρ} {b after : Bench} :
    (exiting process report : Stage σ ρ).Overtaken b after ↔
      ¬b.Signaled process ∧ after.Signaled process := by
  constructor
  · rintro ⟨other, made, heq, h⟩
    cases heq
    exact h
  · exact fun h => ⟨process, report, rfl, h⟩

theorem not_overtaken_of_same {process : Nat} {report : ρ} {b after : Bench}
    (h : after.Signaled process ↔ b.Signaled process) :
    ¬(exiting process report : Stage σ ρ).Overtaken b after := by
  rw [overtaken_exiting, h]
  exact fun hboth => hboth.1 hboth.2

/-- What a run has told by the stage that it is in, where its process was interrupted behind the
end of the output or was not. -/
inductive Told (P : Session σ ρ → Prop) (R : ρ → Bool → Prop) (b : Bench) (late : Prop) :
    Stage σ ρ → Prop
  /-- It has not begun to read. -/
  | prepares {stage : Stage σ ρ} (htool : stage.tool? = none) (hopen : stage.isEnded = false)
      (hlate : ¬late) : Told P R b late stage
  /-- It reads as it should. -/
  | reads {process : Nat} {reading : Reading σ ρ} {saver : Option Saver}
      (hreading : P reading.session) (hlate : ¬late) :
      Told P R b late (.reading process reading saver)
  /-- It has a report, and was interrupted before or behind it. -/
  | waits {process : Nat} {report : ρ} {stopped : Bool} (hreport : R report stopped)
      (hsignaled : b.Signaled process ↔ stopped = true ∨ late) (hearly : stopped = true → ¬late) :
      Told P R b late (.exiting process report)
  /-- It has a report and an exit. -/
  | leaves {report : ρ} {exit : Exit} {stopped : Bool} (hreport : R report stopped)
      (hcancelled : exit.cancelled = true ↔ stopped = true ∨ late)
      (hearly : stopped = true → ¬late) : Told P R b late (.ended (.ok (report, exit)))
  /-- It has failed. -/
  | fails {failure : Failure} : Told P R b late (.ended (.error failure))

variable {b after : Bench} {late : Prop} {stage : Stage σ ρ}

/-- Nothing comes late while the output goes on. -/
theorem Told.not_late (h : Told P R b late stage) (hstage : stage.isExiting = false)
    (hopen : stage.isEnded = false) : ¬late := by
  cases h with
  | prepares _ _ hlate => exact hlate
  | reads _ hlate => exact hlate
  | waits => cases hstage
  | leaves => cases hopen
  | fails => cases hopen

theorem Told.promise {process : Nat} {reading : Reading σ ρ} {saver : Option Saver}
    (h : Told P R b late (.reading process reading saver)) : P reading.session := by
  cases h with
  | prepares htool => cases htool
  | reads hreading => exact hreading

/-- Whether the exit says that the run was stopped, and whether the report was made for a run that
was. -/
theorem Told.cancelled_iff {report : ρ} {exit : Exit}
    (h : Told P R b late (.ended (.ok (report, exit)) : Stage σ ρ)) :
    ∃ stopped, R report stopped ∧ (exit.cancelled = true ↔ stopped = true ∨ late) ∧
      (stopped = true → ¬late) := by
  cases h with
  | prepares _ hopen => cases hopen
  | leaves hreport hcancelled hearly => exact ⟨_, hreport, hcancelled, hearly⟩

/-- What happens beside a run may interrupt its process. -/
theorem Told.beside (h : Told P R b late stage) (hbecomes : b.Becomes after) :
    Told P R after (late ∨ stage.Overtaken b after) stage := by
  cases h with
  | prepares htool hopen hlate =>
      refine .prepares htool hopen (not_or.mpr ⟨hlate, not_overtaken ?_ b after⟩)
      cases stage with
      | exiting process report => cases htool
      | _ => rfl
  | reads hreading hlate => exact .reads hreading (not_or.mpr ⟨hlate, not_overtaken rfl b after⟩)
  | waits hreport hsignaled hearly =>
      refine .waits hreport ?_ fun hstopped => not_or.mpr ⟨hearly hstopped, fun hover => ?_⟩
      · rw [overtaken_exiting, ← or_assoc, ← hsignaled]
        constructor
        · intro hafter
          exact or_iff_not_imp_left.mpr fun hbefore => ⟨hbefore, hafter⟩
        · rintro (hbefore | ⟨_, hafter⟩)
          · exact hbecomes.signaled hbefore
          · exact hafter
      · exact (overtaken_exiting.mp hover).1 (hsignaled.mpr (Or.inl hstopped))
  | @leaves report exit stopped hreport hcancelled hearly =>
      have hnot : ¬Stage.Overtaken (σ := σ) (.ended (.ok (report, exit))) b after :=
        not_overtaken rfl b after
      refine .leaves hreport ?_ fun hstopped => not_or.mpr ⟨hearly hstopped, hnot⟩
      rw [or_iff_left hnot]
      exact hcancelled
  | fails => exact .fails

/-- What happens to a run makes its report. -/
theorem Told.act {next : Stage σ ρ} (h : Told P R b late stage) (hopen : stage.isEnded = false)
    (htells : Plan.Tells P R b stage after next) :
    Told P R after (late ∨ stage.Overtaken b after) next := by
  have hnot (hstage : stage.isExiting = false) : ¬(late ∨ stage.Overtaken b after) :=
    not_or.mpr ⟨h.not_late hstage hopen, not_overtaken hstage b after⟩
  cases htells with
  | prepares hstage htool hnext => exact .prepares htool hnext (hnot hstage)
  | reads hstage hreading => exact .reads hreading (hnot hstage)
  | closes hstage hreport hsignaled =>
      refine .waits hreport ?_ fun _ => hnot hstage
      rw [or_iff_left (hnot hstage)]
      exact hsignaled
  | @waits process report hstage hsame =>
      subst hstage
      have hover : ¬(exiting process report : Stage σ ρ).Overtaken b after :=
        not_overtaken_of_same hsame
      cases h with
      | prepares htool => cases htool
      | waits hreport hsignaled hearly =>
          refine .waits hreport ?_ fun hstopped => not_or.mpr ⟨hearly hstopped, hover⟩
          rw [hsame, hsignaled, or_iff_left hover]
  | @leaves process report exit hstage hexit hsame =>
      subst hstage
      have hover : ¬(exiting process report : Stage σ ρ).Overtaken b after :=
        not_overtaken_of_same hsame
      cases h with
      | prepares htool => cases htool
      | waits hreport hsignaled hearly =>
          refine .leaves hreport ?_ fun hstopped => not_or.mpr ⟨hearly hstopped, hover⟩
          rw [hexit, hsignaled, or_iff_left hover]
  | fails => exact .fails

end Stage

/-! ## Checks -/

/-- How a run has ended, once it has. -/
def Stage.last? : Stage σ ρ → Option (Except Failure (ρ × Exit))
  | ended last => some last
  | _ => none

theorem Stage.isEnded_of_last? {stage : Stage σ ρ} (h : stage.last? = none) :
    stage.isEnded = false := by
  cases stage with
  | ended last => cases h
  | _ => rfl

namespace CheckRun

open Checker (Promising Faithful)

/-- What a check makes of the end of its run. -/
def verdict : Except Failure (CheckReport × Exit) → Except Failure CheckReport
  | .error failure => .error failure
  | .ok (report, exit) =>
    match exit.failure? Checker.tool.displayName with
    | some failure => .error (.tool failure)
    | none => .ok report

/-- A check returns a report where its run has ended with it. -/
theorem stage_of_verdict {c : CheckRun} {last : Except Failure (CheckReport × Exit)}
    {report : CheckReport} (hlast : c.stage.last? = some last)
    (hverdict : verdict last = .ok report) : ∃ exit, c.stage = .ended (.ok (report, exit)) := by
  cases hstage : c.stage with
  | ended result =>
      rw [hstage] at hlast
      obtain rfl := Option.some.inj hlast
      cases result with
      | error failure => cases hverdict
      | ok made =>
          simp only [verdict] at hverdict
          split at hverdict
          next => cases hverdict
          next =>
            obtain rfl := Except.ok.inj hverdict
            exact ⟨made.2, rfl⟩
  | _ => rw [hstage] at hlast; cases hlast

theorem vouches (c : CheckRun) : c.plan.Vouches Promising Faithful :=
  ⟨Checker.promising_session _, fun h hrun => h.feedLines hrun, fun h hreport => h.close hreport⟩

/-- A check that has ended has the verdict on the end of its run. -/
theorem result_enter {c : CheckRun} (h : c.result = none) (b : Bench)
    (stage : Stage Checker.Run CheckReport) :
    (c.enter (b, stage)).2.result = stage.last?.map verdict := by
  cases stage with
  | ended last =>
      cases last with
      | error failure => rfl
      | ok last => rfl
  | _ => exact h

/-- What a check has told, where its process was interrupted behind the end of the output or was
not. -/
structure Told (c : CheckRun) (b : Bench) (late : Prop) : Prop where
  /-- It has the verdict on the end of its run. -/
  result : c.result = c.stage.last?.map verdict
  /-- Its run has told what it should. -/
  stage : c.stage.Told Promising Faithful b late

theorem Told.isEnded {c : CheckRun} {b : Bench} {late : Prop} (h : c.Told b late)
    (hresult : c.result = none) : c.stage.isEnded = false :=
  Stage.isEnded_of_last? (Option.map_eq_none_iff.mp (h.result.symm.trans hresult))

theorem Told.act {c : CheckRun} {b : Bench} {late : Prop} (h : c.Told b late)
    (hresult : c.result = none) (act : Act) :
    (c.act b act).2.Told (c.act b act).1 (late ∨ c.stage.Overtaken b (c.act b act).1) := by
  have hopen := h.isEnded hresult
  have htells := c.vouches.tells_act b c.stage
    (fun process reading saver hstage => (hstage ▸ h.stage).promise) hopen act
  obtain ⟨hcalls, _, _, hnext, _⟩ :=
    enter_spec hresult (c.plan.act b c.stage act).1 (c.plan.act b c.stage act).2
  rw [act_eq b hresult]
  refine ⟨?_, ?_⟩
  · rw [hnext]
    exact result_enter hresult _ _
  · rw [hnext]
    exact h.stage.act hopen (htells.of_calls hcalls)

end CheckRun

/-! ## Floors -/

namespace Floor

open Files (Host)
open Supervision (Behavior)

/-- Whether an incident interrupts the process of a check that waits for it to end. -/
def Overtakes (f : Floor) (number : Nat) (i : Incident) : Prop :=
  ∃ run, f.tasks[number]? = some (.check run) ∧ run.stage.Overtaken f.bench (f.meet i).bench

/-- What the checks of a floor have told, where those of some numbers were interrupted behind the
end of their output. -/
structure Told (f : Floor) (late : Nat → Prop) : Prop where
  /-- Every check has told what it should. -/
  checks : ∀ (number : Nat) (run : CheckRun), f.tasks[number]? = some (.check run) →
    run.Told f.bench (late number)
  /-- Nothing happened to a check that was not begun. -/
  absent : ∀ number, f.tasks[number]? = none → ¬late number

theorem told_empty (b : Bench) : (empty b).Told fun _ => False :=
  ⟨fun _ _ htask => (by cases htask), fun _ _ h => h⟩

/-- Whatever happens, checks tell what they should. -/
theorem Told.meet {f : Floor} {late : Nat → Prop} (h : f.Told late) (hkept : f.Kept)
    (i : Incident) : (f.meet i).Told fun number => late number ∨ f.Overtakes number i := by
  have hnone {number : Nat} (htask : f.tasks[number]? = none) :
      ¬(late number ∨ f.Overtakes number i) := by
    rintro (hlate | ⟨run, hrun, _⟩)
    · exact h.absent number htask hlate
    · rw [htask] at hrun
      cases hrun
  have hover {number : Nat} {run : CheckRun} (hrun : f.tasks[number]? = some (.check run)) :
      f.Overtakes number i ↔ run.stage.Overtaken f.bench (f.meet i).bench := by
    constructor
    · rintro ⟨other, hother, hover⟩
      rw [hrun] at hother
      rwa [Task.check.inj (Option.some.inj hother)]
    · exact fun hover => ⟨run, hrun, hover⟩
  refine ⟨fun number run hafter => ?_, fun number hafter => hnone (List.getElem?_eq_none_iff.mpr
    ((f.length_meet i).trans (List.getElem?_eq_none_iff.mp hafter)))⟩
  rcases task_of_meet hafter with hrun | ⟨act, before, _, hbefore, hopen, hbench, htask⟩ |
    ⟨habsent, hnew⟩
  · have hrunTold := h.checks number run hrun
    rw [hover hrun]
    exact ⟨hrunTold.result, hrunTold.stage.beside (hkept.becomes_meet i)⟩
  · obtain ⟨c, rfl, rfl⟩ := Task.check_of_act htask
    rw [hover hbefore, hbench, Task.act_check]
    exact (h.checks number c hbefore).act (Option.map_eq_none_iff.mp hopen) act
  · rcases hnew with ⟨hstage, hresult⟩ | ⟨error, hstage, hresult⟩
    · refine ⟨by rw [hstage, hresult]; rfl, ?_⟩
      rw [hstage]
      exact .prepares rfl rfl (hnone habsent)
    · refine ⟨by rw [hstage, hresult]; rfl, ?_⟩
      rw [hstage]
      exact .fails

theorem told_of_pass {f : Floor} (hkept : f.Kept) (h : ∃ late, f.Told late)
    (incidents : List Incident) : ∃ late, (f.pass incidents).Told late := by
  induction incidents generalizing f with
  | nil => exact h
  | cons i rest ih =>
      obtain ⟨late, htold⟩ := h
      exact ih (kept_meet hkept i) ⟨_, htold.meet hkept i⟩

end Floor

end Workflow

end TlaRunner
