import TlaRunner.Proofs.Protocol.Chunking
import TlaRunner.Proofs.Workflow.Orderly
import TlaRunner.Proofs.Workflow.Territory

/-!
# How a run comes to the whole output

A run reads the output of its process piece by piece, until nothing of it is left and no more
can come.  What it has read by then is the whole output, so its report is the one of the whole
output, however it came in pieces (`Plan.Reports`).

`Plan.Hears` says how much of the output a run knows at each stage, where nobody else touches its
process.  Whatever happens to the run keeps it (`Hears.act`), and what happens beside the run does,
too (`Hears.of_beside`).  So a run that ends with a report and an exit has read the whole output,
and its process has ended by itself (`Hears.ended_iff`).
-/

namespace TlaRunner.Workflow

open Files (Saver)
open Supervision (Behavior Child Exit)
open Protocol (Reading)

variable {σ ρ : Type}

/-! ## Starting -/

namespace Bench

/-- A process that was just started has printed all that it prints, and nobody has read it. -/
theorem child?_start {b after : Bench} {behavior : Behavior} {executable : Text}
    {arguments : List Text} {directory : Option Path} {process : Nat}
    (h : b.start behavior executable arguments directory = (after, .ok process)) :
    ∃ program, after.child? process = some (.start program) := by
  cases behavior with
  | refused reason => cases h
  | runs program =>
      obtain ⟨rfl, hprocess⟩ := Prod.mk.inj h
      cases hprocess
      exact ⟨program, by simp [child?]⟩

end Bench

namespace Plan

/-! ## What is read and reported -/

/-- A run has read a part of the output without a fault. -/
def HasRead (p : Plan σ ρ) (part : Bytes) (reading : Reading σ ρ) : Prop :=
  let run := (Reading.start p.session).feedChunk p.decoder (.bytes part)
  run.1 = reading ∧ run.2.fault = none

/-- A run that nobody stops makes a report of a whole output. -/
def Reports (p : Plan σ ρ) (output : Bytes) (report : ρ) : Prop :=
  let run := Reading.consume p.decoder p.session [.bytes output] false
  run.2.fault = none ∧ run.1.report p.decoder = .ok report

variable {p : Plan σ ρ}

theorem hasRead_start (p : Plan σ ρ) : p.HasRead [] (.start p.session) := ⟨rfl, rfl⟩

/-- Reading one more piece. -/
theorem HasRead.piece {part : Bytes} {reading : Reading σ ρ} (h : p.HasRead part reading)
    {piece : Bytes} (hpiece : (reading.feedChunk p.decoder (.bytes piece)).2.fault = none) :
    p.HasRead (part ++ piece) (reading.feedChunk p.decoder (.bytes piece)).1 := by
  obtain ⟨rfl, hfault⟩ := h
  obtain ⟨hreading, hsame⟩ := Reading.feedChunk_append p.decoder hfault piece
  exact ⟨hreading, hsame.trans hpiece⟩

theorem HasRead.readPiece {part : Bytes} {s : ReadState σ ρ}
    (h : s.failure = none → p.HasRead part s.reading) (piece : Bytes)
    (hok : (p.readPiece s piece).failure = none) :
    s.failure = none ∧ p.HasRead (part ++ piece) (p.readPiece s piece).reading := by
  rw [Plan.readPiece] at hok ⊢
  split at hok
  next failure hfailure =>
    rw [hfailure] at hok
    cases hok
  next hfailure =>
    split at hok
    next fault _ => cases hok
    next => exact ⟨hfailure, (h hfailure).piece (Option.map_eq_none_iff.mp hok)⟩

/-- Reading what there is. -/
theorem HasRead.readOn {part : Bytes} {reading : Reading σ ρ} (h : p.HasRead part reading)
    (b : Bench) (process : Nat) (child : Child) (saver : Option Saver)
    (hok : (p.readOn b process child reading saver).failure = none) :
    p.HasRead (part ++ child.unread) (p.readOn b process child reading saver).reading := by
  have hpieces (pieces : List Bytes) (s : ReadState σ ρ) (part : Bytes)
      (hs : s.failure = none → p.HasRead part s.reading) :
      (pieces.foldl p.readPiece s).failure = none →
        p.HasRead (part ++ pieces.flatten) (pieces.foldl p.readPiece s).reading := by
    induction pieces generalizing s part with
    | nil =>
        intro hok
        rw [List.flatten_nil, List.append_nil]
        exact hs hok
    | cons piece rest ih =>
        rw [List.flatten_cons, ← List.append_assoc]
        exact ih _ _ fun hok => (HasRead.readPiece hs piece hok).2
  have hread := hpieces _ _ part (fun _ => h) hok
  rwa [Child.flatten_pieces (by decide) (Nat.le_refl _)] at hread

/-- Where the output has ended, the report is that of the whole output. -/
theorem HasRead.reports {output : Bytes} {reading : Reading σ ρ} (h : p.HasRead output reading)
    (hok : (reading.finish p.decoder false).2.fault = none) {report : ρ}
    (hreport : (reading.finish p.decoder false).1.session.report p.decoder = .ok report) :
    p.Reports output report := by
  obtain ⟨rfl, hfault⟩ := h
  obtain ⟨hsession, hsame⟩ := Reading.consume_of_feedChunk p.decoder hfault false
  exact ⟨hsame.trans hok, by rw [hsession]; exact hreport⟩

/-- The report of a whole output is the one of its lines. -/
theorem Reports.lines {output : Bytes} {report : ρ} (h : p.Reports output report) :
    let run :=
      Reading.readLines p.decoder p.session (Protocol.LineSplitter.linesOf output) false
    run.2.fault = none ∧ run.1.result = some report := by
  have hlines := Reading.consume_bytes p.decoder p.session [output] false
  rw [List.flatten_cons, List.flatten_nil, List.append_nil] at hlines
  obtain ⟨hfault, hreport⟩ := h
  change (Reading.consume p.decoder p.session ([output].map .bytes) false).2.fault = none at hfault
  change (Reading.consume p.decoder p.session ([output].map .bytes) false).1.report p.decoder =
    .ok report at hreport
  rw [hlines] at hfault hreport
  exact ⟨hfault, Protocol.Session.report_eq_ok_iff.mp hreport⟩

/-! ## What a run knows of the output -/

/-- What a run knows of the output of its process, which nobody asked to end. -/
inductive Hears (p : Plan σ ρ) (b : Bench) : Stage σ ρ → Prop
  /-- The run does not read, or has ended. -/
  | rests {stage : Stage σ ρ} (htool : stage.tool? = none) : Hears p b stage
  /-- The run knows what is not left to read. -/
  | reads {process : Nat} {reading : Reading σ ρ} {saver : Option Saver} {c : Child} {part : Bytes}
      (hchild : b.child? process = some c) (hsignaled : c.signaled = false)
      (houtput : c.program.output = some (part ++ c.unread)) (hread : p.HasRead part reading) :
      Hears p b (.reading process reading saver)
  /-- It knows all of it. -/
  | waits {process : Nat} {report : ρ} {c : Child} {output : Bytes}
      (hchild : b.child? process = some c) (hsignaled : c.signaled = false)
      (houtput : c.program.output = some output) (hunread : c.unread = [])
      (hreport : p.Reports output report) : Hears p b (.exiting process report)

variable {b after : Bench} {stage : Stage σ ρ}

/-- What happens beside the run does not matter. -/
theorem Hears.of_beside (h : p.Hears b stage)
    (hbeside : ∀ process c, stage.awaited? = some process → b.child? process = some c →
      ∃ c', after.child? process = some c' ∧ c.Beside c') : p.Hears after stage := by
  cases h with
  | rests htool => exact .rests htool
  | reads hchild hsignaled houtput hread =>
      obtain ⟨c', hchild', hsame⟩ := hbeside _ _ rfl hchild
      refine .reads hchild' (hsame.signaled.trans hsignaled) ?_ hread
      rw [hsame.program, hsame.unread, houtput]
  | waits hchild hsignaled houtput hunread hreport =>
      obtain ⟨c', hchild', hsame⟩ := hbeside _ _ rfl hchild
      exact .waits hchild' (hsame.signaled.trans hsignaled)
        ((congrArg _ hsame.program).trans houtput) (hsame.unread.trans hunread) hreport

/-! ## Stages -/

theorem hears_locate (b : Bench) : p.Hears (p.locate b).1 (p.locate b).2 := by
  rw [locate]
  split
  · exact .rests rfl
  · exact .rests rfl
  · exact .rests rfl

theorem hears_learn (b : Bench) (process : Nat) (executable : Path) :
    p.Hears (p.learn b process executable).1 (p.learn b process executable).2 := by
  rw [learn]
  split
  · exact .rests rfl
  · exact .rests rfl
  · exact .rests rfl

/-- A run without a ticket that starts its tool has all the output before it. -/
theorem hears_launch (hticket : p.ticket = none) (b : Bench) (executable : Path) :
    p.Hears (p.launch b executable).1 (p.launch b executable).2 := by
  rw [launch]
  split
  next => exact .rests rfl
  next arguments _ =>
    split
    next => exact .rests rfl
    next started process hstart =>
      obtain ⟨program, hprogram⟩ := Bench.child?_start hstart
      simp only [hticket, Option.map_none, Option.getD_none]
      split
      next => exact .rests rfl
      next saver opened hopen =>
        obtain ⟨hcalls, _⟩ := (p.openSaver_spec started).1 saver opened hopen
        have hchild : opened.child? process = some (.start program) :=
          (Bench.child?_of_calls hcalls process).trans hprogram
        split
        next => exact .rests rfl
        next hreadable =>
          refine .reads hchild rfl ?_ (hasRead_start p)
          rw [hchild, Option.map_some, Child.readAll] at hreadable
          split at hreadable
          next hsome =>
            obtain ⟨output, houtput⟩ := Option.isSome_iff_exists.mp hsome
            change program.output = some output at houtput
            change program.output = some (program.output.getD [])
            rw [houtput, Option.getD_some]
          next => exact absurd rfl (hreadable _)

/-- A run that reads has read what there was, and all of it when the output has ended. -/
theorem hears_read (process : Nat) (reading : Reading σ ρ) (saver : Option Saver)
    (h : p.Hears b (.reading process reading saver)) :
    p.Hears (p.read b process reading saver).1 (p.read b process reading saver).2 := by
  cases h with
  | rests htool => cases htool
  | @reads _ _ _ c part hchild hsignaled houtput hread =>
      have hall := hread.readOn b process c saver
      have hafter {after : Bench}
          (hcalls : after.calls = (p.readOn b process c reading saver).bench.calls) :
          after.child? process = some { c with unread := [] } := by
        rw [Bench.child?_of_calls
          (hcalls.trans (p.reads_readOn b process c reading saver).calls),
          Bench.child?_modifyChild, if_pos rfl, hchild, Option.map_some]
      rw [Plan.read, hchild]
      simp only
      split
      next => exact .rests rfl
      next hok =>
        have hwhole := hall hok
        split
        next =>
          refine .reads (hafter rfl) hsignaled ?_ hwhole
          rw [List.append_nil]
          exact houtput
        next =>
          split
          next => exact .rests rfl
          next hfinished =>
            split
            next => exact .rests rfl
            next report hreport =>
              rw [hsignaled] at hfinished hreport
              refine .waits (hafter ?_) hsignaled houtput rfl (hwhole.reports hfinished hreport)
              rw [(calls_closeSaver _ _).1, (Bench.calls_relay _ _).1]

theorem hears_leave (process : Nat) (report : ρ) (h : p.Hears b (.exiting process report)) :
    p.Hears (p.leave b process report).1 (p.leave b process report).2 := by
  rw [leave]
  split
  next => exact h
  next => exact .rests rfl

/-- Whatever happens to a run without a ticket, it knows of the output what it should. -/
theorem Hears.act (h : p.Hears b stage) (hticket : p.ticket = none) (act : Act) :
    p.Hears (p.act b stage act).1 (p.act b stage act).2 := by
  cases act with
  | step =>
      cases stage with
      | locating => exact hears_locate b
      | probing process executable => exact hears_learn b process executable
      | launching executable => exact hears_launch hticket b executable
      | reading process reading saver => exact hears_read process reading saver h
      | exiting process report => exact hears_leave process report h
      | ended result => exact .rests rfl
  | upset reason =>
      cases stage with
      | reading process reading saver => exact .rests rfl
      | _ => exact h
  | cancel =>
      cases stage with
      | _ => exact .rests rfl

end Plan

/-! ## Ends -/

/-- An exit is no failure if the run was cancelled or the status is one that a tool reports
with. -/
theorem failure?_eq_none_iff (exit : Exit) (tool : Text) :
    exit.failure? tool = none ↔ exit.cancelled = true ∨ 0 ≤ exit.status ∧ exit.status ≤ 9 := by
  rw [failure?_eq]
  split
  next hfails =>
    obtain ⟨hcancelled, hstatus⟩ := hfails
    rw [hcancelled]
    refine iff_of_false (fun h => by cases h) fun h => ?_
    rcases h with hcancelled | hpasses
    · cases hcancelled
    · omega
  next hpasses =>
    refine iff_of_true rfl ?_
    cases hcancelled : exit.cancelled with
    | true => exact Or.inl rfl
    | false =>
        have hstatus : ¬(exit.status < 0 ∨ 9 < exit.status) := fun h => hpasses ⟨hcancelled, h⟩
        exact Or.inr (by omega)

namespace Plan

variable {p : Plan σ ρ} {b after : Bench} {stage : Stage σ ρ}

/-- A run that has come to a report ends well: its report is that of the whole output, and its
process has ended with a status that is no failure. -/
structure Passes (p : Plan σ ρ) (c : Child) (report : ρ) : Prop where
  /-- The report is that of the output. -/
  reports : ∃ output, c.program.output = some output ∧ p.Reports output report
  /-- Nothing of the output was left. -/
  unread : c.unread = []
  /-- The process has ended, and not with a status of failure. -/
  ended : ∃ status, c.ended = some status ∧ 0 ≤ status ∧ status ≤ 9

/-- A run comes to a report and an exit that is no failure where its process passes, and it takes a
step. -/
theorem Hears.ended_iff (h : p.Hears b stage) (hopen : stage.isEnded = false) (act : Act)
    {report : ρ} (name : Text) :
    (∃ exit, (p.act b stage act).2 = .ended (.ok (report, exit)) ∧ exit.failure? name = none) ↔
      act = .step ∧ ∃ process c, stage = .exiting process report ∧
        b.child? process = some c ∧ p.Passes c report := by
  constructor
  · rintro ⟨exit, hended, hexit⟩
    obtain ⟨rfl, process, waited, rfl, hwait⟩ := (p.ended_ok_iff b hopen act).mp hended
    refine ⟨rfl, process, ?_⟩
    cases h with
    | rests htool => cases htool
    | @waits _ _ c output hchild hsignaled houtput hunread hreport =>
        rw [hchild, Option.bind_some] at hwait
        obtain ⟨status, hstatus, heq⟩ := Option.map_eq_some_iff.mp hwait
        obtain ⟨rfl, rfl⟩ := Prod.mk.inj heq
        refine ⟨c, rfl, hchild, ⟨output, houtput, hreport⟩, hunread, status, hstatus, ?_⟩
        refine ((failure?_eq_none_iff _ name).mp hexit).resolve_left fun hcancelled => ?_
        exact Bool.false_ne_true (hsignaled.symm.trans hcancelled)
  · rintro ⟨rfl, process, c, rfl, hchild, hpasses⟩
    obtain ⟨status, hstatus, hleast, hmost⟩ := hpasses.ended
    refine ⟨c.exit status, (p.ended_ok_iff b hopen .step).mpr
      ⟨rfl, process, { c with known := some status }, rfl, ?_⟩, ?_⟩
    · rw [hchild, Option.bind_some, Child.wait?, hstatus, Option.map_some]
    · exact (failure?_eq_none_iff _ name).mpr (Or.inr ⟨hleast, hmost⟩)

end Plan

end TlaRunner.Workflow
