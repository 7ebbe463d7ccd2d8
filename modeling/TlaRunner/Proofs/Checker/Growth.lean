import TlaRunner.Proofs.Checker.Tally
import TlaRunner.Proofs.Report.Replay

/-!
# Reports that only grow

The model checker's decoder tells a report behind every message and one at the end.  Of two
of them the later one has all that the earlier one has in its lists, in front
(`CheckReport.Grows`), whatever came between.

`grows_carry` says it of one delivery, by the role of a message, and `Grown` strings the
reports of a run together.  Which line tells a report is settled by the protocol alone
(`Dispatches`): an end marker of the code of the open message.
-/

namespace TlaRunner

open Protocol (Event)

/-- Whether one report has the lists of another in front of its own. -/
structure CheckReport.Grows (r later : CheckReport) : Prop where
  /-- The counters of progress messages. -/
  initialStats : r.initialStats <+: later.initialStats
  /-- The coverage counters. -/
  coverage : r.coverage <+: later.coverage
  /-- The error messages. -/
  errors : r.errors <+: later.errors
  /-- The error trace. -/
  errorTrace : r.errorTrace <+: later.errorTrace
  /-- The warnings. -/
  warnings : r.warnings <+: later.warnings
  /-- The findings, file by file. -/
  diagnostics : r.diagnostics.Grows later.diagnostics
  /-- The stream anomalies. -/
  conditions : r.conditions <+: later.conditions

theorem CheckReport.Grows.refl (r : CheckReport) : r.Grows r :=
  ⟨List.prefix_rfl, List.prefix_rfl, List.prefix_rfl, List.prefix_rfl, List.prefix_rfl, .refl _,
    List.prefix_rfl⟩

theorem CheckReport.Grows.trans {r middle later : CheckReport} (hfirst : r.Grows middle)
    (hlast : middle.Grows later) : r.Grows later :=
  ⟨hfirst.initialStats.trans hlast.initialStats, hfirst.coverage.trans hlast.coverage,
    hfirst.errors.trans hlast.errors, hfirst.errorTrace.trans hlast.errorTrace,
    hfirst.warnings.trans hlast.warnings, hfirst.diagnostics.trans hlast.diagnostics,
    hfirst.conditions.trans hlast.conditions⟩

/-- The model checker's report that an event tells. -/
def Protocol.Event.checkReport? : Event → Option CheckReport
  | .diagnostic .. => none
  | .progress _ _ snapshot => snapshot
  | .report _ (.check r) => some r
  | .report _ (.parse _) => none

namespace Checker

open Protocol (Gathered Message Delivery Session Item Sign)
open Protocol.Reading (feedLines readLines)

/-! ## What is gathered grows -/

theorem grows_addRecord (g : Gathered Run) (r : Diagnostic.Record) :
    g.diagnostics.mapping.Grows (g.addRecord tool r).1.diagnostics.mapping := by
  rw [Gathered.addRecord, Diagnostic.Collection.add]
  cases g.diagnostics.knows r with
  | true => exact .refl _
  | false => exact Diagnostic.Mapping.grows_append _ _ _

theorem grows_addRecords (g : Gathered Run) (rs : List Diagnostic.Record) :
    g.diagnostics.mapping.Grows (g.addRecords tool rs).1.diagnostics.mapping := by
  induction rs generalizing g with
  | nil => exact .refl _
  | cons r rs ih => exact (grows_addRecord g r).trans (ih _)

/-- Where only findings are added, the report grows with them. -/
theorem grows_of_soFar {g after : Gathered Run} (hsoFar : after.grammar.soFar = g.grammar.soFar)
    (hdiagnostics : g.diagnostics.mapping.Grows after.diagnostics.mapping)
    (hconditions : after.conditions = g.conditions) : (snapshot g).Grows (snapshot after) := by
  simp only [snapshot, hsoFar, hconditions]
  exact ⟨List.prefix_rfl, List.prefix_rfl, List.prefix_rfl, List.prefix_rfl, List.prefix_rfl,
    hdiagnostics, List.prefix_rfl⟩

/-- Where only lists of the report are added to, it grows with them. -/
theorem grows_update (g : Gathered Run) {f : CheckReport → CheckReport}
    (hinitialStats : g.grammar.soFar.initialStats <+: (f g.grammar.soFar).initialStats)
    (hcoverage : g.grammar.soFar.coverage <+: (f g.grammar.soFar).coverage)
    (herrors : g.grammar.soFar.errors <+: (f g.grammar.soFar).errors)
    (herrorTrace : g.grammar.soFar.errorTrace <+: (f g.grammar.soFar).errorTrace)
    (hwarnings : g.grammar.soFar.warnings <+: (f g.grammar.soFar).warnings) :
    (snapshot g).Grows (snapshot (update g f)) :=
  ⟨hinitialStats, hcoverage, herrors, herrorTrace, hwarnings, .refl _, List.prefix_rfl⟩

theorem grows_setPhase (g : Gathered Run) (phase : Phase) :
    (snapshot g).Grows (snapshot (update g fun r => { r with phase })) :=
  grows_update g List.prefix_rfl List.prefix_rfl List.prefix_rfl List.prefix_rfl List.prefix_rfl

theorem grows_apply (g : Gathered Run) (result : Analyzer.LineResult) :
    (snapshot g).Grows (snapshot (apply g result).1) := by
  refine grows_of_soFar (soFar_apply g result) ?_ (gains_apply g result).conditions
  rw [apply]
  split
  next file _ =>
    exact (Diagnostic.Mapping.grows_enter _ file).trans (grows_addRecords (g.addFile file) _)
  next => exact grows_addRecords g _

theorem grows_flushAnalyzer (g : Gathered Run) :
    (snapshot g).Grows (snapshot (flushAnalyzer g).1) := by
  rw [flushAnalyzer]
  split
  next => exact .refl _
  next grammar _ => exact grows_apply (setAnalyzer g (some grammar.flush.2)) _

theorem grows_onLine (g : Gathered Run) (line : Text) :
    (snapshot g).Grows (snapshot (onLine g line).gathered) := by
  rw [onLine]
  split
  next => exact .refl _
  next grammar _ =>
    simp only
    split
    next => exact .refl _
    next result _ => exact grows_apply (setAnalyzer g (some (grammar.feed line).1)) result

theorem grows_reportAt (g : Gathered Run) (text : Text) (ds : List LocationDigits) :
    (snapshot g).Grows (snapshot (reportAt g text ds).gathered) := by
  induction ds generalizing g with
  | nil => exact .refl _
  | cons d rest ih =>
      rw [reportAt]
      split
      next => exact .refl _
      next file range _ =>
        have hhere : (snapshot g).Grows
            (snapshot (g.addRecord tool ⟨file, range, .error, text⟩).1) :=
          grows_of_soFar rfl (grows_addRecord g _) rfl
        exact hhere.trans (ih _)

/-- An error is entered before its places are looked up. -/
theorem grows_onError (g : Gathered Run) (m : Message) :
    (snapshot g).Grows (snapshot (onError (markToolBug g m) m).gathered) := by
  have hbug : snapshot (markToolBug g m) = snapshot g := by
    rw [markToolBug]
    split
    · rfl
    · rfl
  rw [← hbug, onError]
  refine CheckReport.Grows.trans ?_ (grows_reportAt _ _ _)
  exact grows_update _ List.prefix_rfl List.prefix_rfl (List.prefix_append _ _) List.prefix_rfl
    List.prefix_rfl

theorem grows_onTraceState (g : Gathered Run) (m : Message) :
    (snapshot g).Grows (snapshot (onTraceState g m).1) := by
  rw [onTraceState.eq_def]
  split
  next => exact .refl _
  next first rest _ =>
    split
    next => exact .refl _
    next number title _ =>
      split
      next => exact .refl _
      next =>
        exact grows_update g List.prefix_rfl List.prefix_rfl List.prefix_rfl
          (List.prefix_append _ _) List.prefix_rfl

theorem Counts.grows {g after : Gathered Run} (h : Counts g after) :
    (snapshot g).Grows (snapshot after) := by
  obtain ⟨herrors, hwarnings, herrorTrace⟩ := Tally.mk.inj h.tally
  simp only [snapshot, herrors, hwarnings, herrorTrace, h.diagnostics, h.conditions]
  exact ⟨h.initialStats, h.coverage, List.prefix_rfl, List.prefix_rfl, List.prefix_rfl, .refl _,
    List.prefix_rfl⟩

/-- Whatever a message is, nothing is taken out. -/
theorem grows_dispatch (g : Gathered Run) (m : Message) :
    (snapshot g).Grows (snapshot (dispatch g m).gathered) := by
  rw [dispatch_eq]
  cases roleOf m with
  | analyzerStart => exact grows_setPhase g .parsing
  | analyzerEnd =>
      exact (grows_flushAnalyzer g).trans (grows_setPhase (setAnalyzer (flushAnalyzer g).1 none) _)
  | failure => exact grows_onError g m
  | warning =>
      exact grows_update g List.prefix_rfl List.prefix_rfl List.prefix_rfl List.prefix_rfl
        (List.prefix_append _ _)
  | traceState => exact grows_onTraceState g m
  | status topic => exact (counts_onStatus g topic m.text).grows

theorem grows_carry (g : Gathered Run) (x : Delivery) :
    (snapshot g).Grows (snapshot (x.carry decoder g).gathered) := by
  cases x with
  | item i =>
      cases i with
      | line line => exact grows_onLine g line
      | message m => exact grows_dispatch g m
  | condition c =>
      exact ⟨List.prefix_rfl, List.prefix_rfl, List.prefix_rfl, List.prefix_rfl, List.prefix_rfl,
        .refl _, List.prefix_append _ _⟩

theorem grows_feed (s : Session Run CheckReport) (line : Text) :
    (snapshot s.gathered).Grows (snapshot (s.feed decoder line).1.gathered) := by
  obtain ⟨x, hgathered, _⟩ := s.feed_delivers decoder line
  rw [hgathered]
  cases x with
  | none => exact .refl _
  | some x =>
      rw [Option.toList_some, Protocol.deliver_singleton]
      exact grows_carry s.gathered x

/-! ## What a line tells -/

/-- Whether a line ends the open message, which is then read. -/
def Dispatches (s : Session Run CheckReport) (line : Text) : Prop :=
  ∃ m, s.message = some m ∧ Protocol.signOf? line = some (.stop m.code)

/-- No other line hands on a message. -/
theorem message?_advance {s : Session Run CheckReport} {line : Text} (h : ¬Dispatches s line) :
    ∀ x ∈ (Protocol.advance s.message line).2, message? x = none := by
  intro x hx
  cases hsign : Protocol.signOf? line with
  | none =>
      simp only [Protocol.advance, hsign] at hx
      cases hmessage : s.message with
      | none =>
          rw [hmessage] at hx
          cases hx
          rfl
      | some m =>
          rw [hmessage] at hx
          cases hx
  | some sign =>
      cases sign with
      | start code subCode =>
          simp only [Protocol.advance, hsign] at hx
          obtain ⟨m, _, rfl⟩ := Option.map_eq_some_iff.mp hx
          rfl
      | stop code =>
          simp only [Protocol.advance, hsign] at hx
          obtain ⟨m, hmessage, rfl⟩ := Option.map_eq_some_iff.mp hx
          have hcode : m.code ≠ code := fun hcode => h ⟨m, hmessage, hcode ▸ hsign⟩
          rw [Protocol.OpenMessage.closedBy, if_neg hcode]
          rfl

/-- What is no message tells of findings. -/
theorem findings_carry {g : Gathered Run} {x : Delivery} {events : List Event}
    (hx : message? x = none) (h : (x.carry decoder g).events = .ok events) :
    ∀ e ∈ events, e.IsFinding := by
  cases x with
  | item i =>
      cases i with
      | line line => exact findings_onLine h
      | message m => cases hx
  | condition c =>
      cases h
      exact fun e he => absurd he List.not_mem_nil

/-- A line that ends a message tells of findings and then of the report behind it. -/
theorem told_of_dispatches {s : Session Run CheckReport} {line : Text} {events : List Event}
    (hline : Dispatches s line) (h : (s.feed decoder line).2.events = .ok events) :
    ∃ told detail, events = told ++
        [.progress tool detail (some (snapshot (s.feed decoder line).1.gathered))] ∧
      ∀ e ∈ told, e.IsFinding := by
  obtain ⟨m, hmessage, hsign⟩ := hline
  obtain ⟨hgathered, hevents⟩ := Session.feed_of_ok decoder h
  have hadvance : (Protocol.advance s.message line).2 =
      some (.item (.message ⟨m.code, m.subCode, m.lines⟩)) := by
    simp only [Protocol.advance, hmessage, hsign, Option.map_some, Protocol.OpenMessage.closedBy,
      if_true]
  rw [hadvance, Option.toList_some, Protocol.deliver_singleton] at hgathered hevents
  obtain ⟨told, htold, rfl⟩ := map_eq_ok_iff.mp hevents
  rw [hgathered]
  exact ⟨told, _, rfl, findings_dispatch htold⟩

/-- Any other line tells of findings alone. -/
theorem findings_of_not_dispatches {s : Session Run CheckReport} {line : Text}
    {events : List Event} (hline : ¬Dispatches s line)
    (h : (s.feed decoder line).2.events = .ok events) : ∀ e ∈ events, e.IsFinding := by
  obtain ⟨_, hevents⟩ := Session.feed_of_ok decoder h
  have hnone := message?_advance hline
  cases hx : (Protocol.advance s.message line).2 with
  | none =>
      rw [hx] at hevents
      cases hevents
      exact fun e he => absurd he List.not_mem_nil
  | some x =>
      rw [hx, Option.toList_some, Protocol.deliver_singleton] at hevents
      exact findings_carry (hnone x hx) hevents

/-- The end of the output tells of findings and then of the last report. -/
theorem told_of_close {s : Session Run CheckReport} (hopen : s.result = none) (stopped : Bool) :
    ∃ told result, (s.close decoder stopped).2 = .ok (told ++ [.report tool (.check result)]) ∧
      (s.close decoder stopped).1.result = some result ∧ (∀ e ∈ told, e.IsFinding) ∧
      (snapshot s.gathered).Grows result := by
  -- The output may have ended in a message, which is an anomaly.
  have hnoted : ∃ g, (snapshot s.gathered).Grows (snapshot g) ∧ s.close decoder stopped =
      (⟨none, (flushAnalyzer g).1, some (decoder.report (flushAnalyzer g).1 stopped)⟩,
        .ok ((flushAnalyzer g).2 ++
          [.report tool (.check (decoder.report (flushAnalyzer g).1 stopped))])) := by
    cases hmessage : s.message with
    | none =>
        refine ⟨s.gathered, .refl _, ?_⟩
        simp only [Session.close, hopen, hmessage]
        rfl
    | some m =>
        refine ⟨s.gathered.note .truncated (Session.cutOff m.code),
          grows_carry s.gathered (.condition ⟨.truncated, Session.cutOff m.code⟩), ?_⟩
        simp only [Session.close, hopen, hmessage]
        rfl
  obtain ⟨g, hgrows, hclose⟩ := hnoted
  rw [hclose]
  refine ⟨_, _, rfl, rfl, findings_flushAnalyzer g, ?_⟩
  obtain ⟨hinitialStats, hcoverage, herrors, herrorTrace, hwarnings, hdiagnostics, hconditions⟩ :=
    hgrows.trans (grows_flushAnalyzer g)
  exact ⟨hinitialStats, hcoverage, herrors, herrorTrace, hwarnings, hdiagnostics, hconditions⟩

/-! ## The reports of a run -/

/-- Findings tell no report. -/
theorem reports_of_findings {events : List Event} (h : ∀ e ∈ events, e.IsFinding) :
    events.filterMap Event.checkReport? = [] := by
  refine List.filterMap_eq_nil_iff.mpr fun e he => ?_
  have hfinding := h e he
  cases e with
  | diagnostic tool r => rfl
  | progress tool detail snap => cases hfinding
  | report tool r => cases hfinding

/-- Reports between two others, each grown from the one before it. -/
inductive Grown : CheckReport → List CheckReport → CheckReport → Prop
  /-- None between them. -/
  | nil {first last : CheckReport} (h : first.Grows last) : Grown first [] last
  /-- One, and then others. -/
  | cons {first r last : CheckReport} {rest : List CheckReport} (h : first.Grows r)
    (hrest : Grown r rest last) : Grown first (r :: rest) last

theorem Grown.before {first r last : CheckReport} {rs : List CheckReport} (h : first.Grows r)
    (hrs : Grown r rs last) : Grown first rs last := by
  cases hrs with
  | nil hlast => exact .nil (h.trans hlast)
  | cons hnext hrest => exact .cons (h.trans hnext) hrest

theorem Grown.append {first middle last : CheckReport} {a b : List CheckReport}
    (ha : Grown first a middle) (hb : Grown middle b last) : Grown first (a ++ b) last := by
  induction ha with
  | nil h => exact hb.before h
  | cons h _ ih => exact .cons h (ih hb)

theorem Grown.forall_mem {first last : CheckReport} {rs : List CheckReport}
    (h : Grown first rs last) : ∀ r ∈ rs, first.Grows r := by
  induction h with
  | nil _ => exact fun r hr => absurd hr List.not_mem_nil
  | cons h _ ih => exact List.forall_mem_cons.mpr ⟨h, fun r hr => h.trans (ih r hr)⟩

/-- Any two of them are in order. -/
theorem Grown.pairwise {first last : CheckReport} {rs : List CheckReport}
    (h : Grown first rs last) : rs.Pairwise CheckReport.Grows := by
  induction h with
  | nil _ => exact List.Pairwise.nil
  | cons _ hrest ih => exact List.Pairwise.cons hrest.forall_mem ih

theorem grown_feed {s : Session Run CheckReport} {line : Text} {events : List Event}
    (h : (s.feed decoder line).2.events = .ok events) :
    Grown (snapshot s.gathered) (events.filterMap Event.checkReport?)
      (snapshot (s.feed decoder line).1.gathered) := by
  by_cases hline : Dispatches s line
  · obtain ⟨told, detail, rfl, hfindings⟩ := told_of_dispatches hline h
    rw [List.filterMap_append, reports_of_findings hfindings]
    exact .cons (grows_feed s line) (.nil (.refl _))
  · rw [reports_of_findings (findings_of_not_dispatches hline h)]
    exact .nil (grows_feed s line)

theorem grown_feedLines {s : Session Run CheckReport} {lines : List Text}
    (h : (feedLines decoder s lines).2.fault = none) :
    Grown (snapshot s.gathered)
      ((feedLines decoder s lines).2.events.filterMap Event.checkReport?)
      (snapshot (feedLines decoder s lines).1.gathered) := by
  induction lines generalizing s with
  | nil => exact .nil (.refl _)
  | cons line rest ih =>
      obtain ⟨first, hfirst⟩ := Protocol.Reading.ok_of_feedLines_cons h
      obtain ⟨hsession, hfault, hevents⟩ := Protocol.Reading.feedLines_cons_of_ok rest hfirst
      rw [hfault] at h
      rw [hsession, hevents, List.filterMap_append]
      exact (grown_feed hfirst).append (ih h)

/-- Each line of a run that was read tells of findings, and behind them, exactly if it ends
a message, of one report; the end of the output tells of findings and then of the last
report.  In these reports nothing is taken out of a list, put in front of it or changed in
it: of any two the earlier one has the front of each list of the later one. -/
theorem reports_grow {spec : Option Text} {lines : List Text} (stopped : Bool)
    (hlines : (feedLines decoder (session spec) lines).2.fault = none) :
    (∀ before line later, lines = before ++ line :: later →
      let s := (feedLines decoder (session spec) before).1
      ∃ events, (s.feed decoder line).2.events = .ok events ∧
        (Dispatches s line → ∃ told detail snap,
          events = told ++ [.progress tool detail (some snap)] ∧ ∀ e ∈ told, e.IsFinding) ∧
        (¬Dispatches s line → ∀ e ∈ events, e.IsFinding)) ∧
    (let close := (feedLines decoder (session spec) lines).1.close decoder stopped
      ∃ told result, close.2 = .ok (told ++ [.report tool (.check result)]) ∧
        (∀ e ∈ told, e.IsFinding) ∧ close.1.result = some result) ∧
    ((readLines decoder (session spec) lines stopped).2.events.filterMap
      Event.checkReport?).Pairwise CheckReport.Grows := by
  obtain ⟨hshort, after, events, hread⟩ := Protocol.Reading.ok_of_feedLines hlines
  have hopen : (feedLines decoder (session spec) lines).1.result = none :=
    congrArg (·.result) (Protocol.Reading.feedLines_of_ok hshort hread).1
  obtain ⟨told, result, hclose, hresult, hfindings, hlast⟩ := told_of_close hopen stopped
  refine ⟨?_, ⟨told, result, hclose, hfindings, hresult⟩, ?_⟩
  · rintro before line later rfl
    obtain ⟨events, hevents⟩ := Protocol.Reading.ok_of_feedLines_split hlines
    refine ⟨events, hevents, fun hline => ?_,
      fun hline => findings_of_not_dispatches hline hevents⟩
    obtain ⟨told, detail, htold, hfindings⟩ := told_of_dispatches hline hevents
    exact ⟨told, detail, _, htold, hfindings⟩
  · obtain ⟨_, hevents⟩ := Protocol.Reading.readLines_of_close hlines hclose
    have hreport : (told ++ [Event.report tool (.check result)]).filterMap Event.checkReport? =
        [result] := by
      rw [List.filterMap_append, reports_of_findings hfindings]
      rfl
    rw [hevents, List.filterMap_append, hreport]
    exact ((grown_feedLines hlines).append (.cons hlast (.nil (.refl result)))).pairwise

/-- The text of a progress message. -/
def progressText : Text :=
  "Progress(3) at 9: 7 states generated, 5 distinct states found, 2 states left on queue".toList

/-- Counters, an error and the analyzer's part, cut off in a message. -/
def eventful : List Text :=
  (Item.message ⟨2199, some 0, []⟩).lines ++
    (Item.message ⟨2200, some 0, [progressText]⟩).lines ++
    (Item.message ⟨2110, some 1, ["Invariant is violated.".toList]⟩).lines ++
    (Item.message ⟨2220, some 0, []⟩).lines ++
    ["Parsing file /a/Other.tla".toList, "line 3, col 5 to line 3, col 6 of module Other".toList,
      "Unknown operator".toList, (Sign.start 2219 (some 0)).line, (Sign.stop 2219).line,
      (Sign.start 2193 (some 0)).line]

theorem reports_grow_eventful :
    (feedLines decoder (session none) eventful).2.fault = none ∧
    let reports :=
      (readLines decoder (session none) eventful false).2.events.filterMap Event.checkReport?
    reports.Pairwise CheckReport.Grows ∧
      reports.map (fun r => (r.initialStats.length, r.errors.length,
          r.diagnostics.records.length, r.conditions.length)) =
        [(0, 0, 0, 0), (1, 0, 0, 0), (1, 1, 0, 0), (1, 1, 0, 0), (1, 1, 1, 0), (1, 1, 1, 1)] := by
  have hlines : (feedLines decoder (session none) eventful).2.fault = none := by
    decide +kernel
  obtain ⟨_, _, hgrow⟩ := reports_grow false hlines
  exact ⟨hlines, hgrow, by decide +kernel⟩

end Checker

end TlaRunner
