import TlaRunner.Proofs.Checker.Verdict
import TlaRunner.Proofs.Transpiler.Decoder

/-!
# Reports as replays of their events

A run tells its findings twice, one by one in its events and all at once in its report.
The two agree: a report has the findings that were announced, file by file and in order,
an entry without findings for each file that was only named, and no others, and no finding
is announced twice (`Report.Replays`).

The model checker reports on the way, too.  A snapshot has what was announced before it
(`Checker.replays_of_snapshot`).
-/

namespace TlaRunner

open Diagnostic (Mapping)

/-! ## Events of lines -/

/-- A member of two lists in a row is in the first of them or in the second. -/
theorem split_append {α : Type} {a b pre post : List α} {x : α}
    (h : a ++ b = pre ++ x :: post) :
    (∃ rest, a = pre ++ x :: rest) ∨ ∃ mid, pre = a ++ mid ∧ b = mid ++ x :: post := by
  rcases List.append_eq_append_iff.mp h with ⟨mid, hpre, hb⟩ | ⟨mid, rfl, hmid⟩
  · exact Or.inr ⟨mid, hpre, hb⟩
  · cases mid with
    | nil => exact Or.inr ⟨[], by simp, hmid.symm⟩
    | cons y mid =>
        obtain ⟨rfl, rfl⟩ := List.cons.inj hmid
        exact Or.inl ⟨mid, rfl⟩

namespace Protocol.Reading

variable {σ ρ : Type} {d : Decoder σ ρ}

/-- The events of lines are those of the first and those of the others. -/
theorem feedLines_cons_of_ok {s : Session σ ρ} {line : Text} (rest : List Text)
    {first : List Event} (h : (s.feed d line).2.events = .ok first) :
    (feedLines d s (line :: rest)).1 = (feedLines d (s.feed d line).1 rest).1 ∧
      (feedLines d s (line :: rest)).2.fault = (feedLines d (s.feed d line).1 rest).2.fault ∧
      (feedLines d s (line :: rest)).2.events =
        first ++ (feedLines d (s.feed d line).1 rest).2.events := by
  rw [feedLines_cons]
  rcases hfeed : s.feed d line with ⟨after, echo, told⟩
  rw [hfeed] at h
  cases h
  rw [Emissions.andThen_of_ok (by rfl)]
  refine ⟨rfl, rfl, ?_⟩
  have hfirst := events_ofReply echo first
  simp only [Emissions.events] at hfirst ⊢
  rw [List.filterMap_append, hfirst]

/-- Reads one line more. -/
theorem feedLines_concat_of_ok {s : Session σ ρ} {before : List Text} {line : Text}
    {events : List Event} (hbefore : (feedLines d s before).2.fault = none)
    (h : ((feedLines d s before).1.feed d line).2.events = .ok events) :
    (feedLines d s (before ++ [line])).1 = ((feedLines d s before).1.feed d line).1 ∧
      (feedLines d s (before ++ [line])).2.fault = none ∧
      (feedLines d s (before ++ [line])).2.events =
        (feedLines d s before).2.events ++ events := by
  obtain ⟨hsession, hfault, hevents⟩ := feedLines_cons_of_ok [] h
  rw [feedLines_append, Emissions.andThen_of_ok hbefore]
  refine ⟨hsession, hfault, ?_⟩
  simp only [Emissions.events] at hevents ⊢
  rw [List.filterMap_append, hevents]
  exact congrArg _ (List.append_nil events)

/-- A line without a fault was read. -/
theorem ok_of_feedLines_cons {s : Session σ ρ} {line : Text} {rest : List Text}
    (h : (feedLines d s (line :: rest)).2.fault = none) :
    ∃ first, (s.feed d line).2.events = .ok first := by
  cases hline : (s.feed d line).2.events with
  | ok first => exact ⟨first, rfl⟩
  | error fault =>
      have hfault : (Emissions.ofReply (s.feed d line).2).fault = some fault := by
        rw [Emissions.ofReply, hline]
      rw [feedLines_cons, Emissions.andThen_of_fault hfault, hfault] at h
      cases h

/-- Behind the events of the lines come those of the end. -/
theorem readLines_of_close {s : Session σ ρ} {lines : List Text} {stopped : Bool}
    {last : List Event} (hlines : (feedLines d s lines).2.fault = none)
    (hclose : ((feedLines d s lines).1.close d stopped).2 = .ok last) :
    (readLines d s lines stopped).1 = ((feedLines d s lines).1.close d stopped).1 ∧
      (readLines d s lines stopped).2.events = (feedLines d s lines).2.events ++ last := by
  rw [readLines, Emissions.andThen_of_ok hlines, closeLines, hclose]
  refine ⟨rfl, ?_⟩
  have hlast := events_ofEvents last
  simp only [Emissions.events] at hlast ⊢
  rw [List.filterMap_append, hlast]

/-- A run without a fault has read each of its lines. -/
theorem ok_of_feedLines_split {s : Session σ ρ} {before later : List Text} {line : Text}
    (h : (feedLines d s (before ++ line :: later)).2.fault = none) :
    ∃ events, ((feedLines d s before).1.feed d line).2.events = .ok events := by
  rw [feedLines_append] at h
  cases hfault : (feedLines d s before).2.fault with
  | some fault =>
      rw [Emissions.andThen_of_fault hfault, hfault] at h
      cases h
  | none =>
      rw [Emissions.andThen_of_ok hfault] at h
      exact ok_of_feedLines_cons h

/-- An event of lines is told by one of them. -/
theorem split_of_feedLines {s : Session σ ρ} {lines : List Text} {pre post : List Event}
    {e : Event} (hrun : (feedLines d s lines).2.fault = none)
    (h : (feedLines d s lines).2.events = pre ++ e :: post) :
    ∃ before line later told rest, lines = before ++ line :: later ∧
      (feedLines d s before).2.fault = none ∧
      ((feedLines d s before).1.feed d line).2.events = .ok (told ++ e :: rest) ∧
      pre = (feedLines d s before).2.events ++ told := by
  induction lines generalizing s pre with
  | nil =>
      cases pre with
      | nil => cases h
      | cons x pre => cases h
  | cons line lines ih =>
      obtain ⟨first, hfirst⟩ := ok_of_feedLines_cons hrun
      obtain ⟨hsession, hfault, hevents⟩ := feedLines_cons_of_ok lines hfirst
      rw [hfault] at hrun
      rw [hevents] at h
      -- The event is told by the first line, or by one of the others.
      rcases split_append h with ⟨rest, rfl⟩ | ⟨mid, rfl, hlater⟩
      · exact ⟨[], line, lines, pre, rest, rfl, rfl, hfirst, rfl⟩
      · obtain ⟨before, teller, later, told, rest, rfl, hok, htold, rfl⟩ := ih hrun hlater
        obtain ⟨hbefore, hbeforeFault, hbeforeEvents⟩ :=
          feedLines_cons_of_ok before hfirst
        refine ⟨line :: before, teller, later, told, rest, rfl, hbeforeFault.trans hok, ?_, ?_⟩
        · rw [hbefore]
          exact htold
        · rw [hbeforeEvents, List.append_assoc]

end Protocol.Reading

/-! ## Reports -/

/-- Whether findings by file are those that events announce, where besides these files
were named. -/
structure Diagnostic.Mapping.Tells (m : Mapping) (named : List Text)
    (events : List Protocol.Event) : Prop where
  /-- It has the announced findings. -/
  replays : m.Replays named (Protocol.announced events)
  /-- No finding is announced twice. -/
  distinct : (Protocol.announced events).Pairwise (·.identity ≠ ·.identity)

namespace Protocol

variable {σ ρ : Type} {d : Decoder σ ρ} {names : σ → Item → List Text} {g : Gathered σ}
  {named : List Text}

theorem tells_of_holds (hheld : g.diagnostics.Holds named (announced events)) :
    g.diagnostics.mapping.Tells named events :=
  ⟨hheld.replays, hheld.distinct⟩

/-- The report of a run tells what its events announced. -/
theorem tells_of_readLines (hd : d.Announces names) (hheld : g.diagnostics.Holds named [])
    (findings : ρ → Mapping)
    (hreport : ∀ g stopped, findings (d.report g stopped) = g.diagnostics.mapping)
    {lines : List Text} {stopped : Bool}
    (hrun : (Reading.readLines d (.start g) lines stopped).2.fault = none) :
    let run := Reading.readLines d (.start g) lines stopped
    ∃ report, run.1.result = some report ∧
      (findings report).Tells (named ++ filesNamed d names g (drive none lines).2)
        run.2.events := by
  intro run
  obtain ⟨after, _, _, hsession, _⟩ := Reading.fates_of_readLines hrun
  have hholds := holds_of_readLines hd hheld hrun
  rw [hsession, List.nil_append] at hholds
  refine ⟨d.report (d.onEnd after).1 stopped, congrArg Session.result hsession, ?_⟩
  rw [hreport]
  exact tells_of_holds hholds

/-- What is held behind a line tells what was announced up to it, whatever the line tells
last. -/
theorem tells_of_feed (hd : d.Announces names) (hheld : g.diagnostics.Holds named [])
    {before : List Text} {line : Text} {told : List Event} {last : Event}
    (hbefore : (Reading.feedLines d (.start g) before).2.fault = none)
    (hline : ((Reading.feedLines d (.start g) before).1.feed d line).2.events =
      .ok (told ++ [last]))
    (hlast : last.finding? = none) :
    ((Reading.feedLines d (.start g) before).1.feed d line).1.gathered.diagnostics.mapping.Tells
      (named ++ filesNamed d names g (drive none (before ++ [line])).2)
      ((Reading.feedLines d (.start g) before).2.events ++ told) := by
  obtain ⟨hsession, hfault, hevents⟩ := Reading.feedLines_concat_of_ok hbefore hline
  have hholds := holds_of_feedLines hd hheld hfault
  rw [← Session.start, hsession, hevents, List.nil_append, ← List.append_assoc,
    announced_append, show announced [last] = [] by simp [announced, hlast],
    List.append_nil] at hholds
  exact tells_of_holds hholds

/-- Before the end of the output come the events of the lines. -/
theorem events_of_readLines {lines : List Text} {stopped : Bool}
    (hrun : (Reading.readLines d (.start g) lines stopped).2.fault = none) :
    (Reading.feedLines d (.start g) lines).2.fault = none ∧ ∃ after,
      (Reading.readLines d (.start g) lines stopped).2.events =
        (Reading.feedLines d (.start g) lines).2.events ++
          Reading.lastEvents d after stopped := by
  obtain ⟨hshort, after, events, hread⟩ := Reading.ok_of_readLines hrun
  obtain ⟨_, _, hevents⟩ := Reading.readLines_of_ok hshort hread stopped
  obtain ⟨middle, first, last, hlines, hcut, rfl⟩ := deliver_append_eq_ok.mp hread
  obtain ⟨_, hnoted, _⟩ := Reading.closeLines_eq d (drive none lines).1 middle stopped
  cases hcut.symm.trans hnoted
  obtain ⟨_, hfault, hfirst⟩ := Reading.feedLines_of_ok hshort hlines
  refine ⟨hfault, after, hevents.trans ?_⟩
  rw [List.append_nil, Session.start, hfirst]

end Protocol

/-! ## Snapshots -/

namespace Checker

open Protocol (Event Session announced drive filesNamed)
open Protocol.Reading (feedLines readLines)

/-- The end of the output tells no snapshot. -/
theorem snapshot_not_mem_lastEvents {g : Protocol.Gathered Run} {stopped : Bool} {tool : Tool}
    {detail : Text} {snap : CheckReport} :
    .progress tool detail (some snap) ∉ Protocol.Reading.lastEvents decoder g stopped := by
  intro h
  rcases List.mem_append.mp h with htrailing | hreport
  · exact Bool.false_ne_true (findings_flushAnalyzer g _ htrailing)
  · cases List.mem_singleton.mp hreport

/-- A snapshot tells what the events before it announced, those of its own message
included. -/
theorem tells_of_snapshot {spec : Option Text} {lines : List Text} {stopped : Bool}
    (hrun : (readLines decoder (session spec) lines stopped).2.fault = none)
    {pre post : List Event} {tool : Tool} {detail : Text} {snap : CheckReport}
    (h : (readLines decoder (session spec) lines stopped).2.events =
      pre ++ .progress tool detail (some snap) :: post) :
    ∃ before line later told, lines = before ++ line :: later ∧
      ((feedLines decoder (session spec) before).1.feed decoder line).2.events =
        .ok (told ++ [.progress tool detail (some snap)]) ∧
      pre = (feedLines decoder (session spec) before).2.events ++ told ∧
      snap.diagnostics.Tells
        (spec.toList ++ filesNamed decoder named (session spec).gathered
          (drive none (before ++ [line])).2) pre := by
  obtain ⟨hlines, after, hevents⟩ := Protocol.events_of_readLines (d := decoder)
    (g := (session spec).gathered) hrun
  rcases split_append (hevents.symm.trans h) with ⟨others, hothers⟩ | ⟨mid, _, hmid⟩
  · obtain ⟨before, line, later, told, rest, hsplit, hbefore, hline, hpre⟩ :=
      Protocol.Reading.split_of_feedLines hlines hothers
    obtain ⟨hsnap, findings, htold, hfindings⟩ :=
      snapshot_of_feed hline (List.mem_append_right told List.mem_cons_self)
    -- Findings come before the snapshot and nothing comes behind it.
    have hrest : rest = [] := by
      rcases List.eq_nil_or_concat' rest with hnil | ⟨rest, x, rfl⟩
      · exact hnil
      · rw [← List.cons_append, ← List.append_assoc] at htold
        obtain ⟨rfl, _⟩ := List.append_inj' htold rfl
        have hfinding := hfindings _ (List.mem_append_right told List.mem_cons_self)
        exact absurd hfinding Bool.false_ne_true
    subst hrest
    refine ⟨before, line, later, told, hsplit, hline, hpre, ?_⟩
    rw [hsnap, hpre]
    exact Protocol.tells_of_feed announces (holds_session spec) hbefore hline rfl
  · exact absurd (hmid ▸ List.mem_append_right mid List.mem_cons_self)
      snapshot_not_mem_lastEvents

end Checker

/-! ## The three tools -/

open Protocol (Event drive filesNamed)
open Protocol.Reading (feedLines readLines)

/-- Whatever lines a tool prints, if they can be read, its report has just the findings
that the events announced, file by file, and of the other files those that were named; no
finding is announced twice.  So it is with every snapshot of the model checker and the
events before it. -/
theorem reports_tell :
    (∀ file lines stopped,
      let run := readLines Transpiler.decoder (Transpiler.session file) lines stopped
      run.2.fault = none → ∃ report, run.1.result = some report ∧
        report.diagnostics.Tells [file] run.2.events) ∧
    (∀ lines stopped,
      let run := readLines Analyzer.decoder Analyzer.session lines stopped
      run.2.fault = none → ∃ report, run.1.result = some report ∧
        report.diagnostics.Tells
          (filesNamed Analyzer.decoder Analyzer.named Analyzer.session.gathered
            (drive none lines).2) run.2.events) ∧
    ∀ spec lines stopped,
      let session := Checker.session spec
      let run := readLines Checker.decoder session lines stopped
      run.2.fault = none →
        (∃ report, run.1.result = some report ∧
          report.diagnostics.Tells
            (spec.toList ++ filesNamed Checker.decoder Checker.named session.gathered
              (drive none lines).2) run.2.events) ∧
        ∀ pre tool detail snap post,
          run.2.events = pre ++ .progress tool detail (some snap) :: post →
            ∃ before line later told, lines = before ++ line :: later ∧
              ((feedLines Checker.decoder session before).1.feed Checker.decoder line).2.events =
                .ok (told ++ [.progress tool detail (some snap)]) ∧
              pre = (feedLines Checker.decoder session before).2.events ++ told ∧
              snap.diagnostics.Tells
                (spec.toList ++ filesNamed Checker.decoder Checker.named session.gathered
                  (drive none (before ++ [line])).2) pre := by
  refine ⟨?_, ?_, ?_⟩
  · intro file lines stopped run hrun
    have hheld : (Transpiler.session file).gathered.diagnostics.Holds [file] [] :=
      Diagnostic.Collection.holds_empty.addFile file
    have htells := Protocol.tells_of_readLines Transpiler.announces hheld (·.diagnostics)
      (fun _ _ => rfl) hrun
    rw [Protocol.filesNamed_silent] at htells
    exact htells
  · intro lines stopped run hrun
    exact Protocol.tells_of_readLines Analyzer.announces Diagnostic.Collection.holds_empty
      (·.diagnostics) (fun _ _ => rfl) hrun
  · intro spec lines stopped session run hrun
    refine ⟨?_, fun pre tool detail snap post h => Checker.tells_of_snapshot hrun h⟩
    exact Protocol.tells_of_readLines Checker.announces (Checker.holds_session spec)
      (·.diagnostics) (fun _ _ => rfl) hrun

/-- A file that is only named, and an error that is found twice. -/
def repeated : List Text :=
  [(Protocol.Sign.start 2220 (some 0)).line, (Protocol.Sign.stop 2220).line,
    "Parsing file /a/Other.tla".toList, "line 3, col 5 to line 3, col 6 of module Spec".toList,
    "Unknown operator".toList, "line 3, col 5 to line 3, col 6 of module Spec".toList,
    "Unknown operator".toList, (Protocol.Sign.start 2219 (some 0)).line,
    (Protocol.Sign.stop 2219).line]

theorem reports_tell_repeated :
    let run := readLines Checker.decoder (Checker.session none) repeated false
    ∃ report, run.1.result = some report ∧
      report.diagnostics.findings? "/a/Other.tla".toList = some [] ∧
      report.diagnostics.findings? "Spec.tla".toList =
        some [⟨"Spec.tla".toList, .ofToolSpan 3 5 3 6, .error, "Unknown operator".toList⟩] ∧
      report.diagnostics.findings? "Other.tla".toList = none := by
  have hrun : (readLines Checker.decoder (Checker.session none) repeated false).2.fault = none := by
    decide
  obtain ⟨⟨report, hresult, htells⟩, _⟩ := reports_tell.2.2 none repeated false hrun
  refine ⟨report, hresult, ?_, ?_, ?_⟩
  · rw [htells.replays.findings?]
    decide
  · rw [htells.replays.findings?]
    decide
  · rw [htells.replays.findings?]
    decide

end TlaRunner
