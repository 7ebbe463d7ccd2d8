import TlaRunner.Proofs.Checker.Dispatch

/-!
# The outcome of a check only gets worse

An outcome is open, then perhaps success, and in the end an error or fatal, where it
stays: `Outcome.Moves`.  A message makes one such move at most (`Standing.moves_next`).

`Standing.Consistent` is the invariant behind it.  Errors settle the outcome, and without
errors there is no tool bug.  So where the end of a run still finds the outcome open, only
the findings can decide it (`outcome_onFinished`).

The statements are about any lines, also about ones that cannot be decoded: `feedEach`
passes over a fault and goes on with what the line changed before it.
-/

namespace TlaRunner

/-- What may become of an outcome. -/
inductive Outcome.Moves : Outcome → Outcome → Prop
  /-- It may stay. -/
  | stay (outcome : Outcome) : Moves outcome outcome
  /-- An open check may succeed. -/
  | pass : Moves .running .success
  /-- An error may be found while no other was. -/
  | fail {outcome : Outcome} (h : outcome = .running ∨ outcome = .success) : Moves outcome .error
  /-- The tool may break while no error was found. -/
  | crash {outcome : Outcome} (h : outcome = .running ∨ outcome = .success) : Moves outcome .fatal

namespace Outcome

theorem Moves.trans {first middle last : Outcome} (h : first.Moves middle)
    (hnext : middle.Moves last) : first.Moves last := by
  cases hnext with
  | stay => exact h
  | pass =>
      cases h with
      | stay => exact .pass
  | fail hmiddle =>
      cases h with
      | stay => exact .fail hmiddle
      | pass => exact .fail (Or.inl rfl)
      | fail hfirst => exact .fail hfirst
      | crash hfirst => exact .fail hfirst
  | crash hmiddle =>
      cases h with
      | stay => exact .crash hmiddle
      | pass => exact .crash (Or.inl rfl)
      | fail hfirst => exact .crash hfirst
      | crash hfirst => exact .crash hfirst

end Outcome

/-! ## Lines past faults -/

namespace Protocol

variable {σ ρ : Type} (d : Decoder σ ρ)

/-- The events of a line; one that was refused has none. -/
def Reply.told (reply : Reply) : List Event :=
  match reply.events with
  | .ok events => events
  | .error _ => []

theorem Reply.events_of_mem_told {reply : Reply} {e : Event} (h : e ∈ reply.told) :
    ∃ events, reply.events = .ok events ∧ e ∈ events := by
  rw [told] at h
  split at h
  next events hevents => exact ⟨events, hevents, h⟩
  next => cases h

namespace Session

/-- Feeds lines in order and passes over faults: the session behind them, and all that
was told. -/
def feedEach (s : Session σ ρ) : List Text → Session σ ρ × List Event
  | [] => (s, [])
  | line :: rest =>
    let here := s.feed d line
    let later := here.1.feedEach rest
    (later.1, here.2.told ++ later.2)

theorem feedEach_append (s : Session σ ρ) (a b : List Text) :
    s.feedEach d (a ++ b) =
      (((s.feedEach d a).1.feedEach d b).1,
        (s.feedEach d a).2 ++ ((s.feedEach d a).1.feedEach d b).2) := by
  induction a generalizing s with
  | nil => rfl
  | cons line a ih => simp only [List.cons_append, feedEach, ih, List.append_assoc]

/-- A line hands on one delivery at most, and tells what the decoder makes of it. -/
theorem feed_delivers (s : Session σ ρ) (line : Text) :
    ∃ x : Option Delivery,
      (s.feed d line).1.gathered = (deliver d s.gathered x.toList).gathered ∧
        ∀ events, (s.feed d line).2.events = .ok events →
          (deliver d s.gathered x.toList).events = .ok events := by
  obtain ⟨m, g, result⟩ := s
  cases result with
  | some result =>
      refine ⟨none, rfl, fun events hevents => ?_⟩
      cases hevents
  | none =>
      by_cases hshort : ShortLine line
      · refine ⟨(advance m line).2, ?_, fun events hevents => ?_⟩
        · rw [feed_eq d m g hshort]
        · rw [feed_eq d m g hshort] at hevents
          exact hevents
      · obtain ⟨n, hfeed⟩ := feed_of_long d m g hshort
        refine ⟨none, ?_, fun events hevents => ?_⟩
        · rw [hfeed]
          rfl
        · rw [hfeed] at hevents
          cases hevents

/-- A line that was read hands on what the protocol makes of it. -/
theorem feed_of_ok {s : Session σ ρ} {line : Text} {events : List Event}
    (h : (s.feed d line).2.events = .ok events) :
    (s.feed d line).1.gathered =
        (deliver d s.gathered (advance s.message line).2.toList).gathered ∧
      (deliver d s.gathered (advance s.message line).2.toList).events = .ok events := by
  obtain ⟨m, g, result⟩ := s
  cases result with
  | some result => cases h
  | none =>
      by_cases hshort : ShortLine line
      · rw [feed_eq d m g hshort] at h ⊢
        exact ⟨rfl, h⟩
      · obtain ⟨n, hfeed⟩ := feed_of_long d m g hshort
        rw [hfeed] at h
        cases h

/-- No line makes the report. -/
theorem result_feed (s : Session σ ρ) (line : Text) : (s.feed d line).1.result = s.result := by
  obtain ⟨m, g, result⟩ := s
  cases result with
  | some result => rfl
  | none =>
      by_cases hshort : ShortLine line
      · rw [feed_eq d m g hshort]
      · obtain ⟨n, hfeed⟩ := feed_of_long d m g hshort
        rw [hfeed]

theorem result_feedEach (s : Session σ ρ) (lines : List Text) :
    (s.feedEach d lines).1.result = s.result := by
  induction lines generalizing s with
  | nil => rfl
  | cons line rest ih => exact (ih _).trans (s.result_feed d line)

end Session

end Protocol

namespace Checker

open Protocol (Gathered Event Message Delivery Session deliver)

/-! ## Standings -/

namespace Standing

/-- What every standing of a run satisfies. -/
structure Consistent (s : Standing) : Prop where
  /-- Errors settle the outcome for good. -/
  failed : s.errors ≠ [] → s.outcome = .error ∨ s.outcome = .fatal
  /-- No message stops a run. -/
  going : s.outcome ≠ .stopped
  /-- Without errors there is no tool bug. -/
  sane : s.errors = [] → s.toolBug = false

theorem consistent_start : Consistent start :=
  ⟨fun h => absurd rfl h, by decide, fun _ => rfl⟩

/-- While the outcome is open there are no errors. -/
theorem Consistent.errors_eq_nil {s : Standing} (h : s.Consistent) (herror : s.outcome ≠ .error)
    (hfatal : s.outcome ≠ .fatal) : s.errors = [] := by
  by_contra hsome
  rcases h.failed hsome with houtcome | houtcome
  · exact herror houtcome
  · exact hfatal houtcome

theorem afterError_eq (toolBug : Bool) {outcome : Outcome} (h : outcome ≠ .stopped) :
    afterError toolBug outcome = .error ∨ afterError toolBug outcome = .fatal := by
  cases outcome with
  | running =>
      cases toolBug with
      | true => exact Or.inr rfl
      | false => exact Or.inl rfl
  | success =>
      cases toolBug with
      | true => exact Or.inr rfl
      | false => exact Or.inl rfl
  | error => exact Or.inl rfl
  | stopped => exact absurd rfl h
  | fatal => exact Or.inr rfl

/-- The end of a run settles the outcome. -/
theorem terminal_settles (s : Standing) (found : Bool) :
    s.terminal found ≠ .running ∧ s.terminal found ≠ .stopped := by
  rw [terminal]
  split
  · decide
  · split
    · decide
    · decide

theorem Consistent.fail {s : Standing} (h : s.Consistent) (m : Message) :
    (s.fail m).Consistent := by
  have herrors : (s.fail m).errors ≠ [] := by simp [Standing.fail]
  have hfailed : (s.fail m).outcome = .error ∨ (s.fail m).outcome = .fatal :=
    afterError_eq _ h.going
  refine ⟨fun _ => hfailed, ?_, fun hnil => absurd hnil herrors⟩
  rcases hfailed with houtcome | houtcome
  · rw [houtcome]
    decide
  · rw [houtcome]
    decide

/-- An open outcome may be settled, since it has no errors. -/
theorem Consistent.settle {s : Standing} (h : s.Consistent) {outcome : Outcome}
    (hstopped : outcome ≠ .stopped) : (s.settle outcome).Consistent := by
  rw [Standing.settle]
  split
  next hopen =>
    have herrors := h.errors_eq_nil (by rw [hopen]; decide) (by rw [hopen]; decide)
    exact ⟨fun hsome => absurd herrors hsome, hstopped, h.sane⟩
  next => exact h

theorem Consistent.next {s : Standing} (h : s.Consistent) (found : Bool) (m : Message) :
    (s.next found m).Consistent := by
  rw [Standing.next]
  split
  · exact h.fail m
  next topic _ =>
    rw [move.eq_def]
    split
    · exact h.settle (by decide)
    · exact h.settle (s.terminal_settles found).2
    · exact h
  · exact h

theorem moves_afterError (toolBug : Bool) (outcome : Outcome) :
    outcome.Moves (afterError toolBug outcome) := by
  cases outcome with
  | running =>
      cases toolBug with
      | true => exact .crash (Or.inl rfl)
      | false => exact .fail (Or.inl rfl)
  | success =>
      cases toolBug with
      | true => exact .crash (Or.inr rfl)
      | false => exact .fail (Or.inr rfl)
  | error => exact .stay _
  | stopped => exact .stay _
  | fatal => exact .stay _

theorem moves_settle (s : Standing) {outcome : Outcome} (h : Outcome.running.Moves outcome) :
    s.outcome.Moves (s.settle outcome).outcome := by
  rw [Standing.settle]
  split
  next hopen =>
    rw [hopen]
    exact h
  next => exact .stay _

theorem moves_terminal (s : Standing) (found : Bool) :
    Outcome.running.Moves (s.terminal found) := by
  rw [terminal]
  split
  · exact .crash (Or.inl rfl)
  · split
    · exact .fail (Or.inl rfl)
    · exact .pass

/-- A message makes one move at most. -/
theorem moves_next (s : Standing) (found : Bool) (m : Message) :
    s.outcome.Moves (s.next found m).outcome := by
  rw [Standing.next]
  split
  · exact moves_afterError _ _
  next topic _ =>
    rw [move.eq_def]
    split
    · exact s.moves_settle .pass
    · exact s.moves_settle (s.moves_terminal found)
    · exact .stay _
  · exact .stay _

end Standing

/-! ## Lines -/

/-- A delivery leaves the standing alone, unless it is a message. -/
theorem standing_carry (g : Gathered Run) (x : Delivery) :
    standing (x.carry decoder g).gathered = standing g ∨
      ∃ found m, standing (x.carry decoder g).gathered = (standing g).next found m := by
  cases x with
  | item i =>
      cases i with
      | line line => exact Or.inl (standing_onLine g line)
      | message m => exact Or.inr ⟨g.diagnostics.hasErrors, m, standing_onMessage g m⟩
  | condition c => exact Or.inl rfl

/-- What a line does to the standing, it does as one message or not at all. -/
theorem standing_feed (s : Session Run CheckReport) (line : Text) :
    standing (s.feed decoder line).1.gathered = standing s.gathered ∨
      ∃ found m,
        standing (s.feed decoder line).1.gathered = (standing s.gathered).next found m := by
  obtain ⟨x, hgathered, -⟩ := s.feed_delivers decoder line
  rw [hgathered]
  cases x with
  | none => exact Or.inl rfl
  | some x =>
      rw [Option.toList_some, Protocol.deliver_singleton]
      exact standing_carry s.gathered x

theorem consistent_feed {s : Session Run CheckReport} (h : (standing s.gathered).Consistent)
    (line : Text) : (standing (s.feed decoder line).1.gathered).Consistent := by
  rcases standing_feed s line with hkept | ⟨found, m, hnext⟩
  · rw [hkept]
    exact h
  · rw [hnext]
    exact h.next found m

theorem consistent_feedEach {s : Session Run CheckReport} (h : (standing s.gathered).Consistent)
    (lines : List Text) : (standing (s.feedEach decoder lines).1.gathered).Consistent := by
  induction lines generalizing s with
  | nil => exact h
  | cons line rest ih => exact ih (consistent_feed h line)

theorem moves_feedEach (s : Session Run CheckReport) (lines : List Text) :
    (standing s.gathered).outcome.Moves
      (standing (s.feedEach decoder lines).1.gathered).outcome := by
  induction lines generalizing s with
  | nil => exact .stay _
  | cons line rest ih =>
      refine Outcome.Moves.trans ?_ (ih _)
      rcases standing_feed s line with hkept | ⟨found, m, hnext⟩
      · rw [hkept]
        exact .stay _
      · rw [hnext]
        exact (standing s.gathered).moves_next found m

/-! ## Snapshots -/

/-- The events of a message end with its progress, the only event that has a snapshot. -/
theorem snapshot_of_carry {g : Gathered Run} {x : Delivery} {events : List Event} {tool : Tool}
    {detail : Text} {snap : CheckReport} (hevents : (x.carry decoder g).events = .ok events)
    (h : .progress tool detail (some snap) ∈ events) :
    snap = snapshot (x.carry decoder g).gathered ∧
      ∃ told, events = told ++ [.progress tool detail (some snap)] ∧ ∀ e ∈ told, e.IsFinding := by
  have hnot : ¬(Event.progress tool detail (some snap)).IsFinding := Bool.false_ne_true
  cases x with
  | item i =>
      cases i with
      | line line => exact absurd (findings_onLine hevents _ h) hnot
      | message m =>
          obtain ⟨told, htold, rfl⟩ := map_eq_ok_iff.mp hevents
          rcases List.mem_append.mp h with htold' | hlast
          · exact absurd (findings_dispatch htold _ htold') hnot
          · cases List.mem_singleton.mp hlast
            exact ⟨rfl, told, rfl, findings_dispatch htold⟩
  | condition c =>
      cases hevents
      cases h

/-- A snapshot is taken where the line that tells it leaves the run, and told last. -/
theorem snapshot_of_feed {s : Session Run CheckReport} {line : Text} {tool : Tool}
    {detail : Text} {snap : CheckReport} {events : List Event}
    (hevents : (s.feed decoder line).2.events = .ok events)
    (h : .progress tool detail (some snap) ∈ events) :
    snap = snapshot (s.feed decoder line).1.gathered ∧
      ∃ told, events = told ++ [.progress tool detail (some snap)] ∧ ∀ e ∈ told, e.IsFinding := by
  obtain ⟨x, hgathered, htold⟩ := s.feed_delivers decoder line
  have hdelivered := htold events hevents
  rw [hgathered]
  cases x with
  | none =>
      cases hdelivered
      cases h
  | some x =>
      rw [Option.toList_some, Protocol.deliver_singleton] at hdelivered ⊢
      exact snapshot_of_carry hdelivered h

/-- A snapshot with errors tells of a run that failed. -/
theorem settled_of_snapshot {s : Session Run CheckReport}
    (h : (standing s.gathered).Consistent) {lines : List Text} {tool : Tool} {detail : Text}
    {snap : CheckReport} (hsnap : .progress tool detail (some snap) ∈ (s.feedEach decoder lines).2)
    (herrors : snap.errors ≠ []) : snap.outcome = .error ∨ snap.outcome = .fatal := by
  induction lines generalizing s with
  | nil => cases hsnap
  | cons line rest ih =>
      have hline := consistent_feed h line
      rcases List.mem_append.mp hsnap with hhere | hlater
      · obtain ⟨events, hevents, htold⟩ := Protocol.Reply.events_of_mem_told hhere
        rw [(snapshot_of_feed hevents htold).1] at herrors ⊢
        exact hline.failed herrors
      · exact ih hline hlater

/-! ## The end of a run -/

/-- The message that ends a run finds no error messages where the outcome is open, so only
the findings decide. -/
theorem outcome_onFinished {g : Gathered Run} (h : (standing g).Consistent) (text : Text) :
    (onFinished g text).grammar.soFar.outcome =
      if g.grammar.soFar.outcome = .running then
        if g.diagnostics.hasErrors then .error else .success
      else g.grammar.soFar.outcome := by
  have hstanding := congrArg Standing.outcome (standing_onFinished g text)
  rw [Standing.settle] at hstanding
  by_cases hopen : g.grammar.soFar.outcome = .running
  · have hrunning : (standing g).outcome = .running := hopen
    have herrors := h.errors_eq_nil (by rw [hrunning]; decide) (by rw [hrunning]; decide)
    rw [if_pos hrunning, Standing.terminal, h.sane herrors, herrors] at hstanding
    rw [if_pos hopen]
    exact hstanding
  · have hsettled : (standing g).outcome ≠ .running := hopen
    rw [if_neg hsettled] at hstanding
    rw [if_neg hopen]
    exact hstanding

/-- The outcome in the end is that of the standing, or that of a run which was stopped or
left open. -/
theorem finalOutcome_of_consistent {g : Gathered Run} (h : (standing g).Consistent)
    (stopped : Bool) :
    finalOutcome g stopped ≠ .running ∧ (finalOutcome g stopped = .stopped ↔ stopped = true) ∧
      (stopped = false → (standing g).errors ≠ [] →
        finalOutcome g stopped = .error ∨ finalOutcome g stopped = .fatal) := by
  rw [finalOutcome]
  cases stopped with
  | true => simp
  | false =>
      have hgoing : g.grammar.soFar.outcome ≠ .stopped := h.going
      have hfailed : g.grammar.soFar.errors ≠ [] → _ := h.failed
      simp only [Bool.false_eq_true, if_false, iff_false, true_implies]
      split
      next => split <;> simp
      next hopen => exact ⟨hopen, hgoing, hfailed⟩

/-- The end of the output settles what is open, and adds no error message. -/
theorem close_settles {s : Session Run CheckReport} (hopen : s.result = none)
    (h : (standing s.gathered).Consistent) (stopped : Bool) :
    ∃ report trailing, (s.close decoder stopped).1.result = some report ∧
      (s.close decoder stopped).2 = .ok (trailing ++ [.report tool (.check report)]) ∧
      (∀ e ∈ trailing, e.IsFinding) ∧ report.outcome ≠ .running ∧
      (report.outcome = .stopped ↔ stopped = true) ∧
      (stopped = false → report.errors ≠ [] →
        report.outcome = .error ∨ report.outcome = .fatal) := by
  obtain ⟨m, g, result⟩ := s
  cases hopen
  -- Where a message is cut off, the anomaly is noted first, which leaves the standing alone.
  obtain ⟨noted, hclose, hnoted⟩ : ∃ noted,
      (⟨m, g, none⟩ : Session Run CheckReport).close decoder stopped =
        (Protocol.Reading.ended decoder noted stopped,
          .ok (Protocol.Reading.lastEvents decoder noted stopped)) ∧
        standing noted = standing g := by
    cases m with
    | none => exact ⟨g, rfl, rfl⟩
    | some m => exact ⟨g.note .truncated (Session.cutOff m.code), rfl, rfl⟩
  have hend : standing (flushAnalyzer noted).1 = standing g :=
    (standing_flushAnalyzer noted).trans hnoted
  rw [hclose]
  refine ⟨decoder.report (flushAnalyzer noted).1 stopped, (flushAnalyzer noted).2, rfl, rfl,
    findings_flushAnalyzer noted, ?_⟩
  exact finalOutcome_of_consistent (hend ▸ h) stopped

/-- Errors are sticky.  However lines are read, the outcome behind more of them is what
the moves allow; a snapshot with error messages says that the check failed; the message
that ends a run decides by the findings alone; and the report is not open, is stopped
exactly if the run was, and else says that the check failed if it has error messages. -/
theorem errors_settle (spec : Option Text) (before later : List Text) (stopped : Bool) :
    let earlier := (session spec).feedEach decoder before
    let run := (session spec).feedEach decoder (before ++ later)
    earlier.1.gathered.grammar.soFar.outcome.Moves run.1.gathered.grammar.soFar.outcome ∧
    (∀ tool detail snap, .progress tool detail (some snap) ∈ run.2 → snap.errors ≠ [] →
      snap.outcome = .error ∨ snap.outcome = .fatal) ∧
    (∀ text, (onFinished run.1.gathered text).grammar.soFar.outcome =
      if run.1.gathered.grammar.soFar.outcome = .running then
        if run.1.gathered.diagnostics.hasErrors then .error else .success
      else run.1.gathered.grammar.soFar.outcome) ∧
    ∃ report trailing, (run.1.close decoder stopped).1.result = some report ∧
      (run.1.close decoder stopped).2 = .ok (trailing ++ [.report tool (.check report)]) ∧
      (∀ e ∈ trailing, e.IsFinding) ∧ report.outcome ≠ .running ∧
      (report.outcome = .stopped ↔ stopped = true) ∧
      (stopped = false → report.errors ≠ [] →
        report.outcome = .error ∨ report.outcome = .fatal) := by
  intro earlier run
  have hstart : (standing (session spec).gathered).Consistent := Standing.consistent_start
  have hrun : (standing run.1.gathered).Consistent := consistent_feedEach hstart _
  have hmoves : (standing earlier.1.gathered).outcome.Moves (standing run.1.gathered).outcome := by
    have happend := (session spec).feedEach_append decoder before later
    rw [show run = _ from happend]
    exact moves_feedEach earlier.1 later
  refine ⟨hmoves, fun _ _ _ hsnap => settled_of_snapshot hstart hsnap, outcome_onFinished hrun, ?_⟩
  exact close_settles ((session spec).result_feedEach decoder _) hrun stopped

/-- Success, an error behind it, the end of the run, a tool bug and the end once more. -/
def reopened : List (Nat × Nat) :=
  [(2193, 0), (1000, 1), (2186, 0), (1000, 2), (2186, 0)]

example :
    (List.range 6).map (fun n =>
      ((session none).feedEach decoder ((reopened.take n).flatMap fun (code, subCode) =>
        [(Protocol.Sign.start code (some subCode)).line, (Protocol.Sign.stop code).line]))
          |>.1.gathered.grammar.soFar.outcome) =
      [.running, .success, .error, .error, .error, .error] := by
  decide

end Checker

end TlaRunner
