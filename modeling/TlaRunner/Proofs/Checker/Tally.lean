import TlaRunner.Proofs.Checker.Verdict
import TlaRunner.Proofs.Protocol.Transcript

/-!
# What messages enter for good

Errors, warnings and states of the error trace are entered in lists that nothing is taken
out of: the `Tally` of a check.  What a message adds to it depends on its role
(`tally_dispatch`).  Messages that move the phase or the counters add nothing to it; they
add to the counters alone (`Counts`).  Nor does the analyzer's part, whose findings leave the
lists of the report alone (`soFar_apply`).
-/

namespace TlaRunner.Checker

open Text (Scan)
open Protocol (Gathered Step Event Message Item Delivery deliver)

/-! ## Tallies -/

/-- What messages have entered in a check, in order. -/
structure Tally where
  /-- The error messages. -/
  errors : List ErrorInfo
  /-- The warnings. -/
  warnings : List Text
  /-- The states of the error trace. -/
  errorTrace : List TraceState
  deriving DecidableEq, Repr

/-- The tally of a report. -/
def Tally.ofReport (r : CheckReport) : Tally :=
  ⟨r.errors, r.warnings, r.errorTrace⟩

/-- The tally of a run. -/
def tally (g : Gathered Run) : Tally :=
  .ofReport g.grammar.soFar

/-- The state of the error trace that a message spells, if its title has a number that can
be read. -/
def traceState? (m : Message) : Option TraceState :=
  match m.lines with
  | [] => none
  | first :: rest =>
    match Scan.front traceTitle (Text.strip first) with
    | none => none
    | some (number, title) =>
      match Protocol.readNumber number with
      | .error _ => none
      | .ok number => some ⟨number, title, filledLines rest⟩

/-- The tally after a message. -/
def Tally.next (t : Tally) (m : Message) : Tally :=
  match roleOf m with
  | .failure => { t with errors := t.errors ++ [⟨m.code, filledLines m.lines⟩] }
  | .warning => { t with warnings := t.warnings ++ [m.text] }
  | .traceState => { t with errorTrace := t.errorTrace ++ (traceState? m).toList }
  | _ => t

/-! ## The analyzer's part -/

theorem soFar_apply (g : Gathered Run) (result : Analyzer.LineResult) :
    (apply g result).1.grammar.soFar = g.grammar.soFar := by
  rw [grammar_apply]

theorem soFar_flushAnalyzer (g : Gathered Run) :
    (flushAnalyzer g).1.grammar.soFar = g.grammar.soFar := by
  rw [flushAnalyzer]
  split
  next => rfl
  next grammar _ => exact soFar_apply _ _

/-! ## Messages that move the phase or the counters -/

/-- What is left by a message that moves the phase or the counters. -/
structure Counts (g after : Gathered Run) : Prop where
  /-- Nothing was entered in the tally. -/
  tally : tally after = tally g
  /-- Counters of progress messages were added. -/
  initialStats : g.grammar.soFar.initialStats <+: after.grammar.soFar.initialStats
  /-- Coverage counters were added. -/
  coverage : g.grammar.soFar.coverage <+: after.grammar.soFar.coverage
  /-- The findings are what they were. -/
  diagnostics : after.diagnostics = g.diagnostics
  /-- So are the anomalies. -/
  conditions : after.conditions = g.conditions

theorem Counts.refl (g : Gathered Run) : Counts g g :=
  ⟨rfl, List.prefix_rfl, List.prefix_rfl, rfl, rfl⟩

theorem Counts.trans {g middle after : Gathered Run} (hfirst : Counts g middle)
    (hlast : Counts middle after) : Counts g after :=
  ⟨hlast.tally.trans hfirst.tally, hfirst.initialStats.trans hlast.initialStats,
    hfirst.coverage.trans hlast.coverage, hlast.diagnostics.trans hfirst.diagnostics,
    hlast.conditions.trans hfirst.conditions⟩

theorem counts_setDiameter (g : Gathered Run) (diameter : Nat) :
    Counts g (setDiameter g diameter) :=
  ⟨rfl, List.prefix_rfl, List.prefix_rfl, rfl, rfl⟩

theorem counts_onProgress (g : Gathered Run) (text : Text) : Counts g (onProgress g text).1 := by
  rw [onProgress]
  split
  · exact .refl g
  next d _ =>
    split
    · exact .refl g
    next diameter _ =>
      have hdiameter := counts_setDiameter g diameter
      simp only
      split
      · exact hdiameter
      next stat _ =>
        exact hdiameter.trans ⟨rfl, List.prefix_append _ _, List.prefix_rfl, rfl, rfl⟩

theorem counts_onStats (g : Gathered Run) (text : Text) : Counts g (onStats g text).1 := by
  rw [onStats]
  split
  · exact .refl g
  next counters _ =>
    split
    · exact .refl g
    · exact ⟨rfl, List.prefix_rfl, List.prefix_rfl, rfl, rfl⟩

theorem counts_onDepth (g : Gathered Run) (text : Text) : Counts g (onDepth g text).1 := by
  rw [onDepth]
  split
  · exact .refl g
  next digits _ =>
    split
    · exact .refl g
    · exact counts_setDiameter g _

theorem counts_onCoverage (g : Gathered Run) (lines : List Text) :
    Counts g (onCoverage g lines).1 := by
  induction lines generalizing g with
  | nil => exact .refl g
  | cons line rest ih =>
      rw [onCoverage]
      split
      · exact ih g
      next d _ =>
        split
        · exact .refl g
        · refine Counts.trans ?_ (ih _)
          exact ⟨rfl, List.prefix_rfl, List.prefix_append _ _, rfl, rfl⟩

/-- Settling the outcome enters nothing. -/
theorem lists_settle (outcome : Outcome) (r : CheckReport) :
    Tally.ofReport (settle outcome r) = .ofReport r ∧
      r.initialStats <+: (settle outcome r).initialStats ∧
      r.coverage <+: (settle outcome r).coverage := by
  rw [settle]
  split
  · exact ⟨rfl, List.prefix_rfl, List.prefix_rfl⟩
  · exact ⟨rfl, List.prefix_rfl, List.prefix_rfl⟩

theorem counts_settle (g : Gathered Run) (outcome : Outcome) :
    Counts g (update g (settle outcome)) := by
  obtain ⟨htally, hinitialStats, hcoverage⟩ := lists_settle outcome g.grammar.soFar
  exact ⟨htally, hinitialStats, hcoverage, rfl, rfl⟩

theorem counts_onFinished (g : Gathered Run) (text : Text) : Counts g (onFinished g text) := by
  rw [onFinished]
  split
  next duration time _ =>
    refine Counts.trans ?_ (counts_settle _ _)
    exact ⟨rfl, List.prefix_rfl, List.prefix_rfl, rfl, rfl⟩
  next =>
    refine Counts.trans ?_ (counts_settle _ _)
    exact ⟨rfl, List.prefix_rfl, List.prefix_rfl, rfl, rfl⟩

theorem counts_onStatus (g : Gathered Run) (topic : Topic) (text : Text) :
    Counts g (onStatus g topic text).1 := by
  rw [onStatus.eq_def]
  split
  · exact ⟨rfl, List.prefix_rfl, List.prefix_rfl, rfl, rfl⟩
  · exact ⟨rfl, List.prefix_rfl, List.prefix_rfl, rfl, rfl⟩
  · exact ⟨rfl, List.prefix_rfl, List.prefix_rfl, rfl, rfl⟩
  · exact ⟨rfl, List.prefix_rfl, List.prefix_rfl, rfl, rfl⟩
  · exact ⟨rfl, List.prefix_rfl, List.prefix_rfl, rfl, rfl⟩
  · exact ⟨rfl, List.prefix_rfl, List.prefix_rfl, rfl, rfl⟩
  · obtain ⟨htally, hinitialStats, hcoverage⟩ := lists_settle .success g.grammar.soFar
    exact ⟨htally, hinitialStats, hcoverage, rfl, rfl⟩
  · exact counts_onDepth g text
  · exact counts_onProgress g text
  · exact counts_onStats g text
  · exact counts_onCoverage g (Text.lines text)
  · exact counts_onFinished g text
  · exact .refl g

/-! ## Messages -/

theorem tally_onTraceState (g : Gathered Run) (m : Message) :
    tally (onTraceState g m).1 =
      { tally g with errorTrace := (tally g).errorTrace ++ (traceState? m).toList } := by
  have hnone : tally g = { tally g with errorTrace := (tally g).errorTrace ++ [] } := by
    rw [List.append_nil]
  rw [onTraceState, traceState?]
  cases m.lines with
  | nil => exact hnone
  | cons first rest =>
      simp only
      cases Scan.front traceTitle (Text.strip first) with
      | none => exact hnone
      | some found =>
          simp only
          cases Protocol.readNumber found.1 with
          | error fault => exact hnone
          | ok number => rfl

theorem tally_onError (g : Gathered Run) (m : Message) :
    tally (onError (markToolBug g m) m).gathered =
      { tally g with errors := (tally g).errors ++ [⟨m.code, filledLines m.lines⟩] } := by
  have hbug : (markToolBug g m).grammar.soFar = g.grammar.soFar := by
    rw [markToolBug]
    split
    · rfl
    · rfl
  rw [onError, tally, (reportAt_grammar _ _ _).1]
  simp only [update, hbug]
  rfl

/-- What a message enters. -/
theorem tally_dispatch (g : Gathered Run) (m : Message) :
    tally (dispatch g m).gathered = (tally g).next m := by
  rw [dispatch_eq, Tally.next]
  cases roleOf m with
  | analyzerStart => rfl
  | analyzerEnd =>
      show tally (flushAnalyzer g).1 = tally g
      rw [tally, soFar_flushAnalyzer, tally]
  | failure => exact tally_onError g m
  | warning => rfl
  | traceState => exact tally_onTraceState g m
  | status topic => exact (counts_onStatus g topic m.text).tally

end TlaRunner.Checker
