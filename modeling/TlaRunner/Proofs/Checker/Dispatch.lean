import TlaRunner.Checker.Decoder
import TlaRunner.Proofs.Analyzer.Decoder

/-!
# What a message of the model checker does

`roleOf` sorts messages by what is done with them, and `dispatch_eq` reads a message
by its role.

Whether a check found an error depends on little of what was gathered: its `Standing`.
`standing_dispatch` says what a message makes of it, and nothing else changes it.  What
a message does to the findings is in `gains_dispatch`: those that its events announce
are added, and no anomaly is noted.  Files are named by lines of the analyzer's part
alone (`named`).
-/

namespace TlaRunner.Checker

open Text (Scan)
open Protocol (Gathered Step Event Fault Message Item)

/-! ## Topics by their codes -/

theorem ofCode_eq_analyzerStart {code : Nat} :
    Topic.ofCode code = .analyzerStart ↔ code = 2220 := by
  rw [Topic.ofCode.eq_def]
  split <;> simp_all

theorem ofCode_eq_analyzerEnd {code : Nat} : Topic.ofCode code = .analyzerEnd ↔ code = 2219 := by
  rw [Topic.ofCode.eq_def]
  split <;> simp_all

theorem ofCode_eq_failure {code : Nat} :
    Topic.ofCode code = .failure ↔ code ∈ [1000, 2110, 2114, 2121] := by
  rw [Topic.ofCode.eq_def]
  split <;> simp_all

theorem ofCode_eq_traceState {code : Nat} :
    Topic.ofCode code = .traceState ↔ code ∈ [2217, 2218] := by
  rw [Topic.ofCode.eq_def]
  split <;> simp_all

/-! ## Roles -/

/-- What is done with a message. -/
inductive Role
  /-- It opens the analyzer's part. -/
  | analyzerStart
  /-- It closes the analyzer's part. -/
  | analyzerEnd
  /-- It is an error. -/
  | failure
  /-- It is a warning. -/
  | warning
  /-- It is a state of the error trace. -/
  | traceState
  /-- It moves the phase or the counters. -/
  | status (topic : Topic)
  deriving DecidableEq, Repr

/-- The role of a message. -/
def roleOf (m : Message) : Role :=
  let topic := Topic.ofCode m.code
  if topic = .analyzerStart then .analyzerStart
  else if topic = .analyzerEnd then .analyzerEnd
  else if m.subCode = some 1 ∨ m.subCode = some 2 ∨ topic = .failure then .failure
  else if m.subCode = some 3 then .warning
  else if topic = .traceState ∨ m.subCode = some 4 then .traceState
  else .status topic

theorem markToolBug_of_ne {m : Message} (h : m.subCode ≠ some 2) (g : Gathered Run) :
    markToolBug g m = g := by
  rw [markToolBug, if_neg h]

/-- A message is read by its role.  Only an error can be a tool bug. -/
theorem dispatch_eq (g : Gathered Run) (m : Message) :
    dispatch g m = match roleOf m with
      | .analyzerStart =>
        ⟨setAnalyzer (update g fun r => { r with phase := .parsing }) (some .start), .ok []⟩
      | .analyzerEnd =>
        ⟨update (setAnalyzer (flushAnalyzer g).1 none) fun r => { r with phase := .parsed },
          .ok (flushAnalyzer g).2⟩
      | .failure => onError (markToolBug g m) m
      | .warning => ⟨update g fun r => { r with warnings := r.warnings ++ [m.text] }, .ok []⟩
      | .traceState => silent (onTraceState g m)
      | .status topic => silent (onStatus g topic m.text) := by
  simp only [dispatch, roleOf]
  split
  next => rfl
  next =>
    split
    next => rfl
    next =>
      split
      next => rfl
      next hfailure =>
        have hbug : m.subCode ≠ some 2 := fun h => hfailure (Or.inr (Or.inl h))
        rw [markToolBug_of_ne hbug]
        split
        next => rfl
        next =>
          split
          next => rfl
          next => rfl

/-! ## Standings -/

/-- What decides the outcome of a check. -/
structure Standing where
  /-- The outcome so far. -/
  outcome : Outcome
  /-- The error messages so far. -/
  errors : List ErrorInfo
  /-- Whether one of them was a tool bug. -/
  toolBug : Bool
  deriving DecidableEq, Repr

/-- The standing of a run. -/
def standing (g : Gathered Run) : Standing :=
  ⟨g.grammar.soFar.outcome, g.grammar.soFar.errors, g.grammar.toolBug⟩

namespace Standing

/-- The standing before any output. -/
def start : Standing := ⟨.running, [], false⟩

/-- The outcome of a run that ends now, given whether an error was found. -/
def terminal (s : Standing) (found : Bool) : Outcome :=
  if s.toolBug then .fatal else if !s.errors.isEmpty || found then .error else .success

/-- Settles the outcome unless it is settled. -/
def settle (s : Standing) (outcome : Outcome) : Standing :=
  if s.outcome = .running then { s with outcome } else s

/-- The standing after an error message. -/
def fail (s : Standing) (m : Message) : Standing :=
  let toolBug := s.toolBug || m.subCode = some 2
  ⟨afterError toolBug s.outcome, s.errors ++ [⟨m.code, filledLines m.lines⟩], toolBug⟩

/-- The standing after a message that moves the phase or the counters, given whether an
error was found before it. -/
def move (s : Standing) (found : Bool) : Topic → Standing
  | .success => s.settle .success
  | .finished => s.settle (s.terminal found)
  | _ => s

/-- The standing after a message, given whether an error was found before it. -/
def next (s : Standing) (found : Bool) (m : Message) : Standing :=
  match roleOf m with
  | .failure => s.fail m
  | .status topic => s.move found topic
  | _ => s

theorem move_of_ne (s : Standing) (found : Bool) {topic : Topic} (hsuccess : topic ≠ .success)
    (hfinished : topic ≠ .finished) : s.move found topic = s := by
  rw [move.eq_def]
  split
  · exact absurd rfl hsuccess
  · exact absurd rfl hfinished
  · rfl

end Standing

/-! ## Handlers that settle nothing -/

/-- What is left by a handler that has nothing to do with findings. -/
structure Keeps (g after : Gathered Run) : Prop where
  /-- The standing is what it was. -/
  standing : standing after = standing g
  /-- So are the findings. -/
  diagnostics : after.diagnostics = g.diagnostics
  /-- So are the anomalies. -/
  conditions : after.conditions = g.conditions
  /-- The module is the same. -/
  specPath : after.grammar.soFar.specPath = g.grammar.soFar.specPath
  /-- So is the analyzer's grammar. -/
  analyzer : after.grammar.analyzer = g.grammar.analyzer

theorem Keeps.refl (g : Gathered Run) : Keeps g g := ⟨rfl, rfl, rfl, rfl, rfl⟩

theorem Keeps.trans {g middle after : Gathered Run} (hfirst : Keeps g middle)
    (hlast : Keeps middle after) : Keeps g after :=
  ⟨hlast.standing.trans hfirst.standing, hlast.diagnostics.trans hfirst.diagnostics,
    hlast.conditions.trans hfirst.conditions, hlast.specPath.trans hfirst.specPath,
    hlast.analyzer.trans hfirst.analyzer⟩

theorem Keeps.gains {g after : Gathered Run} (h : Keeps g after) : Gathered.Gains g after [] [] :=
  Gathered.gains_of_eq h.diagnostics h.conditions

theorem gains_setAnalyzer (g : Gathered Run) (analyzer : Option Analyzer.Grammar) :
    Gathered.Gains g (setAnalyzer g analyzer) [] [] :=
  Gathered.gains_of_eq rfl rfl

theorem keeps_setDiameter (g : Gathered Run) (diameter : Nat) :
    Keeps g (setDiameter g diameter) :=
  ⟨rfl, rfl, rfl, rfl, rfl⟩

theorem keeps_onTraceState (g : Gathered Run) (m : Message) :
    Keeps g (onTraceState g m).1 := by
  rw [onTraceState.eq_def]
  split
  · exact .refl g
  next first rest _ =>
    split
    · exact .refl g
    next number title _ =>
      split
      · exact .refl g
      · exact ⟨rfl, rfl, rfl, rfl, rfl⟩

theorem keeps_onProgress (g : Gathered Run) (text : Text) : Keeps g (onProgress g text).1 := by
  rw [onProgress]
  split
  · exact .refl g
  next d _ =>
    split
    · exact .refl g
    next diameter _ =>
      have hdiameter := keeps_setDiameter g diameter
      simp only
      split
      · exact hdiameter
      · exact hdiameter.trans ⟨rfl, rfl, rfl, rfl, rfl⟩

theorem keeps_onStats (g : Gathered Run) (text : Text) : Keeps g (onStats g text).1 := by
  rw [onStats]
  split
  · exact .refl g
  next counters _ =>
    split
    · exact .refl g
    · exact ⟨rfl, rfl, rfl, rfl, rfl⟩

theorem keeps_onDepth (g : Gathered Run) (text : Text) : Keeps g (onDepth g text).1 := by
  rw [onDepth]
  split
  · exact .refl g
  next digits _ =>
    split
    · exact .refl g
    · exact keeps_setDiameter g _

theorem keeps_onCoverage (g : Gathered Run) (lines : List Text) :
    Keeps g (onCoverage g lines).1 := by
  induction lines generalizing g with
  | nil => exact .refl g
  | cons line rest ih =>
      rw [onCoverage]
      split
      · exact ih g
      next d _ =>
        split
        · exact .refl g
        · refine Keeps.trans ?_ (ih _)
          exact ⟨rfl, rfl, rfl, rfl, rfl⟩

/-- Only success and the end of the run settle anything. -/
theorem keeps_onStatus (g : Gathered Run) {topic : Topic} (text : Text)
    (hsuccess : topic ≠ .success) (hfinished : topic ≠ .finished) :
    Keeps g (onStatus g topic text).1 := by
  rw [onStatus.eq_def]
  split
  · exact ⟨rfl, rfl, rfl, rfl, rfl⟩
  · exact ⟨rfl, rfl, rfl, rfl, rfl⟩
  · exact ⟨rfl, rfl, rfl, rfl, rfl⟩
  · exact ⟨rfl, rfl, rfl, rfl, rfl⟩
  · exact ⟨rfl, rfl, rfl, rfl, rfl⟩
  · exact ⟨rfl, rfl, rfl, rfl, rfl⟩
  · exact absurd rfl hsuccess
  · exact keeps_onDepth g text
  · exact keeps_onProgress g text
  · exact keeps_onStats g text
  · exact keeps_onCoverage g (Text.lines text)
  · exact absurd rfl hfinished
  · exact .refl g

/-! ## Handlers that settle the outcome -/

theorem standing_settle (g : Gathered Run) (outcome : Outcome) :
    standing (update g (settle outcome)) = (standing g).settle outcome := by
  rw [Standing.settle]
  by_cases h : (standing g).outcome = .running
  · have hsettle : settle outcome g.grammar.soFar = { g.grammar.soFar with outcome } := if_pos h
    rw [if_pos h, standing, update, hsettle]
    rfl
  · have hsettle : settle outcome g.grammar.soFar = g.grammar.soFar := if_neg h
    rw [if_neg h, standing, update, hsettle]
    rfl

theorem standing_onFinished (g : Gathered Run) (text : Text) :
    standing (onFinished g text) =
      (standing g).settle ((standing g).terminal g.diagnostics.hasErrors) := by
  rw [onFinished]
  split
  · rw [standing_settle]
    rfl
  · rw [standing_settle]
    rfl

theorem gains_onFinished (g : Gathered Run) (text : Text) :
    Gathered.Gains g (onFinished g text) [] [] := by
  rw [onFinished]
  split
  · exact Gathered.gains_of_eq rfl rfl
  · exact Gathered.gains_of_eq rfl rfl

theorem standing_markToolBug (g : Gathered Run) (m : Message) :
    standing (markToolBug g m) =
      { standing g with toolBug := g.grammar.toolBug || m.subCode = some 2 } := by
  rw [markToolBug]
  split
  next h => simp only [standing, h, decide_true, Bool.or_true]
  next h => simp only [standing, h, decide_false, Bool.or_false]

/-- The locations of an error change nothing but the findings. -/
theorem reportAt_grammar (g : Gathered Run) (text : Text) (ds : List LocationDigits) :
    (reportAt g text ds).gathered.grammar = g.grammar ∧
      (reportAt g text ds).gathered.conditions = g.conditions := by
  induction ds generalizing g with
  | nil => exact ⟨rfl, rfl⟩
  | cons d rest ih =>
      rw [reportAt]
      split
      · exact ⟨rfl, rfl⟩
      · exact ih _

theorem gains_reportAt {g : Gathered Run} {text : Text} {ds : List LocationDigits}
    {events : List Event} (h : (reportAt g text ds).events = .ok events) :
    Gathered.Gains g (reportAt g text ds).gathered [] events := by
  induction ds generalizing g events with
  | nil =>
      cases h
      exact Gathered.gains_of_eq rfl rfl
  | cons d rest ih =>
      rw [reportAt] at h ⊢
      split at h
      · cases h
      next file range _ =>
        simp only
        obtain ⟨last, hlast, rfl⟩ := map_eq_ok_iff.mp h
        exact (Gathered.gains_addRecord tool g _).trans (ih hlast)

theorem findings_reportAt {g : Gathered Run} {text : Text} {ds : List LocationDigits}
    {events : List Event} (h : (reportAt g text ds).events = .ok events) :
    ∀ e ∈ events, e.IsFinding := by
  induction ds generalizing g events with
  | nil =>
      cases h
      exact fun e he => absurd he List.not_mem_nil
  | cons d rest ih =>
      rw [reportAt] at h
      split at h
      · cases h
      next file range _ =>
        obtain ⟨last, hlast, rfl⟩ := map_eq_ok_iff.mp h
        exact List.forall_mem_append.mpr ⟨Gathered.findings_addRecord tool g _, ih hlast⟩

theorem standing_onError (g : Gathered Run) (m : Message) :
    standing (onError (markToolBug g m) m).gathered = (standing g).fail m := by
  rw [onError, standing, (reportAt_grammar _ _ _).1]
  have hbug := standing_markToolBug g m
  simp only [standing, Standing.mk.injEq] at hbug
  obtain ⟨houtcome, herrors, htoolBug⟩ := hbug
  simp only [update, houtcome, herrors, htoolBug]
  rfl

theorem gains_onError {g : Gathered Run} {m : Message} {events : List Event}
    (h : (onError (markToolBug g m) m).events = .ok events) :
    Gathered.Gains g (onError (markToolBug g m) m).gathered [] events := by
  have hbug : Gathered.Gains g (markToolBug g m) [] [] := by
    rw [markToolBug]
    split
    · exact Gathered.gains_of_eq rfl rfl
    · exact Gathered.gains_of_eq rfl rfl
  have hupdate (f : CheckReport → CheckReport) :
      Gathered.Gains (markToolBug g m) (update (markToolBug g m) f) [] [] :=
    Gathered.gains_of_eq rfl rfl
  exact hbug.trans ((hupdate _).trans (gains_reportAt h))

/-- What a message that moves the phase or the counters makes of the standing. -/
theorem standing_onStatus (g : Gathered Run) (topic : Topic) (text : Text) :
    standing (onStatus g topic text).1 = (standing g).move g.diagnostics.hasErrors topic := by
  by_cases hsuccess : topic = .success
  · rw [hsuccess]
    have hsettle := standing_settle g .success
    exact hsettle
  · by_cases hfinished : topic = .finished
    · rw [hfinished]
      exact standing_onFinished g text
    · rw [Standing.move_of_ne _ _ hsuccess hfinished]
      exact (keeps_onStatus g text hsuccess hfinished).standing

theorem gains_onStatus (g : Gathered Run) (topic : Topic) (text : Text) :
    Gathered.Gains g (onStatus g topic text).1 [] [] := by
  by_cases hsuccess : topic = .success
  · rw [hsuccess]
    exact Gathered.gains_of_eq rfl rfl
  · by_cases hfinished : topic = .finished
    · rw [hfinished]
      exact gains_onFinished g text
    · exact (keeps_onStatus g text hsuccess hfinished).gains

/-! ## The analyzer's part -/

theorem gains_apply (g : Gathered Run) (result : Analyzer.LineResult) :
    Gathered.Gains g (apply g result).1 result.file.toList (apply g result).2 := by
  rw [apply]
  split
  next file hfile =>
    rw [hfile]
    exact (Gathered.gains_addFile g file).trans (Gathered.gains_addRecords tool _ _)
  next hfile =>
    rw [hfile]
    exact Gathered.gains_addRecords tool g _

theorem grammar_apply (g : Gathered Run) (result : Analyzer.LineResult) :
    (apply g result).1.grammar = g.grammar := by
  rw [apply]
  split
  next => exact Gathered.grammar_addRecords tool _ _
  next => exact Gathered.grammar_addRecords tool g _

theorem standing_apply (g : Gathered Run) (result : Analyzer.LineResult) :
    standing (apply g result).1 = standing g := by
  rw [standing, grammar_apply]
  rfl

theorem findings_apply (g : Gathered Run) (result : Analyzer.LineResult) :
    ∀ e ∈ (apply g result).2, e.IsFinding := by
  rw [apply]
  split
  next file _ => exact Gathered.findings_addRecords tool _ _
  next => exact Gathered.findings_addRecords tool g _

theorem findings_flushAnalyzer (g : Gathered Run) :
    ∀ e ∈ (flushAnalyzer g).2, e.IsFinding := by
  rw [flushAnalyzer]
  split
  next => exact fun e he => absurd he List.not_mem_nil
  next grammar _ => exact findings_apply _ _

theorem gains_flushAnalyzer (g : Gathered Run) :
    Gathered.Gains g (flushAnalyzer g).1 [] (flushAnalyzer g).2 := by
  rw [flushAnalyzer]
  split
  next => exact Gathered.gains_of_eq rfl rfl
  next grammar _ => exact (gains_setAnalyzer g _).trans (gains_apply _ _)

theorem standing_flushAnalyzer (g : Gathered Run) :
    standing (flushAnalyzer g).1 = standing g := by
  rw [flushAnalyzer]
  split
  next => rfl
  next grammar _ => exact standing_apply _ _

theorem standing_onLine (g : Gathered Run) (line : Text) :
    standing (onLine g line).gathered = standing g := by
  rw [onLine]
  split
  next => rfl
  next grammar _ =>
    simp only
    split
    next => rfl
    next result _ => exact standing_apply _ _

theorem findings_onLine {g : Gathered Run} {line : Text} {events : List Event}
    (h : (onLine g line).events = .ok events) : ∀ e ∈ events, e.IsFinding := by
  rw [onLine] at h
  split at h
  next =>
    cases h
    exact fun e he => absurd he List.not_mem_nil
  next grammar _ =>
    simp only at h
    split at h
    next => cases h
    next result _ =>
      cases h
      exact findings_apply _ result

/-- The files that are named where the decoder reads something. -/
def named (run : Run) : Item → List Text
  | .line line => (run.analyzer.bind (·.named? line)).toList
  | .message _ => []

theorem gains_onLine {g after : Gathered Run} {line : Text} {events : List Event}
    (h : onLine g line = ⟨after, .ok events⟩) :
    Gathered.Gains g after (named g.grammar (.line line)) events := by
  rw [onLine] at h
  split at h
  next hanalyzer =>
    cases h
    rw [named, hanalyzer]
    exact Gathered.gains_of_eq rfl rfl
  next grammar hanalyzer =>
    simp only at h
    split at h
    next => cases h
    next result hresult =>
      cases h
      rw [named, hanalyzer, Option.bind_some, Analyzer.Grammar.named?, hresult]
      exact (gains_setAnalyzer g _).trans (gains_apply _ result)

/-! ## Messages -/

/-- A message moves the standing by what it is and by whether an error was found. -/
theorem standing_dispatch (g : Gathered Run) (m : Message) :
    standing (dispatch g m).gathered = (standing g).next g.diagnostics.hasErrors m := by
  rw [dispatch_eq, Standing.next]
  cases roleOf m with
  | analyzerStart => rfl
  | analyzerEnd => exact standing_flushAnalyzer g
  | failure => exact standing_onError g m
  | warning => rfl
  | traceState => exact (keeps_onTraceState g m).standing
  | status topic => exact standing_onStatus g topic m.text

/-- The findings behind a message are those from before and those it announces. -/
theorem gains_dispatch {g : Gathered Run} {m : Message} {events : List Event}
    (h : (dispatch g m).events = .ok events) :
    Gathered.Gains g (dispatch g m).gathered [] events := by
  have hsilent {result : Gathered Run × Except Fault Unit}
      (hkeeps : Gathered.Gains g result.1 [] []) (hok : (silent result).events = .ok events) :
      Gathered.Gains g (silent result).gathered [] events := by
    obtain ⟨after, outcome⟩ := result
    cases outcome with
    | error fault => cases hok
    | ok _ =>
        cases hok
        exact hkeeps
  rw [dispatch_eq] at h ⊢
  cases hrole : roleOf m with
  | analyzerStart =>
      simp only [hrole] at h
      cases h
      exact Gathered.gains_of_eq rfl rfl
  | analyzerEnd =>
      simp only [hrole] at h
      cases h
      have hend (after : Gathered Run) : Gathered.Gains after
          (update (setAnalyzer after none) fun r => { r with phase := .parsed }) [] [] :=
        Gathered.gains_of_eq rfl rfl
      have hall := (gains_flushAnalyzer g).trans (hend _)
      rw [List.append_nil (flushAnalyzer g).2] at hall
      exact hall
  | failure =>
      simp only [hrole] at h
      exact gains_onError h
  | warning =>
      simp only [hrole] at h
      cases h
      exact Gathered.gains_of_eq rfl rfl
  | traceState =>
      simp only [hrole] at h
      exact hsilent (keeps_onTraceState g m).gains h
  | status topic =>
      simp only [hrole] at h
      exact hsilent (gains_onStatus g topic m.text) h

/-- A message tells of findings before its progress. -/
theorem findings_dispatch {g : Gathered Run} {m : Message} {events : List Event}
    (h : (dispatch g m).events = .ok events) : ∀ e ∈ events, e.IsFinding := by
  have hnone : ∀ e ∈ ([] : List Event), e.IsFinding := fun e he => absurd he List.not_mem_nil
  have hsilent {result : Gathered Run × Except Fault Unit}
      (hok : (silent result).events = .ok events) : ∀ e ∈ events, e.IsFinding := by
    obtain ⟨_, _, rfl⟩ := map_eq_ok_iff.mp hok
    exact hnone
  rw [dispatch_eq] at h
  cases hrole : roleOf m with
  | analyzerStart =>
      simp only [hrole] at h
      cases h
      exact hnone
  | analyzerEnd =>
      simp only [hrole] at h
      cases h
      exact findings_flushAnalyzer g
  | failure =>
      simp only [hrole] at h
      exact findings_reportAt h
  | warning =>
      simp only [hrole] at h
      cases h
      exact hnone
  | traceState =>
      simp only [hrole] at h
      exact hsilent h
  | status topic =>
      simp only [hrole] at h
      exact hsilent h

theorem standing_onMessage (g : Gathered Run) (m : Message) :
    standing (onMessage g m).gathered = (standing g).next g.diagnostics.hasErrors m :=
  standing_dispatch g m

theorem gains_onMessage {g after : Gathered Run} {m : Message} {events : List Event}
    (h : onMessage g m = ⟨after, .ok events⟩) : Gathered.Gains g after [] events := by
  obtain ⟨rfl, hevents⟩ := Step.mk.inj h
  obtain ⟨told, htold, rfl⟩ := map_eq_ok_iff.mp hevents
  have hprogress : Gathered.Gains (dispatch g m).gathered (dispatch g m).gathered []
      [.progress tool (detail m) (some (snapshot (dispatch g m).gathered))] :=
    Gathered.gains_of_silent rfl rfl rfl
  exact (gains_dispatch htold).trans hprogress

/-- The model checker's decoder announces what it adds. -/
theorem announces : decoder.Announces named :=
  ⟨gains_onLine, gains_onMessage, gains_flushAnalyzer⟩

end TlaRunner.Checker
