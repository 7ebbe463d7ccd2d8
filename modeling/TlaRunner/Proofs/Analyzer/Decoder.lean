import TlaRunner.Analyzer.Decoder
import TlaRunner.Proofs.Protocol.Findings

/-!
# What the analyzer's decoder gathers

Lines and messages are read by one grammar, so a message is its lines
(`gains_onLines`), and the decoder announces each finding that it adds (`announces`).
The files that it enters besides are those that lines name (`named`).
-/

namespace TlaRunner.Analyzer

open Protocol (Gathered Step Event Item)

/-- The file that a line names. -/
def Grammar.named? (grammar : Grammar) (line : Text) : Option Text :=
  match (grammar.feed line).2 with
  | .ok result => result.file
  | .error _ => none

/-- The files that lines name, in order. -/
def Grammar.filesIn (grammar : Grammar) : List Text → List Text
  | [] => []
  | line :: rest => (grammar.named? line).toList ++ (grammar.feed line).1.filesIn rest

/-- The files that are named where the decoder reads something. -/
def named (grammar : Grammar) : Item → List Text
  | .line line => (grammar.named? line).toList
  | .message m => grammar.filesIn m.lines

/-- Setting the grammar leaves the findings alone. -/
theorem gains_grammar (g : Gathered Grammar) (grammar : Grammar) :
    Gathered.Gains g { g with grammar } [] [] :=
  Gathered.gains_of_eq rfl rfl

/-- The progress of a line announces nothing. -/
theorem gains_progress (g : Gathered Grammar) (detail : Option Text) :
    Gathered.Gains g g [] (detail.toList.map fun detail => Event.progress tool detail none) := by
  cases detail with
  | none => exact Gathered.gains_of_silent rfl rfl rfl
  | some detail => exact Gathered.gains_of_silent rfl rfl rfl

theorem gains_apply (g : Gathered Grammar) (result : LineResult) :
    Gathered.Gains g (apply g result).1 result.file.toList (apply g result).2 := by
  have hrecords (g : Gathered Grammar) :=
    (gains_progress g result.progress).trans (Gathered.gains_addRecords tool g result.records)
  cases hfile : result.file with
  | none =>
      simp only [apply, hfile]
      exact hrecords g
  | some file =>
      simp only [apply, hfile]
      exact (Gathered.gains_addFile g file).trans (hrecords _)

theorem grammar_apply (g : Gathered Grammar) (result : LineResult) :
    (apply g result).1.grammar = g.grammar := by
  simp only [apply, Gathered.grammar_addRecords]
  cases result.file with
  | none => rfl
  | some file => rfl

theorem gains_onLine {g after : Gathered Grammar} {line : Text} {events : List Event}
    (h : onLine g line = ⟨after, .ok events⟩) :
    Gathered.Gains g after (g.grammar.named? line).toList events := by
  rw [onLine] at h
  simp only at h
  split at h
  next => cases h
  next result hresult =>
    cases h
    rw [Grammar.named?, hresult]
    exact (gains_grammar g _).trans (gains_apply _ result)

/-- A line that was read leaves the grammar behind it. -/
theorem grammar_onLine {g after : Gathered Grammar} {line : Text} {events : List Event}
    (h : onLine g line = ⟨after, .ok events⟩) : after.grammar = (g.grammar.feed line).1 := by
  rw [onLine] at h
  simp only at h
  split at h
  next => cases h
  next result _ =>
    cases h
    exact grammar_apply _ result

theorem gains_onLines {g after : Gathered Grammar} {lines : List Text} {events : List Event}
    (h : onLines g lines = ⟨after, .ok events⟩) :
    Gathered.Gains g after (g.grammar.filesIn lines) events := by
  induction lines generalizing g events with
  | nil =>
      cases h
      exact Gathered.gains_of_eq rfl rfl
  | cons line rest ih =>
      rw [onLines] at h
      rcases hhere : onLine g line with ⟨middle, result⟩
      rw [hhere] at h
      cases result with
      | error fault => cases h
      | ok first =>
          obtain ⟨rfl, hevents⟩ := Step.mk.inj h
          obtain ⟨last, hlast, rfl⟩ := map_eq_ok_iff.mp hevents
          refine (gains_onLine hhere).trans ?_
          rw [← grammar_onLine hhere]
          refine ih ?_
          rw [← hlast]

theorem gains_onEnd (g : Gathered Grammar) : Gathered.Gains g (onEnd g).1 [] (onEnd g).2 :=
  (gains_grammar g _).trans (gains_apply _ _)

/-- The analyzer's decoder announces what it adds. -/
theorem announces : decoder.Announces named :=
  ⟨gains_onLine, gains_onLines, gains_onEnd⟩

end TlaRunner.Analyzer
