import TlaRunner.Proofs.Protocol.Findings
import TlaRunner.Transpiler.Decoder

/-!
# What the transpiler's decoder gathers

Whatever part of the decoder reads a line, it announces each finding that it adds
(`announces`).
-/

namespace TlaRunner.Transpiler

open Protocol (Gathered Event)

/-- Setting the state leaves the findings alone. -/
theorem gains_set (g : Gathered State) (state : State) : Gathered.Gains g (set g state) [] [] :=
  Gathered.gains_of_eq rfl rfl

/-- Progress announces nothing. -/
theorem gains_progress (g : Gathered State) (detail : Text) :
    Gathered.Gains g g [] (progress detail) :=
  Gathered.gains_of_silent rfl rfl rfl

section

variable {g after : Gathered State} {events : List Event} {text line : Text}

theorem gains_report {range : Range} {severity : Severity}
    (h : report g text range severity = ⟨after, .ok events⟩) :
    Gathered.Gains g after [] events := by
  cases h
  exact Gathered.gains_addRecord tool g _

theorem gains_reportAt {digits : Text × Text}
    (h : reportAt g text digits = ⟨after, .ok events⟩) : Gathered.Gains g after [] events := by
  rw [reportAt] at h
  split at h
  · exact gains_report h
  · cases h
  · cases h

theorem gains_flush (h : flush g = ⟨after, .ok events⟩) : Gathered.Gains g after [] events := by
  rw [flush] at h
  split at h
  · cases h
    exact Gathered.gains_of_eq rfl rfl
  · exact (gains_set g _).trans (gains_report h)

theorem gains_onErrorText (h : onErrorText g text = ⟨after, .ok events⟩) :
    Gathered.Gains g after [] events := by
  rw [onErrorText] at h
  split at h
  · cases h
    exact gains_progress g _
  · split at h
    · exact gains_reportAt h
    · cases h
      exact gains_set g _

theorem gains_onPending (h : onPending g text line = ⟨after, .ok events⟩) :
    Gathered.Gains g after [] events := by
  rw [onPending] at h
  split at h
  · exact (gains_set g _).trans (gains_reportAt h)
  · split at h
    · cases h
      exact Gathered.gains_of_eq rfl rfl
    · exact gains_flush h

theorem gains_onOther (h : onOther g line = ⟨after, .ok events⟩) :
    Gathered.Gains g after [] events := by
  rw [onOther] at h
  split at h
  · exact gains_report h
  · simp only at h
    split at h
    · cases h
      exact gains_progress g _
    · cases h
      exact Gathered.gains_of_eq rfl rfl

theorem gains_onLine (h : onLine g line = ⟨after, .ok events⟩) :
    Gathered.Gains g after [] events := by
  rw [onLine] at h
  split at h
  · rcases hflush : flush g with ⟨middle, result⟩
    rw [hflush] at h
    cases h
    have hset := (gains_flush hflush).trans
      (gains_set middle { middle.grammar with awaitingText := true })
    rw [List.append_nil events] at hset
    exact hset
  · split at h
    · exact (gains_set g _).trans (gains_onErrorText h)
    · split at h
      · exact gains_onPending h
      · exact gains_onOther h

end

theorem gains_onEnd (g : Gathered State) : Gathered.Gains g (onEnd g).1 [] (onEnd g).2 := by
  rw [onEnd]
  split
  · exact Gathered.gains_of_eq rfl rfl
  · exact (gains_set g _).trans (Gathered.gains_addRecord tool _ _)

/-- The transpiler's decoder announces what it adds, and names no file. -/
theorem announces : decoder.Announces fun _ _ => [] := by
  refine ⟨gains_onLine, fun h => ?_, gains_onEnd⟩
  cases h
  exact gains_progress _ _

end TlaRunner.Transpiler
