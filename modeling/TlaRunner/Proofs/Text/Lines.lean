import TlaRunner.Proofs.Text.Numeral
import TlaRunner.Text.Lines
import TlaRunner.Text.Word

/-!
# Lines of joined texts

Texts that are joined by line feeds have the lines that they have one by one, but for
empty ones (`filled_join`): a carriage return at the end of a text and the line feed
behind it are one break, and a break at the very end starts no line.
-/

namespace TlaRunner.Text

/-- A text without a break. -/
def IsUnbroken (s : Text) : Prop :=
  ∀ c ∈ s, isLineBreak c = false

instance (s : Text) : Decidable (IsUnbroken s) :=
  decidable_of_iff (s.any isLineBreak = false) (by simp [IsUnbroken])

theorem IsUnbroken.append {s t : Text} (hs : IsUnbroken s) (ht : IsUnbroken t) :
    IsUnbroken (s ++ t) :=
  List.forall_mem_append.mpr ⟨hs, ht⟩

/-- A text without a break is a line. -/
theorem linesFrom_of_unbroken {s : Text} (h : IsUnbroken s) (held : Text) :
    linesFrom held false s = if (held.reverse ++ s).isEmpty then [] else [held.reverse ++ s] := by
  induction s generalizing held with
  | nil =>
      rw [linesFrom, List.append_nil, List.isEmpty_reverse]
  | cons c s ih =>
      rw [IsUnbroken, List.forall_mem_cons] at h
      rw [linesFrom, Bool.false_and, if_neg Bool.false_ne_true, h.1, if_neg Bool.false_ne_true,
        ih h.2, List.reverse_cons, List.append_assoc, List.singleton_append]

theorem lines_of_unbroken {s : Text} (h : IsUnbroken s) (hne : s ≠ []) :
    lines s = [s] := by
  rw [lines, linesFrom_of_unbroken h, List.reverse_nil, List.nil_append,
    if_neg (by simpa using hne)]

/-- The lines of a text that are not empty. -/
def filled (s : Text) : List Text :=
  (lines s).filter (· ≠ [])

theorem filter_linesFrom_append {held s rest : Text} {afterReturn : Bool}
    (h : afterReturn = true → held = []) :
    (linesFrom held afterReturn (s ++ '\n' :: rest)).filter (· ≠ []) =
      (linesFrom held afterReturn s).filter (· ≠ []) ++ filled rest := by
  have hheld (held : Text) : (held.reverse :: linesFrom [] false rest).filter (· ≠ []) =
      (linesFrom held false []).filter (· ≠ []) ++ filled rest := by
    rw [linesFrom, filled, lines]
    cases held with
    | nil => rfl
    | cons c held => simp
  induction s generalizing held afterReturn with
  | nil =>
      rw [List.nil_append, linesFrom]
      cases afterReturn with
      | true =>
          rw [h rfl]
          rfl
      | false => exact hheld held
  | cons c s ih =>
      rw [List.cons_append, linesFrom, linesFrom]
      split
      · exact ih fun _ => rfl
      · split
        · rw [List.filter_cons, List.filter_cons, ih fun _ => rfl]
          split
          · rfl
          · rfl
        · exact ih fun hreturn => by cases hreturn

/-- Joined texts have their own lines, but for empty ones. -/
theorem filled_join (parts : List Text) : filled (join ['\n'] parts) = parts.flatMap filled := by
  induction parts with
  | nil => rfl
  | cons part rest ih =>
      cases rest with
      | nil => rw [join, List.intercalate_singleton, List.flatMap_singleton]
      | cons next rest =>
          rw [join, List.intercalate_cons_cons, ← join, List.append_assoc, List.singleton_append,
            List.flatMap_cons, ← ih]
          exact filter_linesFrom_append fun hreturn => by cases hreturn

/-- A word character breaks no line. -/
theorem isLineBreak_of_isWord {c : Char} (h : isWord c = true) : isLineBreak c = false := by
  refine Bool.eq_false_iff.mpr fun hbreak => ?_
  have hcode : c.toNat ∈ [0x0A, 0x0B, 0x0C, 0x0D, 0x1C, 0x1D, 0x1E, 0x85, 0x2028, 0x2029] := by
    simp only [isLineBreak, Bool.or_eq_true, Bool.and_eq_true, decide_eq_true_eq, beq_iff_eq]
      at hbreak
    simp only [List.mem_cons, List.not_mem_nil, or_false]
    omega
  have hnone : ∀ code ∈ [0x0A, 0x0B, 0x0C, 0x0D, 0x1C, 0x1D, 0x1E, 0x85, 0x2028, 0x2029],
      inRanges code wordRanges = false := by decide +kernel
  rw [isWord, hnone c.toNat hcode] at h
  cases h

theorem isUnbroken_ofNat (n : Nat) : IsUnbroken (ofNat n) := by
  intro c h
  have hcode := Char.isDigit_iff_toNat.mp (isDigit_of_mem_ofNat h)
  have h0 : '0'.toNat = 48 := rfl
  have h9 : '9'.toNat = 57 := rfl
  rw [h0, h9] at hcode
  refine Bool.eq_false_iff.mpr fun hbreak => ?_
  simp only [isLineBreak, Bool.or_eq_true, Bool.and_eq_true, decide_eq_true_eq, beq_iff_eq]
    at hbreak
  omega

end TlaRunner.Text
