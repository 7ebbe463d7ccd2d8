import TlaRunner.Analyzer.Grammar
import TlaRunner.Proofs.Protocol.Marker

/-!
# The analyzer's grammar reads every short line

The only numbers on a line are those of a location or of a place, and each of them is a
numeral that stands in the line (`within_location`, `within_point`).  So no line within
the limit of numerals is refused (`Grammar.feed_ok`).

The lines that belong to no finding are taken apart once, in `Grammar.onOther_cases`.
-/

namespace TlaRunner.Analyzer

open Text (Scan IsNumeralIn)

variable {t : Text}

/-- The digits of a location are numerals. -/
theorem within_location : Scan.Within t location fun d =>
    IsNumeralIn t d.line ∧ IsNumeralIn t d.column ∧ IsNumeralIn t d.endLine ∧
      IsNumeralIn t d.endColumn := by
  refine (Scan.within_literal _).bind fun _ _ => Scan.within_digits.bind fun line hline => ?_
  refine (Scan.within_literal _).bind fun _ _ => Scan.within_digits.bind fun column hcolumn => ?_
  refine (Scan.within_literal _).bind fun _ _ => Scan.within_digits.bind fun endLine hendLine => ?_
  refine (Scan.within_literal _).bind fun _ _ =>
    Scan.within_digits.bind fun endColumn hendColumn => ?_
  refine (Scan.within_literal _).bind fun _ _ => (Scan.within_some1 _).bind fun _ _ => ?_
  exact Scan.within_pure ⟨hline, hcolumn, hendLine, hendColumn⟩

/-- The digits of a place are numerals. -/
theorem within_point (lead : Text) : Scan.Within t (point lead) fun digits =>
    IsNumeralIn t digits.1 ∧ IsNumeralIn t digits.2 := by
  refine (Scan.within_literal _).bind fun _ _ => Scan.within_digits.bind fun line hline => ?_
  refine (Scan.within_literal _).bind fun _ _ => Scan.within_digits.bind fun column hcolumn => ?_
  exact Scan.within_pure ⟨hline, hcolumn⟩

namespace Grammar

variable (g : Grammar)

theorem onLocation_ok (ht : Text.Narrow t) {d : LocationDigits}
    (h : IsNumeralIn t d.line ∧ IsNumeralIn t d.column ∧ IsNumeralIn t d.endLine ∧
      IsNumeralIn t d.endColumn) : ∃ result, (g.onLocation d).2 = .ok result := by
  obtain ⟨hline, hcolumn, hendLine, hendColumn⟩ := h
  simp only [onLocation, readRange, Protocol.readNumber_of_numeralIn ht hline,
    Protocol.readNumber_of_numeralIn ht hcolumn, Protocol.readNumber_of_numeralIn ht hendLine,
    Protocol.readNumber_of_numeralIn ht hendColumn]
  exact ⟨_, rfl⟩

theorem onPlace_ok (ht : Text.Narrow t) {digits : Text × Text}
    (h : IsNumeralIn t digits.1 ∧ IsNumeralIn t digits.2) (file stripped : Text) :
    ∃ result, (g.onPlace file digits stripped).2 = .ok result := by
  simp only [onPlace, readPoint, Protocol.readNumber_of_numeralIn ht h.1,
    Protocol.readNumber_of_numeralIn ht h.2]
  exact ⟨_, rfl⟩

/-- A line that belongs to no finding has the place of a lexical error in a known file, or it
is read without a record.  No finding is started or ended. -/
theorem onOther_cases (stripped : Text) :
    (∃ digits file, Scan.front (point lexicalLead) stripped = some digits ∧
      g.currentFile = some file ∧ g.onOther stripped = g.onPlace file digits stripped) ∨
    ∃ after result, g.onOther stripped = (after, .ok result) ∧ result.records = [] ∧
      after.pending = g.pending := by
  rw [onOther]
  split
  next => exact Or.inr ⟨_, _, rfl, rfl, rfl⟩
  next =>
    split
    next digits file hdigits hfile => exact Or.inl ⟨digits, file, hdigits, hfile, rfl⟩
    next =>
      split
      next => exact Or.inr ⟨_, _, rfl, rfl, rfl⟩
      next =>
        split
        next => exact Or.inr ⟨_, _, rfl, rfl, rfl⟩
        next =>
          split
          next => exact Or.inr ⟨_, _, rfl, rfl, rfl⟩
          next =>
            split
            next => exact Or.inr ⟨_, _, rfl, rfl, rfl⟩
            next => exact Or.inr ⟨_, _, rfl, rfl, rfl⟩

theorem onOther_ok {stripped : Text} (ht : Text.Narrow stripped) :
    ∃ result, (g.onOther stripped).2 = .ok result := by
  rcases g.onOther_cases stripped with
    ⟨digits, file, hdigits, -, hplace⟩ | ⟨after, result, hread, -, -⟩
  · rw [hplace]
    exact g.onPlace_ok ht ((within_point _).front (List.infix_refl _) hdigits) file stripped
  · rw [hread]
    exact ⟨result, rfl⟩

/-- A line within the limit of numerals is read. -/
theorem feed_ok {line : Text} (hline : line.length ≤ Text.digitLimit) :
    ∃ result, (g.feed line).2 = .ok result := by
  have ht : Text.Narrow (Text.strip line) :=
    (Text.narrow_of_length_le hline).of_isInfix (Text.isInfix_strip line)
  have hwhole : Text.strip line <:+: Text.strip line := List.infix_refl _
  simp only [feed]
  split
  next digits hdigits => exact g.onLocation_ok ht (within_location.front hwhole hdigits)
  next =>
    split
    next => exact ⟨_, rfl⟩
    next =>
      split
      next =>
        split
        next digits file hdigits _ =>
          exact onPlace_ok _ ht ((within_point _).search hwhole hdigits) file _
        next => exact ⟨_, rfl⟩
      next => exact g.onOther_ok ht

/-- Whether lines are all read. -/
def Reads (g : Grammar) : List Text → Prop
  | [] => True
  | line :: rest => (∃ result, (g.feed line).2 = .ok result) ∧ (g.feed line).1.Reads rest

/-- Lines within the limit of numerals are read. -/
theorem reads_of_short {lines : List Text} (h : ∀ line ∈ lines, line.length ≤ Text.digitLimit) :
    g.Reads lines := by
  induction lines generalizing g with
  | nil => trivial
  | cons line rest ih =>
      rw [List.forall_mem_cons] at h
      exact ⟨g.feed_ok h.1, ih _ h.2⟩

end Grammar

end TlaRunner.Analyzer
