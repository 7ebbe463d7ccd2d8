import TlaRunner.Proofs.Text.Search
import TlaRunner.Proofs.Text.Within
import TlaRunner.Transpiler.Decoder

/-!
# Places in texts of the transpiler

A place is written as a line and a column.  A text names one if it stands anywhere in it
(`NamesPlace`), and the place that is read is the one that starts first, with its column
as far as it goes (`FirstPlace`).  The search for a place finds exactly this
(`search_place_eq_none_iff`, `search_place_eq_some_iff`).
-/

namespace TlaRunner.Transpiler

open Text (Scan IsNumeral)
open Text.Scan (digits_eq_some_iff digits_word)

/-- A place as it is written. -/
def placeText (line column : Text) : Text :=
  "line ".toList ++ (line ++ (", column ".toList ++ column))

example : placeText "3".toList "14".toList = "line 3, column 14".toList := by decide

/-- Whether a place is written at the front of a text. -/
def StartsPlace (s : Text) : Prop :=
  ∃ line column, IsNumeral line ∧ IsNumeral column ∧ placeText line column <+: s

/-- Whether a place is written anywhere in a text. -/
def NamesPlace (s : Text) : Prop :=
  ∃ line column, IsNumeral line ∧ IsNumeral column ∧ placeText line column <:+: s

/-- The first place that is written in a text. -/
structure FirstPlace (s line column : Text) : Prop where
  /-- Its line is a number. -/
  isLine : IsNumeral line
  /-- So is its column. -/
  isColumn : IsNumeral column
  /-- It is written there up to the end of the column, and no place starts before it. -/
  written : ∃ before after, s = before ++ (placeText line column ++ after) ∧
    (∀ c ∈ after.head?, Text.isDigit c = false) ∧
    ∀ front back, before = front ++ back → back ≠ [] →
      ¬StartsPlace (back ++ (placeText line column ++ after))

variable {s rest line column : Text}

/-! ## Reading at the front -/

theorem placeText_append : placeText line column ++ rest =
    "line ".toList ++ (line ++ (", column ".toList ++ (column ++ rest))) := by
  unfold placeText
  simp only [List.append_assoc]

/-- The places that are read are those that are written, up to the end of the column. -/
theorem place_eq_some_iff : place s = some ((line, column), rest) ↔
    s = placeText line column ++ rest ∧ IsNumeral line ∧ IsNumeral column ∧
      ∀ c ∈ rest.head?, Text.isDigit c = false := by
  constructor
  · intro h
    simp only [place, Scan.bind_eq_some] at h
    obtain ⟨_, _, hlead, _, _, hline, _, _, hcomma, _, _, hcolumn, hpure⟩ := h
    cases hpure
    obtain rfl := Scan.literal_eq_some hlead
    obtain ⟨rfl, isLine, -⟩ := digits_eq_some_iff.mp hline
    obtain rfl := Scan.literal_eq_some hcomma
    obtain ⟨rfl, isColumn, hrest⟩ := digits_eq_some_iff.mp hcolumn
    exact ⟨placeText_append.symm, isLine, isColumn, hrest⟩
  · rintro ⟨rfl, isLine, isColumn, hrest⟩
    have hcolumn : Scan.digits (column ++ rest) = some (column, rest) :=
      digits_eq_some_iff.mpr ⟨rfl, isColumn, hrest⟩
    rw [placeText_append]
    simp only [place, Scan.bind_apply, Scan.literal_append, Option.bind_some]
    rw [digits_word isLine (by decide)]
    simp only [Scan.literal_append, Option.bind_some, hcolumn]
    rfl

/-- A place is read wherever one is written. -/
theorem place_eq_none_iff : place s = none ↔ ¬StartsPlace s := by
  constructor
  · rintro hnone ⟨line, column, isLine, isColumn, rest, rfl⟩
    -- The column that is read may be longer.
    have hread : place (placeText line column ++ rest) =
        some ((line, column ++ rest.takeWhile Text.isDigit), rest.dropWhile Text.isDigit) := by
      refine place_eq_some_iff.mpr ⟨?_, isLine, ⟨?_, ?_⟩, fun c hc => ?_⟩
      · rw [placeText_append, placeText_append, List.append_assoc, List.takeWhile_append_dropWhile]
      · exact List.append_ne_nil_of_left_ne_nil isColumn.1 _
      · exact List.forall_mem_append.mpr ⟨isColumn.2, fun c hc => List.mem_takeWhile_imp hc⟩
      · have hstop := List.head?_dropWhile_not Text.isDigit rest
        rw [Option.mem_def.mp hc] at hstop
        exact hstop
    rw [hread] at hnone
    cases hnone
  · intro hstarts
    refine Option.eq_none_iff_forall_ne_some.mpr fun found hfound => hstarts ?_
    obtain ⟨⟨line, column⟩, rest⟩ := found
    obtain ⟨rfl, isLine, isColumn, -⟩ := place_eq_some_iff.mp hfound
    exact ⟨line, column, isLine, isColumn, List.prefix_append _ _⟩

/-! ## Reading anywhere -/

theorem namesPlace_iff : NamesPlace s ↔ ∃ part, part <:+ s ∧ StartsPlace part := by
  constructor
  · rintro ⟨line, column, isLine, isColumn, hinfix⟩
    obtain ⟨part, hprefix, hsuffix⟩ := List.infix_iff_prefix_suffix.mp hinfix
    exact ⟨part, hsuffix, line, column, isLine, isColumn, hprefix⟩
  · rintro ⟨part, hsuffix, line, column, isLine, isColumn, hprefix⟩
    exact ⟨line, column, isLine, isColumn, List.infix_iff_prefix_suffix.mpr
      ⟨part, hprefix, hsuffix⟩⟩

/-- No place is found in a text that names none. -/
theorem search_place_eq_none_iff : Scan.search place s = none ↔ ¬NamesPlace s := by
  rw [Scan.search, Option.map_eq_none_iff, Scan.find_eq_none_iff, namesPlace_iff]
  simp only [place_eq_none_iff, not_exists, not_and]

/-- The place that is found is the first one. -/
theorem search_place_eq_some_iff :
    Scan.search place s = some (line, column) ↔ FirstPlace s line column := by
  rw [Scan.search, Option.map_eq_some_iff]
  constructor
  · rintro ⟨⟨_, rest⟩, hfind, rfl⟩
    obtain ⟨before, later, rfl, hplace, hearlier⟩ := Scan.find_eq_some_iff.mp hfind
    obtain ⟨rfl, isLine, isColumn, hrest⟩ := place_eq_some_iff.mp hplace
    exact ⟨isLine, isColumn, before, rest, rfl, hrest, fun front back hsplit hback =>
      place_eq_none_iff.mp (hearlier front back hsplit hback)⟩
  · rintro ⟨isLine, isColumn, before, rest, rfl, hrest, hearlier⟩
    refine ⟨((line, column), rest), Scan.find_eq_some_iff.mpr ⟨before, _, rfl, ?_, ?_⟩, rfl⟩
    · exact place_eq_some_iff.mpr ⟨rfl, isLine, isColumn, hrest⟩
    · exact fun front back hsplit hback => place_eq_none_iff.mpr (hearlier front back hsplit hback)

instance : Decidable (NamesPlace s) :=
  decidable_of_iff ((Scan.search place s).isSome) (by
    rw [← not_iff_not, Bool.not_eq_true, Option.isSome_eq_false_iff, Option.isNone_iff_eq_none,
      search_place_eq_none_iff])

instance : Decidable (FirstPlace s line column) :=
  decidable_of_iff _ search_place_eq_some_iff

/-- Nothing is written between blanks. -/
theorem not_namesPlace_of_blank (h : ∀ c ∈ s, Text.isBlank c = true) : ¬NamesPlace s := by
  rintro ⟨line, column, -, -, hinfix⟩
  have hmem : 'l' ∈ s := hinfix.subset (by simp [placeText])
  have hblank := h 'l' hmem
  revert hblank
  decide

end TlaRunner.Transpiler
