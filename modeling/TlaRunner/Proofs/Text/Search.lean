import TlaRunner.Proofs.Text.Numeral
import TlaRunner.Proofs.Text.Scan

/-!
# Searching a text

A search tries a scanner at one place after the other.  It fails if the scanner fails at
all of them (`find_eq_none_iff`), and else it yields what the scanner reads at the first
place where it succeeds (`find_eq_some_iff`).  The longest run goes as far as there is a
place behind it where the scanner succeeds (`longest_append`).
-/

namespace TlaRunner.Text.Scan

variable {α : Type} {p : Scan α}

/-! ## Runs and numerals -/

/-- A run is read up to a word that starts with a character outside the class. -/
theorem some1_word {member : Char → Bool} {run word : Text} (hne : run ≠ [])
    (hrun : ∀ c ∈ run, member c = true) (hword : word.head?.map member = some false) (s : Text) :
    some1 member (run ++ (word ++ s)) = some (run, word ++ s) := by
  refine some1_append hne hrun fun c hc => ?_
  obtain ⟨first, hfirst, hother⟩ := Option.map_eq_some_iff.mp hword
  rw [List.head?_append, hfirst] at hc
  cases hc
  exact hother

/-- A numeral is read up to the next other character. -/
theorem digits_eq_some_iff {s run rest : Text} :
    digits s = some (run, rest) ↔ s = run ++ rest ∧ IsNumeral run ∧
      ∀ c ∈ rest.head?, isDigit c = false := by
  rw [digits, some1_eq_some_iff, IsNumeral, and_assoc]

/-- A numeral is read up to a word that starts with no digit. -/
theorem digits_word {run word : Text} (hrun : IsNumeral run)
    (hword : word.head?.map isDigit = some false) (s : Text) :
    digits (run ++ (word ++ s)) = some (run, word ++ s) :=
  some1_word hrun.1 hrun.2 hword s

/-! ## The first place -/

/-- Places where the scanner fails are passed over. -/
theorem find_append {run s : Text}
    (hearlier : ∀ front back, run = front ++ back → back ≠ [] → p (back ++ s) = none) :
    find p (run ++ s) = find p s := by
  induction run with
  | nil => rfl
  | cons c run ih =>
      have hhere : p (c :: (run ++ s)) = none := hearlier [] (c :: run) rfl (List.cons_ne_nil c run)
      rw [List.cons_append, find, hhere]
      exact ih fun front back hrun => hearlier (c :: front) back (by rw [hrun, List.cons_append])

theorem find_of_some {s rest : Text} {a : α} (h : p s = some (a, rest)) :
    find p s = some (a, rest) := by
  cases s with
  | nil => exact h
  | cons c s => rw [find, h]

theorem search_of_some {s rest : Text} {a : α} (h : p s = some (a, rest)) :
    search p s = some a := by
  rw [search, find_of_some h, Option.map_some]

/-- A search yields what is read at the first place where the scanner succeeds. -/
theorem find_eq_some_iff {s rest : Text} {a : α} :
    find p s = some (a, rest) ↔ ∃ run later, s = run ++ later ∧ p later = some (a, rest) ∧
      ∀ front back, run = front ++ back → back ≠ [] → p (back ++ later) = none := by
  constructor
  · intro h
    induction s with
    | nil => exact ⟨[], [], rfl, h, fun _ _ hrun hback =>
        absurd (List.append_eq_nil_iff.mp hrun.symm).2 hback⟩
    | cons c s ih =>
        rw [find] at h
        split at h
        next found hhere =>
          cases h
          exact ⟨[], c :: s, rfl, hhere, fun _ _ hrun hback =>
            absurd (List.append_eq_nil_iff.mp hrun.symm).2 hback⟩
        next hhere =>
          obtain ⟨run, later, rfl, hlater, hearlier⟩ := ih h
          refine ⟨c :: run, later, rfl, hlater, fun front back hrun hback => ?_⟩
          cases front with
          | nil =>
              rw [List.nil_append] at hrun
              rw [← hrun]
              exact hhere
          | cons d front => exact hearlier front back (List.cons.inj hrun).2 hback
  · rintro ⟨run, later, rfl, hlater, hearlier⟩
    rw [find_append hearlier, find_of_some hlater]

/-- A search fails if the scanner fails at every place. -/
theorem find_eq_none_iff {s : Text} : find p s = none ↔ ∀ part, part <:+ s → p part = none := by
  constructor
  · intro h part hpart
    induction s with
    | nil =>
        rw [List.suffix_nil.mp hpart]
        exact h
    | cons c s ih =>
        rw [find] at h
        split at h
        next => cases h
        next hhere =>
          rcases List.suffix_cons_iff.mp hpart with rfl | hlater
          · exact hhere
          · exact ih h hlater
  · intro h
    cases hfind : find p s with
    | none => rfl
    | some found =>
        obtain ⟨run, later, rfl, hlater, -⟩ := find_eq_some_iff.mp hfind
        rw [h later (List.suffix_append run later)] at hlater
        cases hlater

/-! ## The longest run -/

/-- There is no run behind which the scanner succeeds if there is no such place. -/
theorem longest_eq_none {s : Text} (least : Nat) (h : ∀ part, part <:+ s → p part = none) :
    longest p least s = none := by
  have hnone (s : Text) (h : p s = none) (least : Nat) : afterNone least p s = none := by
    rw [afterNone, h, Option.map_none, ite_self]
  induction s generalizing least with
  | nil => exact hnone [] (h [] (List.suffix_refl [])) least
  | cons c s ih =>
      have hlater := ih (least - 1) fun part hpart => h part (hpart.trans (List.suffix_cons c s))
      rw [longest, hlater, Option.map_none, ite_self]
      exact hnone (c :: s) (h _ (List.suffix_refl _)) least

/-- The longest run ends where the scanner succeeds, if it does at no later place. -/
theorem longest_append {run s rest : Text} {a : α} {least : Nat} (hbreak : '\n' ∉ run)
    (hleast : least ≤ run.length) (h : p s = some (a, rest))
    (hlater : ∀ part, part <:+ s → part ≠ s → p part = none) :
    longest p least (run ++ s) = some ((run, a), rest) := by
  induction run generalizing least with
  | nil =>
      obtain rfl := Nat.le_zero.mp hleast
      rw [List.nil_append]
      cases s with
      | nil => rw [longest, afterNone_zero, h, Option.map_some]
      | cons c s =>
          have hnone : longest p (0 - 1) s = none := longest_eq_none _ fun part hpart =>
            hlater part (hpart.trans (List.suffix_cons c s)) fun heq =>
              absurd (heq ▸ hpart).length_le (by simp)
          rw [longest, hnone, Option.map_none, ite_self]
          simp only [afterNone_zero, h, Option.map_some]
  | cons c run ih =>
      obtain ⟨hc, hbreak⟩ := not_or.mp (mt List.mem_cons.mpr hbreak)
      have hrest := @ih (least - 1) hbreak (by rw [List.length_cons] at hleast; omega)
      rw [List.cons_append, longest, if_neg (Ne.symm hc), hrest]
      rfl

end TlaRunner.Text.Scan
