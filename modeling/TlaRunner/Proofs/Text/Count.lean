import TlaRunner.Proofs.Text.Numeral

/-!
# Reading counters

A counter is spelled by its numeral with commas put into it, but for the end (`Spells`).
The numeral itself spells it, and so does the numeral with its groups of three digits
separated.  Each spelling is read as the number (`readCount_of_spells`).
-/

namespace TlaRunner.Text

/-- Whether a text spells a number, with commas or without. -/
structure Spells (run : Text) (n : Nat) : Prop where
  /-- Without the commas it is the numeral. -/
  plain : run.filter (· ≠ ',') = ofNat n
  /-- It does not end in a comma. -/
  last : ',' ∉ run.getLast?

theorem comma_not_mem_ofNat (n : Nat) : ',' ∉ ofNat n :=
  (isNumeral_ofNat n).not_mem (by decide)

namespace Spells

variable {run : Text} {n : Nat}

theorem ne_nil (h : Spells run n) : run ≠ [] := by
  intro hnil
  have hplain := h.plain
  rw [hnil, List.filter_nil] at hplain
  exact (isNumeral_ofNat n).1 hplain.symm

/-- There is nothing but digits and commas in it. -/
theorem isDigit_or_comma (h : Spells run n) {c : Char} (hc : c ∈ run) :
    isDigit c = true ∨ c = ',' := by
  by_cases hcomma : c = ','
  · exact Or.inr hcomma
  · have hmem : c ∈ ofNat n := h.plain ▸ List.mem_filter.mpr ⟨hc, by simpa using hcomma⟩
    exact Or.inl ((isNumeral_ofNat n).2 c hmem)

theorem not_mem (h : Spells run n) {c : Char} (hdigit : isDigit c = false) (hcomma : c ≠ ',') :
    c ∉ run := by
  intro hmem
  rcases h.isDigit_or_comma hmem with hc | hc
  · rw [hdigit] at hc
    cases hc
  · exact hcomma hc

end Spells

/-! ## Spellings -/

theorem spells_ofNat (n : Nat) : Spells (ofNat n) n := by
  refine ⟨List.filter_eq_self.mpr fun c hc => ?_, fun hlast => ?_⟩
  · have hcomma : c ≠ ',' := fun heq => comma_not_mem_ofNat n (heq ▸ hc)
    simpa using hcomma
  · exact comma_not_mem_ofNat n (List.mem_of_mem_getLast? hlast)

theorem filter_go (n : Nat) (s : Text) :
    (groupThousands.go n s).filter (· ≠ ',') = s.filter (· ≠ ',') := by
  induction s generalizing n with
  | nil => rw [groupThousands.go.eq_def]
  | cons c s ih =>
      cases n with
      | zero => rw [groupThousands.go, List.filter_cons_of_neg (by simp), List.filter_cons, ih,
          List.filter_cons]
      | succ n => rw [groupThousands.go, List.filter_cons, ih, List.filter_cons]

theorem spells_ofCount (n : Nat) : Spells (ofCount n) n := by
  constructor
  · rw [ofCount, groupThousands, List.filter_reverse, filter_go, ← List.filter_reverse,
      List.reverse_reverse]
    exact (spells_ofNat n).plain
  · -- The last digit is never behind a full group.
    have hfirst : ∀ s : Text, (groupThousands.go 3 s).head? = s.head? := fun s => by
      cases s with
      | nil => rfl
      | cons c s => rfl
    rw [ofCount, groupThousands, List.getLast?_reverse, hfirst, List.head?_reverse]
    exact (spells_ofNat n).last

/-! ## Reading -/

/-- A number within the limit is read from each spelling. -/
theorem readCount_of_spells {run : Text} {n : Nat} (h : Spells run n)
    (hlen : (ofNat n).length ≤ digitLimit) : readCount run = .ok n := by
  rw [readCount, h.plain, readNat_of_length_le (isNumeral_ofNat n) hlen, digitsValue_ofNat]

end TlaRunner.Text
