import Mathlib.Data.List.TakeWhile
import TlaRunner.Text.Numeral

/-!
# Reading numerals

A numeral is read exactly if it is within the limit (`readNat_of_length_le`,
`readNat_of_limit_lt`), and the numeral of a number is read as that number
(`digitsValue_ofNat`).
-/

namespace TlaRunner.Text

/-- A nonempty run of decimal digits of any script. -/
def IsNumeral (s : Text) : Prop :=
  s ≠ [] ∧ ∀ c ∈ s, isDigit c = true

/-- No other character stands in a numeral. -/
theorem IsNumeral.not_mem {s : Text} (h : IsNumeral s) {c : Char} (hc : isDigit c = false) :
    c ∉ s := by
  intro hmem
  rw [h.2 c hmem] at hc
  cases hc

/-! ## Reading -/

theorem takeWhile_isDigit {s : Text} (h : IsNumeral s) : s.takeWhile isDigit = s :=
  List.takeWhile_eq_self_iff.mpr h.2

/-- A numeral within the limit has a value. -/
theorem readNat_of_length_le {s : Text} (h : IsNumeral s) (hlen : s.length ≤ digitLimit) :
    readNat s = .ok (digitsValue s) := by
  have hempty : s.isEmpty = false := by
    cases s with
    | nil => exact absurd rfl h.1
    | cons c s => rfl
  simp only [readNat, takeWhile_isDigit h]
  rw [if_neg (by omega), hempty, if_neg (by simp)]

/-- A numeral past the limit is refused. -/
theorem readNat_of_limit_lt {s : Text} (h : IsNumeral s) (hlen : digitLimit < s.length) :
    readNat s = .error (.tooLong s.length) := by
  simp only [readNat, takeWhile_isDigit h]
  rw [if_pos hlen]

/-! ## Numerals of numbers -/

theorem digitValue_of_ascii {c : Char} (h : c.isDigit = true) :
    digitValue c = some (c.toNat - '0'.toNat) := by
  have hc : '0'.toNat ≤ c.toNat ∧ c.toNat ≤ '9'.toNat := Char.isDigit_iff_toNat.mp h
  have hfirst : (decide (0x0030 ≤ c.toNat) && decide (c.toNat < 0x0030 + 10)) = true := by
    have h9 : '9'.toNat = 57 := rfl
    have h0 : '0'.toNat = 48 := rfl
    rw [Bool.and_eq_true, decide_eq_true_eq, decide_eq_true_eq]
    omega
  have hfind : (digitZeros.find? fun first => first ≤ c.toNat && c.toNat < first + 10) =
      some 0x0030 := List.find?_cons_of_pos hfirst
  rw [digitValue, hfind]
  rfl

theorem isDigit_of_mem_ofNat {n : Nat} {c : Char} (h : c ∈ ofNat n) : c.isDigit = true :=
  Nat.isDigit_of_mem_toDigits (by omega) (by omega) h

/-- The numeral of a number is a numeral. -/
theorem isNumeral_ofNat (n : Nat) : IsNumeral (ofNat n) := by
  refine ⟨Nat.toDigits_ne_nil, fun c hc => ?_⟩
  rw [isDigit, digitValue_of_ascii (isDigit_of_mem_ofNat hc)]
  rfl

/-- ASCII digits have the value they have in the standard library. -/
theorem foldl_digitValue (s : Text) (hs : ∀ c ∈ s, c.isDigit = true) (value : Nat) :
    s.foldl (fun value c => 10 * value + (digitValue c).getD 0) value =
      Nat.ofDigitChars 10 s value := by
  induction s generalizing value with
  | nil => rfl
  | cons c s ih =>
      have hc := digitValue_of_ascii (hs c List.mem_cons_self)
      rw [List.foldl_cons, Nat.ofDigitChars_cons, hc]
      exact ih (fun d hd => hs d (List.mem_cons_of_mem _ hd)) _

theorem digitsValue_ofNat (n : Nat) : digitsValue (ofNat n) = n := by
  rw [digitsValue, foldl_digitValue _ (fun _ => isDigit_of_mem_ofNat)]
  exact Nat.ofDigitChars_ten_toDigits

end TlaRunner.Text
