import TlaRunner.Text.Digit
import TlaRunner.Text.Quoted

/-!
# Decimal numerals

A numeral is a run of decimal digits of any script, leading zeros included.  A
numeral of more than `digitLimit` digits is refused, which bounds the work that
a line of tool output can ask for.  A text that is no numeral is refused as a whole.
-/

namespace TlaRunner.Text

/-- The largest number of digits a numeral may have. -/
def digitLimit : Nat := 4300

/-- Why a numeral has no value. -/
inductive NumeralError
  /-- It has more digits than the limit. -/
  | tooLong (digits : Nat)
  /-- It has no digits, or other characters behind them. -/
  | malformed (s : Text)
  deriving DecidableEq, Repr

/-- How much of a malformed numeral a message shows, the quotes included. -/
def shownLength : Nat := 200

/-- The wording of a refused numeral. -/
def NumeralError.message : NumeralError → Text
  | .tooLong digits =>
    "Exceeds the limit (".toList ++ ofNat digitLimit
      ++ " digits) for integer string conversion: value has ".toList ++ ofNat digits
      ++ " digits; use sys.set_int_max_str_digits() to increase the limit".toList
  | .malformed s =>
    "invalid literal for int() with base 10: ".toList ++ (quoted s).take shownLength

/-- The value of a run of digits, read from the left.  A character that is no
digit counts as zero. -/
def digitsValue (digits : Text) : Nat :=
  digits.foldl (fun value c => 10 * value + (digitValue c).getD 0) 0

/-- Reads a numeral. -/
def readNat (s : Text) : Except NumeralError Nat :=
  let digits := s.takeWhile isDigit
  if digits.length > digitLimit then .error (.tooLong digits.length)
  else if digits.isEmpty || digits.length < s.length then .error (.malformed s)
  else .ok (digitsValue digits)

/-- Reads a counter, in which commas may separate groups of digits. -/
def readCount (s : Text) : Except NumeralError Nat :=
  readNat (s.filter (· ≠ ','))

/-- Separates the groups of three digits of a numeral by commas, from the right. -/
def groupThousands (digits : Text) : Text :=
  let rec go : Nat → Text → Text
    | _, [] => []
    | 0, c :: s => ',' :: c :: go 2 s
    | n + 1, c :: s => c :: go n s
  (go 3 digits.reverse).reverse

/-- A counter with commas between groups of three digits. -/
def ofCount (n : Nat) : Text :=
  groupThousands (ofNat n)

example : ofCount 1234567 = "1,234,567".toList := by decide

example : (readCount "1,234,567").toOption = some 1234567 := by decide

example : (readCount ",").toOption = none := by decide

end TlaRunner.Text
