import TlaRunner.Decimal.Binary64
import TlaRunner.Text.Basic

/-!
# Shortest decimal form

A double is written with the fewest significant digits that read back as the
same double, and of those with the digits nearest to it.  For one digit, then
two, up to seventeen, the two neighbours of the value on the grid of that many
digits are tried in exact arithmetic.

Values from `0.0001` up to but not including `10^16` are written positionally,
whole ones with `.0`.  The others have an exponent with a sign and at least two
digits.
-/

namespace TlaRunner.Decimal

open Double (twoTo tenTo)

/-- A positive number `digits * 10 ^ exponent`. -/
structure Digits where
  /-- The significant digits. -/
  digits : Nat
  /-- The power of ten. -/
  exponent : Int
  deriving DecidableEq, Repr

namespace Digits

/-- The numbers that read back as `mantissa * 2 ^ exponent`, in quarters of the
unit: the lower and the upper bound.  Below a power of two the doubles lie twice
as close. -/
def bounds (mantissa : Nat) (exponent : Int) : Nat × Nat :=
  (if mantissa = twoTo 52 ∧ exponent > Double.leastExponent then 4 * mantissa - 1
    else 4 * mantissa - 2, 4 * mantissa + 2)

/-- The power of ten of the first digit of a positive double. -/
def magnitude (mantissa : Nat) (exponent : Int) : Int :=
  let shifted := mantissa * twoTo exponent * tenTo 400 / twoTo (-exponent)
  ((Text.ofNat shifted).length : Int) - 401

/-- The nearer of the two neighbours on a decimal grid that read back, if any. -/
def onGrid (mantissa : Nat) (exponent grid : Int) : Option Digits :=
  let unit := exponent - 2
  let ten := tenTo grid * twoTo (-unit)
  let two := tenTo (-grid) * twoTo unit
  let value := 4 * mantissa * two
  let low := (bounds mantissa exponent).1 * two
  let high := (bounds mantissa exponent).2 * two
  let readsBack (c : Nat) : Bool :=
    if mantissa % 2 = 0 then low ≤ c * ten && c * ten ≤ high
    else low < c * ten && c * ten < high
  let below := value / ten
  let down := value - below * ten
  let up := (below + 1) * ten - value
  let preferDown := down < up || (down == up && below % 2 == 0)
  match readsBack below && below ≠ 0, readsBack (below + 1) with
  | true, true => some ⟨if preferDown then below else below + 1, grid⟩
  | true, false => some ⟨below, grid⟩
  | false, true => some ⟨below + 1, grid⟩
  | false, false => none

/-- The shortest digits of a positive double. -/
def shortest (mantissa : Nat) (exponent : Int) : Digits :=
  let first := magnitude mantissa exponent
  ((List.range 17).findSome? fun (n : Nat) => onGrid mantissa exponent (first - n)).getD
    ⟨mantissa, exponent⟩

/-- A numeral without the zeros at its end. -/
def dropZeros (numeral : Text) : Text :=
  (numeral.reverse.dropWhile (· = '0')).reverse

/-- The exponent part of a number. -/
def exponentText (exponent : Int) : Text :=
  (if exponent < 0 then "e-".toList else "e+".toList)
    ++ Text.padLeft 2 '0' (Text.ofNat exponent.natAbs)

/-- Writes a positive number. -/
def toText (d : Digits) : Text :=
  let numeral := Text.ofNat d.digits
  let kept := dropZeros numeral
  let point : Int := numeral.length + d.exponent
  if -4 < point ∧ point ≤ 16 then
    if point ≤ 0 then "0.".toList ++ Text.repeated (-point).toNat '0' ++ kept
    else if point ≥ kept.length then
      kept ++ Text.repeated (point.toNat - kept.length) '0' ++ ".0".toList
    else kept.take point.toNat ++ '.' :: kept.drop point.toNat
  else
    match kept with
    | [c] => c :: exponentText (point - 1)
    | c :: rest => c :: '.' :: rest ++ exponentText (point - 1)
    | [] => []

end Digits

namespace Double

/-- The minus sign of a negative number. -/
def sign (negative : Bool) : Text :=
  if negative then ['-'] else []

/-- Writes a double. -/
def toText : Double → Text
  | .finite negative mantissa exponent =>
    sign negative ++
      if mantissa = 0 then "0.0".toList else (Digits.shortest mantissa exponent).toText
  | .infinite negative => sign negative ++ "inf".toList
  | .nan => "nan".toList

end Double

example : (Double.ofDecimal false 1 1 (-1)).toText = "0.1".toList := by decide +kernel

example : (Double.ofDecimal false 5 1 (-324)).toText = "5e-324".toList := by decide +kernel

end TlaRunner.Decimal
