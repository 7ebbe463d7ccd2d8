/-!
# Binary floating point

A double is a signed multiple of a power of two, an infinity, or no number.
Finite values are kept as an exact mantissa and exponent, so that comparison and
printing are arithmetic on integers.  `ofRatio` rounds a quotient to the nearest
double, a tie to the even mantissa, and everything beyond the largest one to
infinity.

Every finite value has one form: the mantissa is below 2^53, the exponent is at
least -1074, and the mantissa is at least 2^52 unless the exponent is -1074.
-/

namespace TlaRunner.Decimal

/-- A floating-point number of 64 bits. -/
inductive Double
  /-- `± mantissa * 2 ^ exponent`. -/
  | finite (negative : Bool) (mantissa : Nat) (exponent : Int)
  /-- An infinity. -/
  | infinite (negative : Bool)
  /-- No number. -/
  | nan
  deriving DecidableEq, Repr

namespace Double

/-- The smallest exponent. -/
def leastExponent : Int := -1074

/-- The largest exponent. -/
def greatestExponent : Int := 971

/-- Zero, with a sign. -/
def zero (negative : Bool) : Double :=
  .finite negative 0 leastExponent

/-- A power of two; a negative exponent counts as zero. -/
def twoTo (exponent : Int) : Nat :=
  Nat.pow 2 exponent.toNat

/-- A power of ten; a negative exponent counts as zero. -/
def tenTo (exponent : Int) : Nat :=
  Nat.pow 10 exponent.toNat

/-- A quotient rounded to the nearest integer, a tie to the even one. -/
def roundDiv (num den : Nat) : Nat :=
  let quotient := num / den
  let twice := 2 * (num % den)
  if twice < den then quotient
  else if twice = den then quotient + quotient % 2
  else quotient + 1

/-- A quotient divided by a power of two, as a numerator and a denominator. -/
def scaled (num den : Nat) (exponent : Int) : Nat × Nat :=
  (num * twoTo (-exponent), den * twoTo exponent)

/-- The exponent under which a positive quotient has 53 bits, but never less than
the smallest. -/
def exponentOf (num den : Nat) : Int :=
  let guess : Int := (num.log2 : Int) - den.log2 - 53
  let parts := scaled num den guess
  max leastExponent (if parts.1 / parts.2 < twoTo 53 then guess else guess + 1)

/-- The double nearest to a quotient with a positive denominator. -/
def ofRatio (negative : Bool) (num den : Nat) : Double :=
  if num = 0 then zero negative
  else
    let exponent := exponentOf num den
    let parts := scaled num den exponent
    let mantissa := roundDiv parts.1 parts.2
    let normal := if mantissa = twoTo 53 then (twoTo 52, exponent + 1) else (mantissa, exponent)
    if normal.2 > greatestExponent then .infinite negative
    else .finite negative normal.1 normal.2

/-- The double nearest to an integer. -/
def ofInt (n : Int) : Double :=
  ofRatio (n < 0) n.natAbs 1

/-- The double nearest to `± digits * 10 ^ exponent`, where `digits` has at most
`width` digits.  Exponents far outside the range are settled without the power. -/
def ofDecimal (negative : Bool) (digits width : Nat) (exponent : Int) : Double :=
  if digits = 0 then zero negative
  else if exponent > 400 then .infinite negative
  else if exponent + width < -400 then zero negative
  else ofRatio negative (digits * tenTo exponent) (tenTo (-exponent))

/-- Whether a number is zero or more; no number is not. -/
def isNonnegative : Double → Bool
  | .finite negative mantissa _ => !negative || mantissa = 0
  | .infinite negative => !negative
  | .nan => false

/-- Whether a number is above zero. -/
def isPositive : Double → Bool
  | .finite negative mantissa _ => !negative && mantissa ≠ 0
  | .infinite negative => !negative
  | .nan => false

/-- The integer a double is equal to, if there is one. -/
def toInt? : Double → Option Int
  | .finite negative mantissa exponent =>
    let size := mantissa * twoTo exponent
    let unit := twoTo (-exponent)
    if size % unit = 0 then some (if negative then -(size / unit : Nat) else (size / unit : Nat))
    else none
  | _ => none

/-- Whether a number is neither infinite nor missing. -/
def isFinite : Double → Bool
  | .finite .. => true
  | _ => false

/-- Whether a duration in seconds is at least a number of milliseconds. -/
def secondsReach (milliseconds : Nat) : Double → Bool
  | .finite negative mantissa exponent =>
    milliseconds = 0 || (!negative &&
      milliseconds * twoTo (-exponent) ≤ 1000 * mantissa * twoTo exponent)
  | .infinite negative => !negative
  | .nan => false

end Double

end TlaRunner.Decimal
