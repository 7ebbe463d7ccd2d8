import TlaRunner.Settings.Value
import TlaRunner.Text.Blank
import TlaRunner.Text.Numeral

/-!
# Checking values

A checker turns a value of no particular type into a value of one type, or says
what is wrong with it.  Checking is lenient: a number may be written as text, a
switch as a number or a word, and a whole floating-point number counts as an
integer.

`Issue` is a complaint about one place.  A check of several fields collects the
issues of all of them, in the order of the fields.
-/

namespace TlaRunner

open Decimal (Double)

/-- What is wrong with a value. -/
inductive Complaint
  | missing
  | intType
  | intParsing
  | intParsingSize
  | intFromFloat
  | finiteNumber
  | greaterThanEqual
  | stringType
  | boolType
  | boolParsing
  | floatType
  | floatParsing
  | pathType
  | listType
  | tableType
  | extraForbidden
  | modelType
  | notInEnum
  | noSuchAttribute
  deriving DecidableEq, Repr

/-- The name of a complaint. -/
def Complaint.name : Complaint → Text
  | missing => "missing".toList
  | intType => "int_type".toList
  | intParsing => "int_parsing".toList
  | intParsingSize => "int_parsing_size".toList
  | intFromFloat => "int_from_float".toList
  | finiteNumber => "finite_number".toList
  | greaterThanEqual => "greater_than_equal".toList
  | stringType => "string_type".toList
  | boolType => "bool_type".toList
  | boolParsing => "bool_parsing".toList
  | floatType => "float_type".toList
  | floatParsing => "float_parsing".toList
  | pathType => "path_type".toList
  | listType => "tuple_type".toList
  | tableType => "dict_type".toList
  | extraForbidden => "extra_forbidden".toList
  | modelType => "model_type".toList
  | notInEnum => "enum".toList
  | noSuchAttribute => "no_such_attribute".toList

/-- A complaint about the value at a place. -/
structure Issue where
  /-- The keys and indices that lead to the value. -/
  place : List Text
  /-- The complaint. -/
  complaint : Complaint
  deriving DecidableEq, Repr

/-- The place of an issue as one text. -/
def Issue.location (i : Issue) : Text :=
  Text.join ['.'] i.place

/-- The result of a check. -/
abbrev Checked (α : Type) := Except (List Issue) α

namespace Checked

/-- A complaint about the value itself. -/
def complain {α : Type} (complaint : Complaint) : Checked α :=
  .error [⟨[], complaint⟩]

/-- Moves the issues of a check below a key. -/
def below {α : Type} (key : Text) (c : Checked α) : Checked α :=
  c.mapError fun issues => issues.map fun i => { i with place := key :: i.place }

/-- The issues of a check. -/
def issues {α : Type} : Checked α → List Issue
  | .ok _ => []
  | .error issues => issues

/-- Joins two checks; the issues of both are kept. -/
def both {α β : Type} (a : Checked α) (b : Checked β) : Checked (α × β) :=
  match a, b with
  | .ok x, .ok y => .ok (x, y)
  | a, b => .error (a.issues ++ b.issues)

/-- Checks the elements of a list, each below its index. -/
def each {α β : Type} (check : α → Checked β) (index : Nat) : List α → Checked (List β)
  | [] => .ok []
  | a :: rest =>
    ((below (Text.ofNat index) (check a)).both (each check (index + 1) rest)).map
      fun found => found.1 :: found.2

end Checked

namespace Value

/-- Whether a blank may stand around a number in text. -/
def isNumberBlank (c : Char) : Bool :=
  Text.isBlank c && !(0x1C ≤ c.toNat && c.toNat ≤ 0x1F)

/-- A text without the blanks around a number. -/
def trimNumber (s : Text) : Text :=
  ((s.dropWhile isNumberBlank).reverse.dropWhile isNumberBlank).reverse

/-- A text without the underscores inside it, if each stands alone between other
characters. -/
def dropUnderscores (s : Text) : Option Text :=
  if Text.startsWith ['_'] s || Text.endsWith ['_'] s || Text.occursIn ['_', '_'] s then none
  else some (s.filter (· ≠ '_'))

/-- A sign and the text behind it. -/
def splitSign : Text → Bool × Text
  | '-' :: s => (true, s)
  | '+' :: s => (false, s)
  | s => (false, s)

/-! ### Integers -/

/-- Whether a character is a digit other than zero. -/
def isLeadingDigit (c : Char) : Bool :=
  c.isDigit && c ≠ '0'

/-- Reads an integer in its plain form: digits without zeros in front, with a minus sign
before them if it is negative.  Too many digits are refused, whatever follows them; there
is no integer if the text has another form. -/
def plainInt (s : Text) : Checked (Option Int) :=
  let (negative, body) := match s with
    | '-' :: body => (true, body)
    | body => (false, body)
  let digits := body.takeWhile Char.isDigit
  let signed (n : Nat) : Int := if negative then -(n : Int) else n
  match body with
  | ['0'] => .ok (some 0)
  | c :: _ =>
    if !isLeadingDigit c then .ok none
    else if digits.length + (if negative then 1 else 0) > Text.digitLimit then
      Checked.complain .intParsingSize
    else if digits.length = body.length then .ok (some (signed (Text.digitsValue digits)))
    else .ok none
  | [] => .ok none

/-- The rest of a text behind zeros and underscores.  The last of these is kept where
nothing or a point follows. -/
def dropZerosAfter (last : Char) : Text → Option Text
  | [] => some [last]
  | c :: s =>
    if c = '0' || c = '_' then dropZerosAfter c s
    else if isLeadingDigit c || c = '-' then some (c :: s)
    else if c = '.' then some (last :: c :: s)
    else none

/-- A numeral without the zeros at its front. -/
def dropZeros : Text → Option Text
  | [] => none
  | c :: s =>
    if c = '0' then dropZerosAfter c s
    else if isLeadingDigit c || c = '-' then some (c :: s)
    else none

/-- A numeral without a point and the zeros behind it. -/
def dropFraction (s : Text) : Option Text :=
  match s.dropWhile (· ≠ '.') with
  | [] => some s
  | _ :: tail => if !tail.isEmpty && tail.all (· = '0') then some (s.takeWhile (· ≠ '.')) else none

/-- A numeral in its plain form: without zeros in front, underscores between its digits,
and zeros behind a point. -/
def tidyNumeral (s : Text) : Option Text := do
  dropUnderscores (← dropFraction (← dropZeros s))

/-- The plain form of an integer written with more freedom: with blanks around it and a sign
before its numeral.  A plus sign is left out, and no minus sign follows it. -/
def tidyInt (s : Text) : Option Text :=
  match trimNumber s with
  | '+' :: '-' :: _ => none
  | '+' :: s => tidyNumeral s
  | '-' :: s => (tidyNumeral s).map ('-' :: ·)
  | s => tidyNumeral s

/-- Reads an integer written as text. -/
def intOfText (s : Text) : Checked Int := do
  if let some n ← plainInt s then return n
  match (tidyInt s).map plainInt with
  | some (.ok (some n)) => return n
  | _ => Checked.complain .intParsing

/-- A word of 64 bits holds the integers from the negative of this bound up to but
not including it. -/
def wordBound : Int := 0x8000000000000000

/-- The integer a double stands for. -/
def intOfDouble (x : Double) : Checked Int :=
  if !x.isFinite then Checked.complain .finiteNumber
  else
    match x.toInt? with
    | none => Checked.complain .intFromFloat
    | some n =>
      if -wordBound < n ∧ n < wordBound then .ok n else Checked.complain .intParsingSize

/-- Checks for an integer. -/
def asInt : Value → Checked Int
  | .int n => .ok n
  | .bool b => .ok (if b then 1 else 0)
  | .float x => intOfDouble x
  | .text s => intOfText s
  | _ => Checked.complain .intType

/-- Checks for an integer that is not negative. -/
def asNat (v : Value) : Checked Nat :=
  v.asInt.bind fun n => if n < 0 then Checked.complain .greaterThanEqual else .ok n.toNat

/-- Checks for text. -/
def asText : Value → Checked Text
  | .text s => .ok s
  | _ => Checked.complain .stringType

/-- Checks for a path. -/
def asPath : Value → Checked Path
  | .text s => .ok (Path.ofText s)
  | .path p => .ok p
  | _ => Checked.complain .pathType

/-- The words that switch something on. -/
def onWords : List Text :=
  ["1".toList, "on".toList, "t".toList, "true".toList, "y".toList, "yes".toList]

/-- The words that switch something off. -/
def offWords : List Text :=
  ["0".toList, "off".toList, "f".toList, "false".toList, "n".toList, "no".toList]

/-- Reads a switch written as a number. -/
def boolOfInt (n : Int) : Checked Bool :=
  if n = 0 then .ok false else if n = 1 then .ok true else Checked.complain .boolParsing

/-- Checks for a switch. -/
def asBool : Value → Checked Bool
  | .bool b => .ok b
  | .text s =>
    let word := Text.lower s
    if onWords.contains word then .ok true
    else if offWords.contains word then .ok false
    else Checked.complain .boolParsing
  | .int n =>
    if -wordBound ≤ n ∧ n < wordBound then boolOfInt n else Checked.complain .boolType
  | .float x =>
    match intOfDouble x with
    | .ok n => boolOfInt n
    | .error _ => Checked.complain .boolType
  | _ => Checked.complain .boolType

/-- The digits of a decimal number in text: before the point, behind it, and the
exponent. -/
def splitNumber (s : Text) : Option (Text × Text × Int) :=
  let mantissa := s.takeWhile fun c => c ≠ 'e' && c ≠ 'E'
  let whole := mantissa.takeWhile (· ≠ '.')
  let fraction := (mantissa.dropWhile (· ≠ '.')).drop 1
  let digits := whole ++ fraction
  if digits.isEmpty || !digits.all Char.isDigit then none
  else
    match s.drop mantissa.length with
    | [] => some (whole, fraction, 0)
    | _ :: tail =>
      let (negative, digits) := splitSign tail
      if digits.isEmpty || !digits.all Char.isDigit then none
      else
        let size : Int := Text.digitsValue digits
        some (whole, fraction, if negative then -size else size)

/-- The double nearest to a decimal number in text. -/
def doubleOfDecimal (negative : Bool) (s : Text) : Option Double :=
  (splitNumber s).map fun (whole, fraction, exponent) =>
    let digits := whole ++ fraction
    .ofDecimal negative (Text.digitsValue digits) digits.length (exponent - fraction.length)

/-- Reads a number written as text, without blanks around it. -/
def doubleOfWord (s : Text) : Option Double :=
  let (negative, body) := splitSign s
  let word := Text.lower body
  if word = "inf".toList ∨ word = "infinity".toList then some (.infinite negative)
  else if word = "nan".toList then some .nan
  else doubleOfDecimal negative body

/-- Reads a number written as text.  Underscores may stand between digits. -/
def doubleOfText (s : Text) : Option Double :=
  (doubleOfWord (trimNumber s)).orElse fun _ => (dropUnderscores s).bind doubleOfWord

/-- Checks for a number. -/
def asDouble : Value → Checked Double
  | .float x => .ok x
  | .bool b => .ok (.ofInt (if b then 1 else 0))
  | .int n => if (Double.ofInt n).isFinite then .ok (.ofInt n) else Checked.complain .floatType
  | .text s =>
    match doubleOfText s with
    | some x => .ok x
    | none => Checked.complain .floatParsing
  | _ => Checked.complain .floatType

/-- Checks for a number that is not below zero. -/
def asNonnegative (v : Value) : Checked Double :=
  v.asDouble.bind fun x => if x.isNonnegative then .ok x else Checked.complain .greaterThanEqual

/-- Checks for one of several names. -/
def asName {α : Type} (ofName? : Text → Option α) : Value → Checked α
  | .text s =>
    match ofName? s with
    | some a => .ok a
    | none => Checked.complain .notInEnum
  | _ => Checked.complain .notInEnum

/-- Checks for a list. -/
def asList {α : Type} (check : Value → Checked α) : Value → Checked (List α)
  | .list items => Checked.each check 0 items
  | _ => Checked.complain .listType

/-- Checks for a value that may be missing. -/
def asOption {α : Type} (check : Value → Checked α) : Value → Checked (Option α)
  | .null => .ok none
  | v => (check v).map some

/-- Checks for a table. -/
def asTable : Value → Checked Table
  | .table entries => .ok entries
  | _ => Checked.complain .modelType

/-- Checks a field that has to be there. -/
def Table.field {α : Type} (t : Table) (key : Text) (check : Value → Checked α) : Checked α :=
  Checked.below key <|
    match t.get? key with
    | some v => check v
    | none => Checked.complain .missing

/-- Checks a field that has a default. -/
def Table.fieldOr {α : Type} (t : Table) (key : Text) (check : Value → Checked α) (default : α) :
    Checked α :=
  match t.get? key with
  | some v => Checked.below key (check v)
  | none => .ok default

end Value

end TlaRunner
