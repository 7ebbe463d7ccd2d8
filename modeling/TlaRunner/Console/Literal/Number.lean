import TlaRunner.Text.Numeral

/-!
# Numbers in expressions

A number is written in one of four bases or as a decimal fraction, and a `j` behind it
makes it imaginary.  Single underscores may stand between its digits, and behind the
letter of a base.  Only a decimal zero may start with a zero.

A number ends where no more of it follows.  A letter there is an error, unless it begins
one of a few words, of which the shortest ones need not end there.
-/

namespace TlaRunner.Console.Literal

/-- The kinds of numbers, by the words that messages use for them. -/
inductive NumberKind
  | hexadecimal | octal | binary | decimal | imaginary
  deriving DecidableEq, Repr

/-- The word for a kind of numbers. -/
def NumberKind.name : NumberKind → Text
  | hexadecimal => "hexadecimal".toList
  | octal => "octal".toList
  | binary => "binary".toList
  | decimal => "decimal".toList
  | imaginary => "imaginary".toList

/-- The base of a kind of numbers. -/
def NumberKind.base : NumberKind → Nat
  | hexadecimal => 16
  | octal => 8
  | binary => 2
  | decimal | imaginary => 10

/-- Why a number is refused. -/
inductive NumberFault
  /-- It is no number of its kind. -/
  | malformed (kind : NumberKind)
  /-- Its base has no such digit. -/
  | digit (c : Char) (kind : NumberKind)
  /-- It starts with a zero. -/
  | leadingZeros
  deriving DecidableEq, Repr

/-- The wording of a refused number. -/
def NumberFault.message : NumberFault → Text
  | malformed kind => "invalid ".toList ++ kind.name ++ " literal".toList
  | digit c kind =>
    "invalid digit '".toList ++ c :: "' in ".toList ++ kind.name ++ " literal".toList
  | leadingZeros =>
    "leading zeros in decimal integer literals are not permitted; ".toList
      ++ "use an 0o prefix for octal integers".toList

/-- What is left of a text behind a number. -/
abbrev Behind := Except NumberFault Text

/-- Whether a character is a letter, a digit or an underscore of ASCII. -/
def isPlainWord (c : Char) : Bool :=
  c.isAlphanum || c = '_'

/-- Whether a character is read as a part of a name, rightly or not. -/
def isWordUnit (c : Char) : Bool :=
  isPlainWord c || 128 ≤ c.toNat

/-- The words that may follow a number without a space. -/
def looseWords : List Text :=
  ["and".toList, "else".toList, "for".toList, "or".toList, "not".toList]

/-- The beginnings of more text that may follow a number without a space. -/
def looseLetters : List Text :=
  ["if".toList, "in".toList, "is".toList]

/-- Ends a number. -/
def endOf (kind : NumberKind) (s : Text) : Behind :=
  match s with
  | [] => .ok []
  | c :: _ =>
    if isPlainWord c && !looseWords.contains (s.takeWhile isWordUnit)
        && !looseLetters.any (Text.startsWith · s) then .error (.malformed kind)
    else .ok s

/-- Where the digits of a number in another base than ten stand. -/
inductive DigitPlace
  /-- Behind the letter of the base. -/
  | first
  /-- Behind an underscore. -/
  | parted
  /-- Behind a digit. -/
  | later
  deriving DecidableEq, Repr

/-- Passes over digits of a base. -/
def digitsOf (kind : NumberKind) (place : DigitPlace) : Text → Behind
  | [] => if place = .later then .ok [] else .error (.malformed kind)
  | c :: s =>
    if (Text.hexValue c).any (· < kind.base) then digitsOf kind .later s
    else if c = '_' ∧ place ≠ .parted then digitsOf kind .parted s
    else if c.isDigit ∧ kind ≠ .hexadecimal then .error (.digit c kind)
    else if place = .later then endOf kind (c :: s)
    else .error (.malformed kind)

/-- Passes over decimal digits behind a first one. -/
def moreDigits : Text → Behind
  | [] => .ok []
  | '_' :: c :: s => if c.isDigit then moreDigits s else .error (.malformed .decimal)
  | c :: s =>
    if c.isDigit then moreDigits s
    else if c = '_' then .error (.malformed .decimal)
    else .ok (c :: s)

/-- Passes over what may follow the digits of a decimal number. -/
def afterDigits : Text → Behind
  | 'j' :: s | 'J' :: s => endOf .imaginary s
  | s => endOf .decimal s

/-- Passes over an exponent, if there is one. -/
def exponent (s : Text) : Behind :=
  match s with
  | [] => .ok []
  | e :: rest =>
    if e = 'e' ∨ e = 'E' then
      match rest with
      | c :: d :: rest =>
        if c = '+' ∨ c = '-' then
          if d.isDigit then do afterDigits (← moreDigits rest) else .error (.malformed .decimal)
        else if c.isDigit then do afterDigits (← moreDigits (d :: rest))
        else endOf .decimal s
      | [c] =>
        if c = '+' ∨ c = '-' then .error (.malformed .decimal)
        else if c.isDigit then .ok []
        else endOf .decimal s
      | [] => endOf .decimal s
    else afterDigits s

/-- Passes over a fraction behind its point. -/
def fraction : Text → Behind
  | c :: s => if c.isDigit then do exponent (← moreDigits s) else exponent (c :: s)
  | [] => .ok []

/-- Passes over zeros behind a first one. -/
def moreZeros : Text → Behind
  | '0' :: s => moreZeros s
  | '_' :: c :: s =>
    if c = '0' then moreZeros s
    else if c.isDigit then .ok (c :: s)
    else .error (.malformed .decimal)
  | ['_'] => .error (.malformed .decimal)
  | s => .ok s

/-- Passes over a decimal number that starts with a zero, behind this one. -/
def afterZero (s : Text) : Behind := do
  let s ← moreZeros s
  let digits := s.head?.any (·.isDigit)
  match ← (if digits then moreDigits s else .ok s) with
  | '.' :: s => fraction s
  | c :: s =>
    if c = 'e' ∨ c = 'E' ∨ c = 'j' ∨ c = 'J' then exponent (c :: s)
    else if digits then .error .leadingZeros
    else endOf .decimal (c :: s)
  | [] => if digits then .error .leadingZeros else .ok []

/-- Whether a number stands at the front of a text. -/
def startsNumber : Text → Bool
  | '.' :: c :: _ => c.isDigit
  | c :: _ => c.isDigit
  | [] => false

/-- The kind of numbers that a letter behind a zero stands for. -/
def NumberKind.ofLetter? (c : Char) : Option NumberKind :=
  if c = 'x' ∨ c = 'X' then some hexadecimal
  else if c = 'o' ∨ c = 'O' then some octal
  else if c = 'b' ∨ c = 'B' then some binary
  else none

/-- Passes over the number at the front of a text. -/
def number : Text → Behind
  | '.' :: s => fraction s
  | '0' :: s =>
    match s with
    | c :: rest =>
      match NumberKind.ofLetter? c with
      | some kind => digitsOf kind .first rest
      | none => afterZero s
    | [] => .ok []
  | s => do
    match ← moreDigits s with
    | '.' :: s => fraction s
    | s => exponent s

/-! ## Values -/

/-- What a number is worth, as far as sums depend on it. -/
inductive Number
  | whole (value : Nat)
  | real
  | imaginary
  deriving DecidableEq, Repr

/-- Reads a number as it is written. -/
def Number.ofText (s : Text) : Except Text.NumeralError Number :=
  let digits := s.filter (· ≠ '_')
  match digits with
  | '0' :: c :: rest =>
    match NumberKind.ofLetter? c with
    | some kind =>
      .ok (.whole (rest.foldl (fun n d => kind.base * n + (Text.hexValue d).getD 0) 0))
    | none => ofDecimal digits
  | _ => ofDecimal digits
where
  /-- Reads a decimal number. -/
  ofDecimal (digits : Text) : Except Text.NumeralError Number :=
    if digits.any fun c => c = 'j' || c = 'J' then .ok .imaginary
    else if digits.all Char.isDigit then
      if digits.all (· = '0') then .ok (.whole 0) else (Text.readNat digits).map .whole
    else .ok .real

end TlaRunner.Console.Literal
