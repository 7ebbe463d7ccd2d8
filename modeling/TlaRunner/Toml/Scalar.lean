import TlaRunner.Settings.Value
import TlaRunner.Text.Numeral
import TlaRunner.Text.Scan

/-!
# Scalars of the settings format

Strings, numbers, dates and times as TOML writes them.  Line ends are single line
feeds here.  Everything that is written wrongly is one fault, `syntaxFault`,
except a decimal integer with too many digits.
-/

namespace TlaRunner.Toml

open Text (Scan)

/-- Why a document is refused. -/
inductive Fault
  /-- It is not written as the format demands. -/
  | malformed
  /-- An integer has more digits than the limit. -/
  | numeral (error : Text.NumeralError)
  deriving DecidableEq, Repr

/-- A reader of the front of a document. -/
abbrev Read := StateT Text (Except Fault)

/-- Refuses the document. -/
def refuse {α : Type} : Read α := fun _ => .error .malformed

/-- Reads with a scanner, and refuses the document where it fails. -/
def expect {α : Type} (p : Scan α) : Read α := fun s =>
  match p s with
  | some found => .ok found
  | none => .error .malformed

/-- Whether a scanner succeeds here; what it reads is passed over. -/
def accept (p : Scan Unit) : Read Bool := fun s =>
  match p s with
  | some (_, rest) => .ok (true, rest)
  | none => .ok (false, s)

/-- Whether a character is a space or a tab. -/
def isSpace (c : Char) : Bool :=
  c = ' ' || c = '\t'

/-- Passes over spaces and tabs. -/
def skipSpace : Read Unit := fun s => .ok ((), s.dropWhile isSpace)

/-- Whether a character may not stand in a string on one line or in a comment. -/
def isControl (c : Char) : Bool :=
  (c.toNat < 0x20 && c ≠ '\t') || c.toNat = 0x7F

/-! ## Strings -/

/-- Whether a code point is a character. -/
def isScalar (n : Nat) : Bool :=
  n < 0xD800 || (0xE000 ≤ n && n < 0x110000)

/-- Reads a character by its code in a fixed number of hexadecimal digits. -/
def codedChar (width : Nat) (s : Text) : Except Fault (Text × Text) :=
  match (s.take width).mapM Text.hexValue with
  | some digits =>
    let code := digits.foldl (fun n d => 16 * n + d) 0
    if digits.length = width ∧ isScalar code then .ok ([Char.ofNat code], s.drop width)
    else .error .malformed
  | none => .error .malformed

/-- Reads what follows a backslash at the end of a line: the line break and all
blanks behind it. -/
def lineJoin (s : Text) : Except Fault (Text × Text) :=
  match s.dropWhile isSpace with
  | [] => .ok ([], [])
  | '\n' :: rest => .ok ([], rest.dropWhile fun c => isSpace c || c = '\n')
  | _ => .error .malformed

/-- Reads what follows a backslash. -/
def escape (multiline : Bool) (s : Text) : Except Fault (Text × Text) :=
  match s with
  | [] => .error .malformed
  | c :: rest =>
    if multiline && (isSpace c || c = '\n') then lineJoin s
    else
      match c with
      | 'b' => .ok (['\x08'], rest)
      | 't' => .ok (['\t'], rest)
      | 'n' => .ok (['\n'], rest)
      | 'f' => .ok (['\x0C'], rest)
      | 'r' => .ok (['\r'], rest)
      | '"' => .ok (['"'], rest)
      | '\\' => .ok (['\\'], rest)
      | 'u' => codedChar 4 rest
      | 'U' => codedChar 8 rest
      | _ => .error .malformed

/-- Up to two more quotes that belong to the text before the closing three. -/
def extraQuotes (quote : Char) : Text → Text × Text
  | a :: b :: s =>
    if a = quote then if b = quote then ([a, b], s) else ([a], b :: s) else ([], a :: b :: s)
  | [a] => if a = quote then ([a], []) else ([], [a])
  | [] => ([], [])

/-- Reads a string with escapes behind its opening quotes.  `held` has the
characters read so far, last first. -/
def basicFrom (multiline : Bool) : (fuel : Nat) → (held s : Text) → Except Fault (Text × Text)
  | 0, _, _ => .error .malformed
  | _ + 1, _, [] => .error .malformed
  | fuel + 1, held, c :: s =>
    if c = '"' then
      if !multiline then .ok (held.reverse, s)
      else if Text.startsWith ['"', '"'] s then
        let (extra, rest) := extraQuotes '"' (s.drop 2)
        .ok (held.reverse ++ extra, rest)
      else basicFrom multiline fuel (c :: held) s
    else if c = '\\' then
      match escape multiline s with
      | .error fault => .error fault
      | .ok (chars, rest) => basicFrom multiline fuel (chars.reverse ++ held) rest
    else if isControl c && !(multiline && c = '\n') then .error .malformed
    else basicFrom multiline fuel (c :: held) s

/-- Reads a string with escapes behind its opening quotes. -/
def basicString (multiline : Bool) : Read Text := fun s =>
  basicFrom multiline (s.length + 1) [] s

/-- Reads a string without escapes behind its opening quote. -/
def literalString : Read Text := fun s =>
  let body := s.takeWhile (· ≠ '\'')
  match s.dropWhile (· ≠ '\'') with
  | [] => .error .malformed
  | _ :: rest => if body.any isControl then .error .malformed else .ok (body, rest)

/-- Cuts a text at its first three single quotes. -/
def cutAtQuotes : Text → Option (Text × Text)
  | [] => none
  | c :: s =>
    if Text.startsWith "'''".toList (c :: s) then some ([], s.drop 2)
    else (cutAtQuotes s).map fun found => (c :: found.1, found.2)

/-- Reads a string of several lines without escapes behind its opening quotes. -/
def literalLines : Read Text := fun s =>
  match cutAtQuotes s with
  | none => .error .malformed
  | some (body, rest) =>
    if body.any (fun c => isControl c && c ≠ '\n') then .error .malformed
    else
      let (extra, rest) := extraQuotes '\'' rest
      .ok (body ++ extra, rest)

/-- Passes over a line break at the front of a string of several lines. -/
def skipFirstBreak : Read Unit := fun s =>
  match s with
  | '\n' :: rest => .ok ((), rest)
  | _ => .ok ((), s)

/-- Reads a string of any kind, if one starts here. -/
def string? : Read (Option Text) := do
  if ← accept (Scan.literal "\"\"\"".toList) then
    skipFirstBreak
    return some (← basicString true)
  else if ← accept (Scan.literal "\"".toList) then return some (← basicString false)
  else if ← accept (Scan.literal "'''".toList) then
    skipFirstBreak
    return some (← literalLines)
  else if ← accept (Scan.literal "'".toList) then return some (← literalString)
  else return none

/-! ## Dates and times -/

/-- Reads a fixed number of digits whose value lies in a range. -/
def fixed (width low high : Nat) : Scan Nat := fun s =>
  match (s.take width).mapM fun c => if c.isDigit then some (c.toNat - 48) else none with
  | some digits =>
    let n := digits.foldl (fun n d => 10 * n + d) 0
    if digits.length = width ∧ low ≤ n ∧ n ≤ high then some (n, s.drop width) else none
  | none => none

/-- Reads the digits behind a decimal point of seconds, as microseconds. -/
def fraction : Scan Nat := do
  Scan.literal ['.']
  let digits ← Scan.some1 Char.isDigit
  let six := digits.take 6
  return Text.digitsValue (six ++ Text.repeated (6 - six.length) '0')

/-- A number in decimal with leading zeros. -/
def padded (width n : Nat) : Text :=
  Text.padLeft width '0' (Text.ofNat n)

/-- Reads a time of day and writes it in its normal form. -/
def timeOfDay : Scan Text := do
  let hour ← fixed 2 0 23
  Scan.literal [':']
  let minute ← fixed 2 0 59
  Scan.literal [':']
  let second ← fixed 2 0 59
  let micros := (← Scan.optional fraction).getD 0
  return padded 2 hour ++ ':' :: padded 2 minute ++ ':' :: padded 2 second
    ++ (if micros = 0 then [] else '.' :: padded 6 micros)

/-- Reads a distance from universal time and writes it in its normal form. -/
def offset : Scan Text :=
  (do
    Scan.literal ['Z'] <|> Scan.literal ['z']
    return "+00:00".toList)
  <|> (do
    let sign ← (do Scan.literal ['+']; return '+') <|> (do Scan.literal ['-']; return '-')
    let hour ← fixed 2 0 23
    Scan.literal [':']
    let minute ← fixed 2 0 59
    return (if hour = 0 ∧ minute = 0 then '+' else sign) :: padded 2 hour
      ++ ':' :: padded 2 minute)

/-- Reads a time of day behind a date. -/
def timeBehindDate : Scan Text := do
  Scan.literal ['T'] <|> Scan.literal ['t'] <|> Scan.literal [' ']
  let time ← timeOfDay
  let zone := (← Scan.optional offset).getD []
  return 'T' :: time ++ zone

/-- The number of days of a month. -/
def daysIn (year month : Nat) : Nat :=
  if month = 2 then
    if year % 4 = 0 ∧ (year % 100 ≠ 0 ∨ year % 400 = 0) then 29 else 28
  else if month = 4 ∨ month = 6 ∨ month = 9 ∨ month = 11 then 30
  else 31

/-- Reads a date, with or without a time of day, and says whether there is such a
day. -/
def date : Scan (Bool × Text) := do
  let year ← fixed 4 0 9999
  Scan.literal ['-']
  let month ← fixed 2 1 12
  Scan.literal ['-']
  let day ← fixed 2 1 31
  let time := (← Scan.optional timeBehindDate).getD []
  return (year ≥ 1 && day ≤ daysIn year month,
    padded 4 year ++ '-' :: padded 2 month ++ '-' :: padded 2 day ++ time)

/-! ## Numbers -/

/-- Reads more digits of a class, with single underscores in front of digits. -/
def moreDigits (member : Char → Bool) : Text → Text × Text
  | [] => ([], [])
  | [c] => if member c then ([c], []) else ([], [c])
  | c :: d :: s =>
    if member c then
      let (digits, rest) := moreDigits member (d :: s)
      (c :: digits, rest)
    else if c = '_' && member d then
      let (digits, rest) := moreDigits member s
      (d :: digits, rest)
    else ([], c :: d :: s)

/-- Reads digits of a class, with single underscores between them. -/
def grouped (member : Char → Bool) : Scan Text := fun s =>
  match s with
  | [] => none
  | c :: rest =>
    if member c then
      let (digits, rest) := moreDigits member rest
      some (c :: digits, rest)
    else none

/-- Reads an integer in another base behind its letter. -/
def radix (letter : Char) (base : Nat) : Scan Nat := do
  Scan.literal ['0', letter]
  let digits ← grouped fun c => (Text.hexValue c).any (· < base)
  return digits.foldl (fun n c => base * n + (Text.hexValue c).getD 0) 0

/-- The parts of a decimal number. -/
structure Decimals where
  /-- Whether it has a minus sign. -/
  negative : Bool
  /-- The digits before the point. -/
  whole : Text
  /-- The digits behind the point. -/
  fraction : Option Text
  /-- The exponent: its sign and digits. -/
  exponent : Option (Bool × Text)
  deriving DecidableEq, Repr

/-- Reads a sign; the answer says whether it is a minus. -/
def sign : Scan Bool :=
  (do Scan.literal ['-']; return true) <|> (do Scan.literal ['+']; return false) <|> return false

/-- Reads the digits before the point: a zero, or digits that start with none. -/
def wholePart : Scan Text := fun s =>
  match s with
  | '0' :: rest => some (['0'], rest)
  | _ => grouped Char.isDigit s

/-- Reads a decimal number. -/
def decimals : Scan Decimals := do
  let negative ← sign
  let whole ← wholePart
  let fraction ← Scan.optional (do Scan.literal ['.']; grouped Char.isDigit)
  let exponent ← Scan.optional (do
    Scan.literal ['e'] <|> Scan.literal ['E']
    let negative ← sign
    let digits ← grouped Char.isDigit
    return (negative, digits))
  return ⟨negative, whole, fraction, exponent⟩

/-- The double nearest to a decimal number. -/
def Decimals.toDouble (d : Decimals) : Decimal.Double :=
  let fraction := d.fraction.getD []
  let exponent : Int :=
    match d.exponent with
    | some (negative, digits) =>
      if negative then -(Text.digitsValue digits : Int) else Text.digitsValue digits
    | none => 0
  let digits := d.whole ++ fraction
  Decimal.Double.ofDecimal d.negative (Text.digitsValue digits) digits.length
    (exponent - fraction.length)

/-- The value of a decimal number: an integer unless it has a point or an
exponent. -/
def Decimals.value (d : Decimals) : Except Fault Value :=
  if d.fraction.isSome || d.exponent.isSome then .ok (.float d.toDouble)
  else
    match Text.readNat d.whole with
    | .ok n => .ok (.int (if d.negative then -n else n))
    | .error e => .error (.numeral e)

/-- Reads the numbers that are written as words. -/
def special : Scan Decimal.Double := do
  let negative ← sign
  (do Scan.literal "inf".toList; return .infinite negative)
    <|> (do Scan.literal "nan".toList; return .nan)

/-- Reads a date, a time or a number. -/
def momentOrNumber : Read Value := fun s =>
  match date s with
  | some ((real, text), rest) => if real then .ok (.moment text, rest) else .error .malformed
  | none =>
    match timeOfDay s with
    | some (text, rest) => .ok (.moment text, rest)
    | none =>
      match (radix 'x' 16 <|> radix 'b' 2 <|> radix 'o' 8) s with
      | some (n, rest) => .ok (.int n, rest)
      | none =>
        match decimals s with
        | some (d, rest) => d.value.map fun value => (value, rest)
        | none => (expect special s).map fun found => (.float found.1, found.2)

end TlaRunner.Toml
