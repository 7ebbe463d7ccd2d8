import TlaRunner.Console.Literal.Token

/-!
# Strings in expressions

A string holds text or, with a `b` before it, bytes.  A backslash in it starts an
escape, unless an `r` stands before the string.  With an `f` before it a string is a
template, which holds expressions between curly brackets.

An escape that names a character by its code or by its name has to be complete.  A
message about a faulty one tells its place in the string as it is taken in: there a
character beyond ASCII counts as the ten characters of its own escape, and a backslash
before it as six.
-/

namespace TlaRunner.Console.Literal

/-- Why the escape of a character is refused. -/
inductive EscapeReason
  /-- It has too few digits. -/
  | cut (letter : Char)
  /-- There is no character with its code. -/
  | beyond
  /-- There is no name in curly brackets. -/
  | nameless
  /-- No character has the name. -/
  | unknown
  deriving DecidableEq, Repr

/-- The wording of a reason. -/
def EscapeReason.message : EscapeReason → Text
  | cut letter =>
    let digits := if letter = 'x' then 2 else if letter = 'u' then 4 else 8
    "truncated \\".toList ++ letter :: Text.repeated digits 'X' ++ " escape".toList
  | beyond => "illegal Unicode character".toList
  | nameless => "malformed \\N character escape".toList
  | unknown => "unknown Unicode character name".toList

/-- Why a string is refused. -/
inductive StringFault
  /-- Text and bytes are joined. -/
  | mixed
  /-- Bytes are given by a character beyond ASCII. -/
  | foreign
  /-- The escape of a character is refused. -/
  | escape (first last : Nat) (reason : EscapeReason)
  /-- The escape of a byte has too few digits. -/
  | byte (position : Nat)
  deriving DecidableEq, Repr

/-- The wording of a refused string. -/
def StringFault.message : StringFault → Text
  | mixed => "cannot mix bytes and nonbytes literals".toList
  | foreign => "bytes can only contain ASCII literal characters".toList
  | escape first last reason =>
    "(unicode error) 'unicodeescape' codec can't decode bytes in position ".toList
      ++ Text.ofNat first ++ '-' :: Text.ofNat last ++ ": ".toList ++ reason.message
  | byte position =>
    "(value error) invalid \\x escape at position ".toList ++ Text.ofNat position

/-! ## Escapes -/

/-- Writes a character beyond ASCII as an escape. -/
def takeIn (c : Char) : Text :=
  if 128 ≤ c.toNat then '\\' :: 'U' :: Text.padLeft 8 '0' (Nat.toDigits 16 c.toNat) else [c]

/-- A string as it is taken in. -/
def takenIn : Text → Text
  | '\\' :: c :: s =>
    (if 128 ≤ c.toNat then "\\u005c".toList ++ takeIn c else ['\\', c]) ++ takenIn s
  | ['\\'] => "\\u005c".toList
  | c :: s => takeIn c ++ takenIn s
  | [] => []

/-- The number of digits that a letter asks for. -/
def escapeDigits? (letter : Char) : Option Nat :=
  if letter = 'x' then some 2
  else if letter = 'u' then some 4
  else if letter = 'U' then some 8
  else none

/-- What is wrong with the escape at a position, behind its letter. -/
def escapeFault? (position : Nat) (letter : Char) (s : Text) : Option StringFault :=
  match escapeDigits? letter with
  | some size =>
    let digits := (s.take size).takeWhile fun c => (Text.hexValue c).isSome
    let last := position + 1 + digits.length
    if digits.length < size then some (.escape position last (.cut letter))
    else if digits.foldl (fun n c => 16 * n + (Text.hexValue c).getD 0) 0 < 0x110000 then none
    else some (.escape position last .beyond)
  | none =>
    if letter = 'N' then
      match s with
      | '\x7b' :: s =>
        let name := s.takeWhile (· ≠ '\x7d')
        let last := position + 2 + name.length
        if name.length = s.length ∨ name = [] then some (.escape position last .nameless)
        else some (.escape position (last + 1) .unknown)
      | _ => some (.escape position (position + 1) .nameless)
    else none

/-- What is wrong with the escapes in the rest of a string from a position on. -/
def textFault? (position : Nat) : Text → Option StringFault
  | '\\' :: letter :: s =>
    match escapeFault? position letter s with
    | some fault => some fault
    | none => textFault? (position + 2) s
  | _ :: s => textFault? (position + 1) s
  | [] => none

/-- What is wrong with the escapes in the rest of bytes from a position on. -/
def bytesFault? (position : Nat) : Text → Option StringFault
  | '\\' :: letter :: s =>
    let digits := (s.take 2).takeWhile fun c => (Text.hexValue c).isSome
    if letter = 'x' ∧ digits.length < 2 then some (.byte position)
    else bytesFault? (position + 2) s
  | _ :: s => bytesFault? (position + 1) s
  | [] => none

/-- Checks the escapes in a text. -/
def checkEscapes (s : Text) : Except StringFault Unit :=
  match textFault? 0 (takenIn s) with
  | some fault => .error fault
  | none => .ok ()

/-! ## Strings -/

/-- A string. -/
structure Quote where
  /-- Whether it holds bytes. -/
  isBytes : Bool
  /-- Whether a backslash means itself. -/
  isRaw : Bool
  /-- Whether it is a template. -/
  isTemplate : Bool
  /-- What stands between the quotes. -/
  body : Text
  deriving DecidableEq, Repr

/-- The string that a token stands for. -/
def Quote.ofText (s : Text) : Quote :=
  let letters := Text.lower (s.takeWhile Char.isAlpha)
  let quoted := s.drop letters.length
  let size :=
    match quoted with
    | a :: b :: c :: _ :: _ :: _ => if a = b && b = c then 3 else 1
    | _ => 1
  ⟨letters.contains 'b', letters.contains 'r', letters.contains 'f',
    (quoted.drop size).take (quoted.length - 2 * size)⟩

/-- Checks a string that is no template. -/
def Quote.check (q : Quote) : Except StringFault Unit :=
  if q.isBytes && q.body.any (128 ≤ ·.toNat) then .error .foreign
  else if q.isRaw || q.isTemplate then .ok ()
  else if q.isBytes then
    match bytesFault? 0 q.body with
    | some fault => .error fault
    | none => .ok ()
  else checkEscapes q.body

end TlaRunner.Console.Literal
