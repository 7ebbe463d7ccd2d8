import TlaRunner.Text.Utf8

/-!
# Bytes that are no text

Where bytes stop being UTF-8: the first byte that starts no character, the first
character whose next byte does not continue it, or the character the bytes end in.
The length counts the bytes that were read of the character.
-/

namespace TlaRunner.Text

/-- What is wrong with bytes. -/
inductive Utf8Reason
  /-- A byte starts no character. -/
  | badStart
  /-- A byte does not continue a character. -/
  | badContinuation
  /-- The bytes end inside a character. -/
  | cutOff
  deriving DecidableEq, Repr

/-- The first place where bytes are no text. -/
structure Utf8Fault where
  /-- The first byte of the place. -/
  byte : UInt8
  /-- The number of bytes before it. -/
  position : Nat
  /-- The number of its bytes. -/
  length : Nat
  /-- What is wrong. -/
  reason : Utf8Reason
  deriving DecidableEq, Repr

/-- The wording of a reason. -/
def Utf8Reason.message : Utf8Reason → Text
  | badStart => "invalid start byte".toList
  | badContinuation => "invalid continuation byte".toList
  | cutOff => "unexpected end of data".toList

/-- The wording of bytes that are no text. -/
def Utf8Fault.message (f : Utf8Fault) : Text :=
  "'utf-8' codec can't decode byte".toList
    ++ (if f.length = 1 then
        " 0x".toList ++ padLeft 2 '0' (Nat.toDigits 16 f.byte.toNat) ++ " in position ".toList
          ++ ofNat f.position
      else
        "s in position ".toList ++ ofNat f.position ++ ['-'] ++ ofNat (f.position + f.length - 1))
    ++ ": ".toList ++ f.reason.message

/-- Looks for a fault from a decoder on.  `position` and `first` belong to the
unfinished character, of which `read` bytes were read. -/
def faultFrom (decoder : Decoder) (position read : Nat) (first : UInt8) : Bytes → Option Utf8Fault
  | [] =>
    match decoder with
    | .ready => none
    | .within .. => some ⟨first, position, read, .cutOff⟩
    | .surrogate => some ⟨first, position, read, .badContinuation⟩
  | byte :: rest =>
    match decoder with
    | .ready =>
      match Decoder.start byte.toNat with
      | (_, .within left bits low high) =>
        faultFrom (.within left bits low high) position 1 byte rest
      | _ =>
        if byte < 0x80 then faultFrom .ready (position + 1) 0 0 rest
        else some ⟨byte, position, 1, .badStart⟩
    | .within left bits low high =>
      if low ≤ byte.toNat ∧ byte.toNat ≤ high then
        match left with
        | 0 => faultFrom .ready (position + read + 1) 0 0 rest
        | n + 1 => faultFrom (.within n bits 0x80 0xBF) position (read + 1) first rest
      else some ⟨first, position, read, .badContinuation⟩
    | .surrogate => some ⟨first, position, read, .badContinuation⟩

/-- The first place where bytes are no text, if there is one. -/
def utf8Fault? (bytes : Bytes) : Option Utf8Fault :=
  faultFrom .ready 0 0 0 bytes

/-- The text of bytes. -/
def decodeOrFault (bytes : Bytes) : Except Utf8Fault Text :=
  match utf8Fault? bytes with
  | some fault => .error fault
  | none => .ok (decode bytes)

end TlaRunner.Text
