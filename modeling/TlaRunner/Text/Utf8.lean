import TlaRunner.Text.Basic

/-!
# UTF-8

`Decoder` reads bytes one at a time.  Between two bytes it knows either nothing,
or how many bytes of a character are still missing, the bits read so far, and
the range in which the next byte has to lie.  A byte outside that range ends the
unfinished character, which is replaced by U+FFFD as a whole, and is then read
again as the start of another.  Overlong forms and surrogates are kept out by
the range of the second byte alone.  The two bytes that begin a surrogate are held
back together until the bytes go on or end, and are then replaced one by one.

`Decoder.run_append` says that the decoder may be fed in pieces.
-/

namespace TlaRunner.Text

/-- The character that stands for bytes that are no character. -/
def replacement : Char := '\uFFFD'

/-- What the decoder knows between two bytes. -/
inductive Decoder
  /-- Nothing: a character starts with the next byte. -/
  | ready
  /-- `left + 1` bytes are missing, the next one from `low` to `high`. -/
  | within (left bits low high : Nat)
  /-- Two bytes that begin a surrogate were read. -/
  | surrogate
  deriving DecidableEq, Repr

namespace Decoder

/-- Reads the first byte of a character. -/
def start (byte : Nat) : Text × Decoder :=
  if byte < 0x80 then ([Char.ofNat byte], .ready)
  else if byte < 0xC2 then ([replacement], .ready)
  else if byte < 0xE0 then ([], .within 0 (byte - 0xC0) 0x80 0xBF)
  else if byte < 0xF0 then
    ([], .within 1 (byte - 0xE0) (if byte = 0xE0 then 0xA0 else 0x80)
      (if byte = 0xED then 0x9F else 0xBF))
  else if byte < 0xF5 then
    ([], .within 2 (byte - 0xF0) (if byte = 0xF0 then 0x90 else 0x80)
      (if byte = 0xF4 then 0x8F else 0xBF))
  else ([replacement], .ready)

/-- Reads one byte: the characters it completes, and the decoder after it. -/
def step : Decoder → UInt8 → Text × Decoder
  | .ready, byte => start byte.toNat
  | .within left bits low high, byte =>
    if low ≤ byte.toNat ∧ byte.toNat ≤ high then
      match left with
      | 0 => ([Char.ofNat (bits * 64 + (byte.toNat - 0x80))], .ready)
      | n + 1 => ([], .within n (bits * 64 + (byte.toNat - 0x80)) 0x80 0xBF)
    else if high = 0x9F ∧ 0xA0 ≤ byte.toNat ∧ byte.toNat ≤ 0xBF then ([], .surrogate)
    else
      let next := start byte.toNat
      (replacement :: next.1, next.2)
  | .surrogate, byte =>
    let next := start byte.toNat
    (replacement :: replacement :: next.1, next.2)

/-- Reads bytes in order. -/
def run (decoder : Decoder) : Bytes → Text × Decoder
  | [] => ([], decoder)
  | byte :: rest =>
    let here := decoder.step byte
    let later := here.2.run rest
    (here.1 ++ later.1, later.2)

/-- What an unfinished character becomes when the bytes end. -/
def finish : Decoder → Text
  | .ready => []
  | .within .. => [replacement]
  | .surrogate => [replacement, replacement]

theorem run_append (decoder : Decoder) (a b : Bytes) :
    decoder.run (a ++ b) =
      ((decoder.run a).1 ++ ((decoder.run a).2.run b).1, ((decoder.run a).2.run b).2) := by
  induction a generalizing decoder with
  | nil => simp [run]
  | cons byte rest ih => simp [run, ih, List.append_assoc]

end Decoder

/-- The text of a finished sequence of bytes. -/
def decode (bytes : Bytes) : Text :=
  let result := Decoder.ready.run bytes
  result.1 ++ result.2.finish

/-- The bytes of a character. -/
def encodeChar (c : Char) : Bytes :=
  let n := c.toNat
  let tail (bits : Nat) : UInt8 := UInt8.ofNat (0x80 + bits % 64)
  if n < 0x80 then [UInt8.ofNat n]
  else if n < 0x800 then [UInt8.ofNat (0xC0 + n / 64), tail n]
  else if n < 0x10000 then [UInt8.ofNat (0xE0 + n / 4096), tail (n / 64), tail n]
  else [UInt8.ofNat (0xF0 + n / 262144), tail (n / 4096), tail (n / 64), tail n]

/-- The bytes of a text. -/
def encode (s : Text) : Bytes :=
  s.flatMap encodeChar

/-- The text of bytes that are all characters, and nothing for any other bytes. -/
def decodeStrict (bytes : Bytes) : Option Text :=
  let s := decode bytes
  if encode s = bytes then some s else none

end TlaRunner.Text
