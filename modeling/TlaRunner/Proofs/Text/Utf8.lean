import Mathlib.Data.List.Infix
import TlaRunner.Text.Utf8Fault

/-!
# Reading what was encoded

`run_encode` says that the decoder reads the bytes of a text as that text and
keeps nothing back.  The first byte of a character says how many follow
(`start_one` to `start_four`), and each later one adds six bits (`step_inner`,
`step_last`).

Where the bytes are cut, the characters before the cut are read, and one that was cut
through is replaced (`decode_of_prefix`).

A stricter reader looks for the first fault, and finds none in the bytes of a text and one in all
others (`decodeOrFault_eq_ok_iff`).
-/

namespace TlaRunner.Text.Decoder

/-! ## First bytes -/

theorem start_one {n : Nat} (h : n < 0x80) : start n = ([Char.ofNat n], ready) := by
  rw [start, if_pos h]

theorem start_two {bits : Nat} (hlow : 2 ≤ bits) (hhigh : bits < 32) :
    start (0xC0 + bits) = ([], within 0 bits 0x80 0xBF) := by
  rw [start, if_neg (by omega), if_neg (by omega), if_pos (by omega), Nat.add_sub_cancel_left]

/-- The second of three bytes is bound to keep out overlong forms and surrogates. -/
theorem start_three {bits : Nat} (h : bits < 16) :
    start (0xE0 + bits) = ([], within 1 bits (if bits = 0 then 0xA0 else 0x80)
      (if bits = 13 then 0x9F else 0xBF)) := by
  have hlow : (0xE0 + bits = 0xE0) = (bits = 0) := by simp
  have hhigh : (0xE0 + bits = 0xED) = (bits = 13) := by
    rw [eq_iff_iff]
    omega
  rw [start, if_neg (by omega), if_neg (by omega), if_neg (by omega), if_pos (by omega),
    Nat.add_sub_cancel_left]
  simp only [hlow, hhigh]

/-- The second of four bytes is bound to keep out overlong forms and numbers past the last
character. -/
theorem start_four {bits : Nat} (h : bits < 5) :
    start (0xF0 + bits) = ([], within 2 bits (if bits = 0 then 0x90 else 0x80)
      (if bits = 4 then 0x8F else 0xBF)) := by
  have hlow : (0xF0 + bits = 0xF0) = (bits = 0) := by simp
  have hhigh : (0xF0 + bits = 0xF4) = (bits = 4) := by
    rw [eq_iff_iff]
    omega
  rw [start, if_neg (by omega), if_neg (by omega), if_neg (by omega), if_neg (by omega),
    if_pos (by omega), Nat.add_sub_cancel_left]
  simp only [hlow, hhigh]

/-! ## Later bytes -/

/-- The value of a byte that is given by a number below 256. -/
theorem toNat_ofNat_byte {n : Nat} (h : n < 256) : (UInt8.ofNat n).toNat = n := by
  rw [UInt8.toNat_ofNat', Nat.mod_eq_of_lt h]

/-- The last byte of a character, given by the bits it adds. -/
theorem step_last {bits more low high : Nat} (hlow : low ≤ 0x80 + more) (hmore : more < 64)
    (hhigh : 0x80 + more ≤ high) :
    (within 0 bits low high).step (UInt8.ofNat (0x80 + more)) =
      ([Char.ofNat (bits * 64 + more)], ready) := by
  rw [step, toNat_ofNat_byte (by omega), if_pos ⟨hlow, hhigh⟩, Nat.add_sub_cancel_left]

/-- A byte inside a character, given by the bits it adds. -/
theorem step_inner {left bits more low high : Nat} (hlow : low ≤ 0x80 + more) (hmore : more < 64)
    (hhigh : 0x80 + more ≤ high) :
    (within (left + 1) bits low high).step (UInt8.ofNat (0x80 + more)) =
      ([], within left (bits * 64 + more) 0x80 0xBF) := by
  rw [step, toNat_ofNat_byte (by omega), if_pos ⟨hlow, hhigh⟩, Nat.add_sub_cancel_left]

/-! ## Characters and texts -/

/-- The bytes of a character are read as that character.  The cases are its four lengths. -/
theorem run_encodeChar (c : Char) : ready.run (encodeChar c) = ([c], ready) := by
  have hvalid : c.toNat < 0xD800 ∨ (0xDFFF < c.toNat ∧ c.toNat < 0x110000) := c.valid
  have hc : Char.ofNat c.toNat = c := Char.ofNat_toNat c
  unfold encodeChar
  generalize c.toNat = n at hvalid hc
  simp only
  split
  next h1 =>
    simp only [run, step.eq_1]
    rw [toNat_ofNat_byte (by omega), start_one h1, hc]
    rfl
  split
  next h1 h2 =>
    have hchar : n / 64 * 64 + n % 64 = n := by omega
    simp only [run, step.eq_1]
    rw [toNat_ofNat_byte (by omega), start_two (by omega) (by omega)]
    simp only
    rw [step_last (by omega) (by omega) (by omega), hchar, hc]
    rfl
  split
  next h1 h2 h3 =>
    have hchar : (n / 4096 * 64 + n / 64 % 64) * 64 + n % 64 = n := by omega
    simp only [run, step.eq_1]
    rw [toNat_ofNat_byte (by omega), start_three (by omega)]
    simp only
    rw [step_inner (by split <;> omega) (by omega) (by split <;> omega),
      step_last (by omega) (by omega) (by omega), hchar, hc]
    rfl
  next h1 h2 h3 =>
    have hchar : ((n / 262144 * 64 + n / 4096 % 64) * 64 + n / 64 % 64) * 64 + n % 64 = n := by
      omega
    simp only [run, step.eq_1]
    rw [toNat_ofNat_byte (by omega), start_four (by omega)]
    simp only
    rw [step_inner (by split <;> omega) (by omega) (by split <;> omega),
      step_inner (by omega) (by omega) (by omega), step_last (by omega) (by omega) (by omega),
      hchar, hc]
    rfl

/-- The bytes of a text are read as that text, and no character is left unfinished. -/
theorem run_encode (s : Text) : ready.run (encode s) = (s, ready) := by
  induction s with
  | nil => rfl
  | cons c s ih =>
    have hcons : encode (c :: s) = encodeChar c ++ encode s := List.flatMap_cons
    rw [hcons, run_append, run_encodeChar, ih]
    rfl

/-! ## Bytes that were cut -/

/-- A byte behind which no character is unfinished has given one. -/
theorem start_ready {byte : Nat} (h : (start byte).2 = ready) : (start byte).1 ≠ [] := by
  unfold start at h ⊢
  grind

theorem step_ready {decoder : Decoder} {byte : UInt8} (h : (decoder.step byte).2 = ready) :
    (decoder.step byte).1 ≠ [] := by
  cases decoder with
  | ready => exact start_ready h
  | within left bits low high =>
      simp only [step] at h ⊢
      split at h
      next hrange =>
        rw [if_pos hrange]
        cases left with
        | zero => exact List.cons_ne_nil _ _
        | succ left => cases h
      next hrange =>
        rw [if_neg hrange]
        split at h
        next => cases h
        next hsurrogate =>
          rw [if_neg hsurrogate]
          exact List.cons_ne_nil _ _
  | surrogate => exact List.cons_ne_nil _ _

theorem run_ready {decoder : Decoder} {bytes : Bytes} (h : (decoder.run bytes).2 = ready)
    (hbytes : bytes ≠ []) : (decoder.run bytes).1 ≠ [] := by
  induction bytes generalizing decoder with
  | nil => exact absurd rfl hbytes
  | cons byte rest ih =>
      rw [run] at h ⊢
      cases rest with
      | nil => exact List.append_ne_nil_of_left_ne_nil (step_ready h) _
      | cons next rest => exact List.append_ne_nil_of_right_ne_nil _ (ih h (List.cons_ne_nil _ _))

/-- The first bytes of a character give nothing yet and leave it unfinished. -/
theorem run_unfinished {c : Char} {bytes rest : Bytes} (h : encodeChar c = bytes ++ rest)
    (hbytes : bytes ≠ []) (hrest : rest ≠ []) :
    (ready.run bytes).1 = [] ∧
      ∃ left bits low high, (ready.run bytes).2 = within left bits low high := by
  have hrun := run_encodeChar c
  rw [h, run_append, Prod.mk.injEq] at hrun
  obtain ⟨hchars, hend⟩ := hrun
  -- The other bytes give the character, so the first ones cannot have given any.
  have hlater := run_ready hend hrest
  have hnone : (ready.run bytes).1 = [] := by
    rcases List.append_eq_singleton_iff.mp hchars with ⟨hnil, _⟩ | ⟨_, hnil⟩
    · exact hnil
    · exact absurd hnil hlater
  refine ⟨hnone, ?_⟩
  cases hstate : (ready.run bytes).2 with
  | ready => exact absurd hnone (run_ready hstate hbytes)
  | within left bits low high => exact ⟨left, bits, low, high, rfl⟩
  | surrogate =>
      -- The next byte would give two characters.
      obtain ⟨next, tail, rfl⟩ := List.exists_cons_of_ne_nil hrest
      rw [hnone, hstate] at hchars
      cases hchars

end TlaRunner.Text.Decoder

namespace TlaRunner.Text

theorem encode_append (s t : Text) : encode (s ++ t) = encode s ++ encode t :=
  List.flatMap_append

theorem decode_encode_append (s : Text) (bytes : Bytes) :
    decode (encode s ++ bytes) = s ++ decode bytes := by
  simp only [decode, Decoder.run_append, Decoder.run_encode, List.append_assoc]

/-- Splits what begins two lists in a row. -/
theorem prefix_append_cases {α : Type} {a b l : List α} (h : l <+: a ++ b) :
    (l <+: a ∧ l.length < a.length) ∨ ∃ rest, l = a ++ rest ∧ rest <+: b := by
  rcases List.prefix_or_prefix_of_prefix h (List.prefix_append a b) with hl | ⟨rest, rfl⟩
  · rcases Nat.lt_or_ge l.length a.length with hlt | hge
    · exact Or.inl ⟨hl, hlt⟩
    · rw [hl.eq_of_length_le hge]
      exact Or.inr ⟨[], (List.append_nil a).symm, List.nil_prefix⟩
  · exact Or.inr ⟨rest, rfl, (List.prefix_append_right_inj a).mp h⟩

/-- The characters before a cut are read, and one that was cut through is replaced. -/
theorem decode_of_prefix {s : Text} {bytes : Bytes} (h : bytes <+: encode s) :
    ∃ seen tail, seen <+: s ∧ encode seen <+: bytes ∧ tail <+: [replacement] ∧
      decode bytes = seen ++ tail := by
  induction s generalizing bytes with
  | nil => exact ⟨[], [], List.nil_prefix, List.nil_prefix, List.nil_prefix, by
      rw [List.prefix_nil.mp h]; rfl⟩
  | cons c s ih =>
      have hcons : encode (c :: s) = encodeChar c ++ encode s := List.flatMap_cons
      rw [hcons] at h
      rcases prefix_append_cases h with ⟨⟨rest, hrest⟩, hlt⟩ | ⟨rest, rfl, hrest⟩
      · refine ⟨[], decode bytes, List.nil_prefix, List.nil_prefix, ?_, rfl⟩
        by_cases hbytes : bytes = []
        · rw [hbytes]
          exact List.nil_prefix
        · have hne : rest ≠ [] := fun hnil => by
            rw [← hrest, hnil, List.append_nil] at hlt
            exact Nat.lt_irrefl _ hlt
          obtain ⟨hnone, left, bits, low, high, hstate⟩ :=
            Decoder.run_unfinished hrest.symm hbytes hne
          rw [decode, hnone, hstate]
          exact List.prefix_rfl
      · obtain ⟨seen, tail, hseen, hencoded, htail, hdecode⟩ := ih hrest
        have hfirst : encodeChar c = encode [c] := (List.append_nil _).symm
        refine ⟨c :: seen, tail, List.cons_prefix_cons.mpr ⟨rfl, hseen⟩, ?_, htail, ?_⟩
        · exact (List.prefix_append_right_inj (encodeChar c)).mpr hencoded
        · rw [hfirst, decode_encode_append, hdecode]
          rfl

/-! ## Bytes that are text -/

open Decoder

/-- A byte that continues a character is no fault. -/
theorem faultFrom_inner {left bits more low high position read : Nat} {first : UInt8}
    (hlow : low ≤ 0x80 + more) (hmore : more < 64) (hhigh : 0x80 + more ≤ high) (rest : Bytes) :
    faultFrom (.within (left + 1) bits low high) position read first
        (UInt8.ofNat (0x80 + more) :: rest) =
      faultFrom (.within left bits 0x80 0xBF) position (read + 1) first rest := by
  rw [faultFrom, toNat_ofNat_byte (by omega), if_pos ⟨hlow, hhigh⟩]

/-- Nor is the last one. -/
theorem faultFrom_last {bits more low high position read : Nat} {first : UInt8}
    (hlow : low ≤ 0x80 + more) (hmore : more < 64) (hhigh : 0x80 + more ≤ high) (rest : Bytes) :
    faultFrom (.within 0 bits low high) position read first (UInt8.ofNat (0x80 + more) :: rest) =
      faultFrom .ready (position + read + 1) 0 0 rest := by
  rw [faultFrom, toNat_ofNat_byte (by omega), if_pos ⟨hlow, hhigh⟩]

/-- The bytes of a character have no fault.  The cases are its four lengths. -/
theorem faultFrom_encodeChar (c : Char) (position read : Nat) (first : UInt8) (rest : Bytes) :
    ∃ next, faultFrom .ready position read first (encodeChar c ++ rest) =
      faultFrom .ready next 0 0 rest := by
  have hvalid : c.toNat < 0xD800 ∨ (0xDFFF < c.toNat ∧ c.toNat < 0x110000) := c.valid
  unfold encodeChar
  generalize c.toNat = n at hvalid
  simp only
  split
  next h1 =>
    refine ⟨position + 1, ?_⟩
    rw [List.singleton_append, faultFrom, toNat_ofNat_byte (by omega), start_one h1]
    simp only
    rw [if_pos]
    rw [UInt8.lt_iff_toNat_lt, toNat_ofNat_byte (by omega)]
    exact h1
  split
  next h1 h2 =>
    refine ⟨position + 1 + 1, ?_⟩
    rw [List.cons_append, faultFrom, toNat_ofNat_byte (by omega), start_two (by omega) (by omega)]
    simp only
    rw [List.cons_append, faultFrom_last (by omega) (by omega) (by omega), List.nil_append]
  split
  next h1 h2 h3 =>
    refine ⟨position + 2 + 1, ?_⟩
    rw [List.cons_append, faultFrom, toNat_ofNat_byte (by omega), start_three (by omega)]
    simp only
    rw [List.cons_append, faultFrom_inner (by split <;> omega) (by omega) (by split <;> omega),
      List.cons_append, faultFrom_last (by omega) (by omega) (by omega), List.nil_append]
  next h1 h2 h3 =>
    refine ⟨position + 3 + 1, ?_⟩
    rw [List.cons_append, faultFrom, toNat_ofNat_byte (by omega), start_four (by omega)]
    simp only
    rw [List.cons_append, faultFrom_inner (by split <;> omega) (by omega) (by split <;> omega),
      List.cons_append, faultFrom_inner (by omega) (by omega) (by omega),
      List.cons_append, faultFrom_last (by omega) (by omega) (by omega), List.nil_append]

/-- The bytes of a text are read as that text. -/
theorem decodeOrFault_encode (s : Text) : decodeOrFault (encode s) = .ok s := by
  have hnone (position read : Nat) (first : UInt8) :
      faultFrom .ready position read first (encode s) = none := by
    induction s generalizing position read first with
    | nil => rfl
    | cons c s ih =>
        have hcons : encode (c :: s) = encodeChar c ++ encode s := List.flatMap_cons
        obtain ⟨next, hnext⟩ := faultFrom_encodeChar c position read first (encode s)
        rw [hcons, hnext, ih]
  have hdecode : decode (encode s) = s := by
    have happend := decode_encode_append s []
    rwa [List.append_nil, show decode [] = [] from rfl, List.append_nil] at happend
  rw [decodeOrFault, utf8Fault?, hnone, hdecode]

/-! ## Only text has no fault -/

/-- A number that is no surrogate is that of a character. -/
theorem exists_char {n : Nat} (h : n < 0xD800 ∨ (0xDFFF < n ∧ n < 0x110000)) :
    ∃ c : Char, c.toNat = n :=
  ⟨Char.ofNatAux n h, UInt32.toNat_ofNatLT⟩

theorem exists_encodeChar_one {n : Nat} (h : n < 0x80) :
    ∃ c, encodeChar c = [UInt8.ofNat n] := by
  obtain ⟨c, hc⟩ := exists_char (n := n) (by omega)
  refine ⟨c, ?_⟩
  rw [encodeChar, hc]
  simp only [if_pos h]

theorem exists_encodeChar_two (bits a : Nat) (hleast : 2 ≤ bits) (hmost : bits < 32)
    (ha : a < 64) :
    ∃ c, encodeChar c = [UInt8.ofNat (0xC0 + bits), UInt8.ofNat (0x80 + a)] := by
  obtain ⟨n, hn⟩ : ∃ n, n = bits * 64 + a := ⟨_, rfl⟩
  have hbits : n / 64 = bits ∧ n % 64 = a := by omega
  have hrange : ¬ n < 0x80 ∧ n < 0x800 := by omega
  obtain ⟨c, hc⟩ := exists_char (n := n) (by omega)
  refine ⟨c, ?_⟩
  rw [encodeChar, hc]
  simp only [if_neg hrange.1, if_pos hrange.2, hbits]

theorem exists_encodeChar_three (bits a b : Nat) (ha : a < 64) (hb : b < 64)
    (hleast : 0x20 ≤ bits * 64 + a) (hmost : bits < 16)
    (hsurrogate : bits * 64 + a < 0x360 ∨ 0x380 ≤ bits * 64 + a) :
    ∃ c, encodeChar c =
      [UInt8.ofNat (0xE0 + bits), UInt8.ofNat (0x80 + a), UInt8.ofNat (0x80 + b)] := by
  obtain ⟨n, hn⟩ : ∃ n, n = (bits * 64 + a) * 64 + b := ⟨_, rfl⟩
  have hbits : n / 4096 = bits ∧ n / 64 % 64 = a ∧ n % 64 = b := by omega
  have hrange : ¬ n < 0x80 ∧ ¬ n < 0x800 ∧ n < 0x10000 := by omega
  obtain ⟨c, hc⟩ := exists_char (n := n) (by omega)
  refine ⟨c, ?_⟩
  rw [encodeChar, hc]
  simp only [if_neg hrange.1, if_neg hrange.2.1, if_pos hrange.2.2, hbits]

theorem exists_encodeChar_four (bits a b d : Nat) (ha : a < 64) (hb : b < 64) (hd : d < 64)
    (hleast : 0x10 ≤ bits * 64 + a) (hmost : bits * 64 + a < 0x110) :
    ∃ c, encodeChar c =
      [UInt8.ofNat (0xF0 + bits), UInt8.ofNat (0x80 + a), UInt8.ofNat (0x80 + b),
        UInt8.ofNat (0x80 + d)] := by
  obtain ⟨n, hn⟩ : ∃ n, n = ((bits * 64 + a) * 64 + b) * 64 + d := ⟨_, rfl⟩
  have hbits : n / 262144 = bits ∧ n / 4096 % 64 = a ∧ n / 64 % 64 = b ∧ n % 64 = d := by
    omega
  have hrange : ¬ n < 0x80 ∧ ¬ n < 0x800 ∧ ¬ n < 0x10000 := by omega
  obtain ⟨c, hc⟩ := exists_char (n := n) (by omega)
  refine ⟨c, ?_⟩
  rw [encodeChar, hc]
  simp only [if_neg hrange.1, if_neg hrange.2.1, if_neg hrange.2.2, hbits]

/-- Where a character that was begun has no fault, its next byte is in range. -/
theorem faultFrom_inner_eq_none {left bits low high position read : Nat} {first : UInt8}
    {bytes : Bytes} (hlow : 0x80 ≤ low)
    (h : faultFrom (.within (left + 1) bits low high) position read first bytes = none) :
    ∃ more rest, bytes = UInt8.ofNat (0x80 + more) :: rest ∧ low ≤ 0x80 + more ∧
      0x80 + more ≤ high ∧
      faultFrom (.within left bits 0x80 0xBF) position (read + 1) first rest = none := by
  cases bytes with
  | nil => cases h
  | cons byte rest =>
      rw [faultFrom] at h
      split at h
      next hrange =>
        have hbyte : 0x80 + (byte.toNat - 0x80) = byte.toNat := by omega
        refine ⟨byte.toNat - 0x80, rest, ?_, by omega, by omega, h⟩
        rw [hbyte, UInt8.ofNat_toNat]
      next => cases h

/-- So is its last byte. -/
theorem faultFrom_last_eq_none {bits low high position read : Nat} {first : UInt8}
    {bytes : Bytes} (hlow : 0x80 ≤ low)
    (h : faultFrom (.within 0 bits low high) position read first bytes = none) :
    ∃ more rest, bytes = UInt8.ofNat (0x80 + more) :: rest ∧ low ≤ 0x80 + more ∧
      0x80 + more ≤ high ∧ faultFrom .ready (position + read + 1) 0 0 rest = none := by
  cases bytes with
  | nil => cases h
  | cons byte rest =>
      rw [faultFrom] at h
      split at h
      next hrange =>
        have hbyte : 0x80 + (byte.toNat - 0x80) = byte.toNat := by omega
        refine ⟨byte.toNat - 0x80, rest, ?_, by omega, by omega, h⟩
        rw [hbyte, UInt8.ofNat_toNat]
      next => cases h

/-- Bytes without a fault begin with those of a character.  The cases are its four lengths, and
the first bytes of none. -/
theorem encodeChar_of_faultFrom {byte : UInt8} {bytes : Bytes} {position read : Nat}
    {first : UInt8} (h : faultFrom .ready position read first (byte :: bytes) = none) :
    ∃ c rest next, byte :: bytes = encodeChar c ++ rest ∧ rest.length ≤ bytes.length ∧
      faultFrom .ready next 0 0 rest = none := by
  have hbyte : UInt8.ofNat byte.toNat = byte := UInt8.ofNat_toNat
  have hlt := byte.toNat_lt
  have hascii : byte < 0x80 ↔ byte.toNat < 0x80 := UInt8.lt_iff_toNat_lt
  rw [faultFrom] at h
  rw [← hbyte]
  generalize byte.toNat = n at h hlt hascii ⊢
  by_cases h1 : n < 0x80
  · rw [start_one h1] at h
    simp only [if_pos (hascii.mpr h1)] at h
    obtain ⟨c, hc⟩ := exists_encodeChar_one h1
    exact ⟨c, bytes, _, by rw [hc]; rfl, Nat.le_refl _, h⟩
  have hnot : ¬ byte < 0x80 := fun hsmall => h1 (hascii.mp hsmall)
  by_cases h2 : n < 0xC2
  · rw [start, if_neg h1, if_pos h2] at h
    simp only [if_neg hnot] at h
    cases h
  by_cases h3 : n < 0xE0
  · obtain ⟨bits, rfl⟩ : ∃ bits, n = 0xC0 + bits := ⟨n - 0xC0, by omega⟩
    rw [start_two (by omega) (by omega)] at h
    obtain ⟨a, rest, rfl, hlow, hhigh, hrest⟩ := faultFrom_last_eq_none (by omega) h
    obtain ⟨c, hc⟩ := exists_encodeChar_two bits a (by omega) (by omega) (by omega)
    exact ⟨c, rest, _, by rw [hc]; rfl, Nat.le_succ _, hrest⟩
  by_cases h4 : n < 0xF0
  · obtain ⟨bits, rfl⟩ : ∃ bits, n = 0xE0 + bits := ⟨n - 0xE0, by omega⟩
    rw [start_three (by omega)] at h
    obtain ⟨a, _, rfl, hlow, hhigh, hmiddle⟩ :=
      faultFrom_inner_eq_none (by split <;> omega) h
    obtain ⟨b, rest, rfl, hlow', hhigh', hrest⟩ := faultFrom_last_eq_none (by omega) hmiddle
    have hrange : a < 64 ∧ 0x20 ≤ bits * 64 + a ∧
        (bits * 64 + a < 0x360 ∨ 0x380 ≤ bits * 64 + a) := by
      split at hlow <;> split at hhigh <;> omega
    obtain ⟨c, hc⟩ := exists_encodeChar_three bits a b hrange.1 (by omega) hrange.2.1 (by omega)
      hrange.2.2
    exact ⟨c, rest, _, by rw [hc]; rfl, by simp only [List.length_cons]; omega, hrest⟩
  by_cases h5 : n < 0xF5
  · obtain ⟨bits, rfl⟩ : ∃ bits, n = 0xF0 + bits := ⟨n - 0xF0, by omega⟩
    rw [start_four (by omega)] at h
    obtain ⟨a, _, rfl, hlow, hhigh, hmiddle⟩ :=
      faultFrom_inner_eq_none (by split <;> omega) h
    obtain ⟨b, _, rfl, hlow', hhigh', hlast⟩ := faultFrom_inner_eq_none (by omega) hmiddle
    obtain ⟨d, rest, rfl, hlow'', hhigh'', hrest⟩ := faultFrom_last_eq_none (by omega) hlast
    have hrange : a < 64 ∧ 0x10 ≤ bits * 64 + a ∧ bits * 64 + a < 0x110 := by
      split at hlow <;> split at hhigh <;> omega
    obtain ⟨c, hc⟩ := exists_encodeChar_four bits a b d hrange.1 (by omega) (by omega) hrange.2.1
      hrange.2.2
    exact ⟨c, rest, _, by rw [hc]; rfl, by simp only [List.length_cons]; omega, hrest⟩
  · rw [start, if_neg h1, if_neg h2, if_neg h3, if_neg h4, if_neg h5] at h
    simp only [if_neg hnot] at h
    cases h

/-- Bytes without a fault are those of a text.  The induction is on how many there are. -/
theorem encode_of_faultFrom {length : Nat} {bytes : Bytes} (hlength : bytes.length ≤ length)
    {position read : Nat} {first : UInt8}
    (h : faultFrom .ready position read first bytes = none) : ∃ s, bytes = encode s := by
  induction length generalizing bytes position read first with
  | zero => exact ⟨[], List.length_eq_zero_iff.mp (Nat.le_zero.mp hlength)⟩
  | succ length ih =>
      cases bytes with
      | nil => exact ⟨[], rfl⟩
      | cons byte bytes =>
          obtain ⟨c, rest, next, hbytes, hrest, hfault⟩ := encodeChar_of_faultFrom h
          obtain ⟨s, rfl⟩ := ih (hrest.trans (Nat.le_of_succ_le_succ hlength)) hfault
          exact ⟨c :: s, hbytes⟩

/-- The stricter reader accepts exactly the bytes of texts. -/
theorem decodeOrFault_eq_ok_iff {bytes : Bytes} {s : Text} :
    decodeOrFault bytes = .ok s ↔ bytes = encode s := by
  refine ⟨fun h => ?_, fun h => h ▸ decodeOrFault_encode s⟩
  cases hfault : utf8Fault? bytes with
  | some fault =>
      rw [decodeOrFault, hfault] at h
      cases h
  | none =>
      obtain ⟨t, rfl⟩ := encode_of_faultFrom (Nat.le_refl _) hfault
      rw [decodeOrFault_encode] at h
      rw [Except.ok.inj h]

end TlaRunner.Text
