import TlaRunner.Proofs.Text.Utf8

/-!
# What stands for malformed bytes

`Decodes bytes s` says which text bytes are, whether they are well formed or not: a character for
the bytes that encode it, and one U+FFFD for each malformed part.  Where no character begins, the
malformed part is the longest one that begins the bytes of some character, or a single byte if
there is none.  No decoder is needed to say so.

Bytes are one text (`Decodes.unique`), and the decoder reads them as that text
(`decodes_iff`).  What it knows between two bytes is which bytes go on: those in its range
(`opening_concat_iff`).

A byte below 0x80 is a character by itself and never part of another one, so a line feed ends
whatever stands before it, well formed or not (`Decodes.append_feed`).
-/

namespace TlaRunner.Text

/-! ## The rule -/

/-- Whether bytes begin those of a character. -/
def Opening (bytes : Bytes) : Prop :=
  ∃ c, bytes <+: encodeChar c

/-- What is replaced as a whole in front of other bytes. -/
structure Malformed (part rest : Bytes) : Prop where
  /-- It is a byte at least. -/
  ne_nil : part ≠ []
  /-- It begins a character, unless it is a single byte. -/
  opening : part.length = 1 ∨ Opening part
  /-- No character begins here. -/
  not_char : ∀ c, ¬ encodeChar c <+: part ++ rest
  /-- Nothing longer begins a character. -/
  longest : ∀ longer, longer <+: part ++ rest → part.length < longer.length → ¬ Opening longer

/-- Which text bytes are. -/
inductive Decodes : Bytes → Text → Prop
  /-- No bytes are no character. -/
  | nil : Decodes [] []
  /-- The bytes of a character are that character. -/
  | char {c : Char} {rest : Bytes} {s : Text} (h : Decodes rest s) :
    Decodes (encodeChar c ++ rest) (c :: s)
  /-- A malformed part is replaced. -/
  | malformed {part rest : Bytes} {s : Text} (hpart : Malformed part rest) (h : Decodes rest s) :
    Decodes (part ++ rest) (replacement :: s)

theorem Opening.of_prefix {part bytes : Bytes} (h : Opening bytes) (hpart : part <+: bytes) :
    Opening part :=
  h.imp fun _ hc => hpart.trans hc

theorem encodeChar_ne_nil (c : Char) : encodeChar c ≠ [] := fun hnil => by
  have hrun := Decoder.run_encodeChar c
  rw [hnil] at hrun
  cases hrun

/-- Bytes with a character in front are a character and other bytes, in one way. -/
theorem encodeChar_append_inj {c c' : Char} {rest rest' : Bytes}
    (h : encodeChar c ++ rest = encodeChar c' ++ rest') : c = c' ∧ rest = rest' := by
  have hdecode (c : Char) (rest : Bytes) : decode (encodeChar c ++ rest) = c :: decode rest := by
    have hone := decode_encode_append [c] rest
    rwa [show encode [c] = encodeChar c from List.append_nil _] at hone
  have hchars := hdecode c rest
  rw [h, hdecode] at hchars
  obtain rfl := (List.cons.inj hchars).1
  exact ⟨rfl, List.append_cancel_left h⟩

/-- Of two malformed parts in front of the same bytes none is longer. -/
theorem Malformed.length_le {part rest part' rest' : Bytes} (hpart : Malformed part rest)
    (hpart' : Malformed part' rest') (h : part ++ rest = part' ++ rest') :
    part'.length ≤ part.length := by
  refine Nat.le_of_not_lt fun hlt => ?_
  rcases hpart'.opening with hone | hopening
  · have hpos := List.length_pos_iff.mpr hpart.ne_nil
    omega
  · exact hpart.longest part' (h ▸ List.prefix_append part' rest') hlt hopening

/-- Bytes are one text. -/
theorem Decodes.unique {bytes : Bytes} {s t : Text} (hs : Decodes bytes s) (ht : Decodes bytes t) :
    s = t := by
  induction hs generalizing t with
  | nil =>
      generalize hbytes : ([] : Bytes) = bytes at ht
      cases ht with
      | nil => rfl
      | char _ => exact absurd (List.append_eq_nil_iff.mp hbytes.symm).1 (encodeChar_ne_nil _)
      | malformed hpart _ => exact absurd (List.append_eq_nil_iff.mp hbytes.symm).1 hpart.ne_nil
  | @char c rest s _ ih =>
      generalize hbytes : encodeChar c ++ rest = bytes at ht
      cases ht with
      | nil => exact absurd (List.append_eq_nil_iff.mp hbytes).1 (encodeChar_ne_nil c)
      | char h =>
          obtain ⟨rfl, rfl⟩ := encodeChar_append_inj hbytes
          rw [ih h]
      | malformed hpart _ => exact absurd (hbytes ▸ List.prefix_append _ _) (hpart.not_char c)
  | @malformed part rest s hpart _ ih =>
      generalize hbytes : part ++ rest = bytes at ht
      cases ht with
      | nil => exact absurd (List.append_eq_nil_iff.mp hbytes).1 hpart.ne_nil
      | @char c rest' _ _ =>
          exact absurd (hbytes ▸ List.prefix_append (encodeChar c) rest') (hpart.not_char c)
      | @malformed part' rest' _ hpart' h =>
          have hlength : part.length = part'.length :=
            Nat.le_antisymm (hpart'.length_le hpart hbytes.symm) (hpart.length_le hpart' hbytes)
          obtain ⟨rfl, rfl⟩ := List.append_inj hbytes hlength
          rw [ih h]

/-! ## What goes on -/

namespace Decoder

/-- Bytes with a character in front give one. -/
theorem run_ne_nil_of_prefix {c : Char} {bytes : Bytes} (h : encodeChar c <+: bytes) :
    (ready.run bytes).1 ≠ [] := by
  obtain ⟨rest, rfl⟩ := h
  rw [run_append, run_encodeChar]
  exact List.cons_ne_nil _ _

/-- Bytes that give nothing and leave nothing unfinished are none. -/
theorem eq_nil_of_run_ready {bytes : Bytes} (h : ready.run bytes = ([], ready)) : bytes = [] := by
  by_contra hne
  exact run_ready (by rw [h]) hne (by rw [h])

/-- What was read before one more byte, where nothing was given. -/
theorem run_concat_eq_nil {part : Bytes} {byte : UInt8} {decoder : Decoder}
    (h : ready.run (part ++ [byte]) = ([], decoder)) :
    ∃ middle, ready.run part = ([], middle) ∧ middle.step byte = ([], decoder) := by
  rw [run_append, Prod.mk.injEq, List.append_eq_nil_iff] at h
  obtain ⟨⟨hpart, hbyte⟩, hdecoder⟩ := h
  refine ⟨(ready.run part).2, Prod.ext hpart rfl, Prod.ext ?_ hdecoder⟩
  exact (List.append_eq_nil_iff.mp hbyte).1

theorem step_zero {bits low high : Nat} {byte : UInt8}
    (h : low ≤ byte.toNat ∧ byte.toNat ≤ high) :
    (within 0 bits low high).step byte =
      ([Char.ofNat (bits * 64 + (byte.toNat - 0x80))], ready) := by
  simp only [step, if_pos h]

theorem step_succ {left bits low high : Nat} {byte : UInt8}
    (h : low ≤ byte.toNat ∧ byte.toNat ≤ high) :
    (within (left + 1) bits low high).step byte =
      ([], within left (bits * 64 + (byte.toNat - 0x80)) 0x80 0xBF) := by
  simp only [step, if_pos h]

/-- A byte out of range is replaced with what was read, or the start of a surrogate is held
back. -/
theorem step_of_not {left bits low high : Nat} {byte : UInt8}
    (h : ¬ (low ≤ byte.toNat ∧ byte.toNat ≤ high)) :
    (within left bits low high).step byte =
      if high = 0x9F ∧ 0xA0 ≤ byte.toNat ∧ byte.toNat ≤ 0xBF then ([], surrogate)
      else (replacement :: (start byte.toNat).1, (start byte.toNat).2) := by
  simp only [step, if_neg h]

/-- A byte behind an unfinished character that leaves it unfinished is in range. -/
theorem step_within_eq {left bits low high left' bits' low' high' : Nat} {byte : UInt8}
    (h : (within left bits low high).step byte = ([], within left' bits' low' high')) :
    (low ≤ byte.toNat ∧ byte.toNat ≤ high) ∧ left = left' + 1 ∧ low' = 0x80 ∧ high' = 0xBF := by
  by_cases hrange : low ≤ byte.toNat ∧ byte.toNat ≤ high
  · cases left with
    | zero =>
        rw [step_zero hrange] at h
        cases h
    | succ left =>
        rw [step_succ hrange] at h
        cases h
        exact ⟨hrange, rfl, rfl, rfl⟩
  · rw [step_of_not hrange] at h
    split at h
    · cases h
    · cases h

/-- Where a character is unfinished, the search for a fault is inside it.  Which character it
is does not matter to the search. -/
theorem faultFrom_of_run {part : Bytes} {left bits low high : Nat}
    (h : ready.run part = ([], within left bits low high)) (rest : Bytes) :
    ∃ any position read first, faultFrom ready 0 0 0 (part ++ rest) =
      faultFrom (within left any low high) position read first rest := by
  induction part using List.reverseRecOn generalizing left bits low high rest with
  | nil => cases h
  | append_singleton part byte ih =>
      obtain ⟨middle, hpart, hbyte⟩ := run_concat_eq_nil h
      rw [List.append_assoc, List.singleton_append]
      cases middle with
      | ready =>
          obtain rfl := eq_nil_of_run_ready hpart
          have hstart : start byte.toNat = ([], within left bits low high) := hbyte
          exact ⟨bits, 0, 1, byte, by rw [List.nil_append, faultFrom, hstart]⟩
      | within left' bits' low' high' =>
          obtain ⟨hrange, hleft, hlow, hhigh⟩ := step_within_eq hbyte
          obtain ⟨any, position, read, first, hfault⟩ := ih hpart (byte :: rest)
          refine ⟨any, position, read + 1, first, ?_⟩
          rw [hfault, hleft, faultFrom, if_pos hrange, hlow, hhigh]
      | surrogate => cases hbyte

/-- An unfinished character can be finished behind every byte in range. -/
theorem faultFrom_finished {left bits low high position read : Nat} {first byte : UInt8}
    (h : low ≤ byte.toNat ∧ byte.toNat ≤ high) :
    faultFrom (within left bits low high) position read first
      (byte :: List.replicate left 0x80) = none := by
  induction left generalizing bits low high read byte with
  | zero => rw [faultFrom, if_pos h]; rfl
  | succ left ih =>
      rw [faultFrom, if_pos h, List.replicate_succ]
      exact ih ⟨by decide, by decide⟩

/-- The bytes that go on behind an unfinished character are those in range. -/
theorem opening_concat_iff {part : Bytes} {left bits low high : Nat}
    (h : ready.run part = ([], within left bits low high)) (byte : UInt8) :
    Opening (part ++ [byte]) ↔ low ≤ byte.toNat ∧ byte.toNat ≤ high := by
  have hgiven (c : Char) : ¬ encodeChar c <+: part := fun hc => run_ne_nil_of_prefix hc (by rw [h])
  constructor
  · rintro ⟨c, tail, htail⟩
    -- Outside its range a byte gives a replacement too many, or holds back two of them.
    by_contra hrange
    have hrun : ready.run (part ++ [byte]) = (within left bits low high).run [byte] := by
      rw [run_append, h]
      rfl
    rw [run, step_of_not hrange, run] at hrun
    by_cases hnil : tail = []
    · have hwhole := run_encodeChar c
      rw [← htail, hnil, List.append_nil, hrun] at hwhole
      split at hwhole
      next => cases hwhole
      next =>
        have hready : (start byte.toNat).2 = ready := congrArg Prod.snd hwhole
        have hchars : (start byte.toNat).1 ++ [] = [] :=
          (List.cons.inj (congrArg Prod.fst hwhole)).2
        exact start_ready hready (List.append_eq_nil_iff.mp hchars).1
    · obtain ⟨hnone, left', bits', low', high', hstate⟩ :=
        run_unfinished htail.symm (by simp) hnil
      rw [hrun] at hnone hstate
      split at hnone
      next hsurrogate =>
        rw [if_pos hsurrogate] at hstate
        cases hstate
      next => cases hnone
  · intro hrange
    obtain ⟨_, position, read, first, hfault⟩ :=
      faultFrom_of_run h (byte :: List.replicate left 0x80)
    rw [faultFrom_finished hrange] at hfault
    obtain ⟨s, hs⟩ := encode_of_faultFrom (Nat.le_refl _) hfault
    cases s with
    | nil => exact absurd hs (by simp [encode])
    | cons c s =>
        have hwhole : part ++ [byte] <+: part ++ byte :: List.replicate left 0x80 :=
          (List.prefix_append_right_inj part).mpr ⟨_, rfl⟩
        have hchar : encodeChar c <+: part ++ byte :: List.replicate left 0x80 :=
          hs ▸ List.prefix_append _ _
        rcases List.prefix_or_prefix_of_prefix hwhole hchar with hopening | hshort
        · exact ⟨c, hopening⟩
        · rcases List.prefix_concat_iff.mp hshort with heq | hpart
          · exact ⟨c, heq ▸ List.prefix_rfl⟩
          · exact absurd hpart (hgiven c)

/-! ## What is replaced -/

/-- What was read of an unfinished character begins one, unless it is a single byte. -/
theorem opening_of_run {part : Bytes} {left bits low high : Nat}
    (h : ready.run part = ([], within left bits low high)) :
    part.length = 1 ∨ Opening part := by
  induction part using List.reverseRecOn with
  | nil => cases h
  | append_singleton part byte _ =>
      obtain ⟨middle, hpart, hbyte⟩ := run_concat_eq_nil h
      cases middle with
      | ready => exact Or.inl (by rw [eq_nil_of_run_ready hpart]; rfl)
      | within left' bits' low' high' =>
          exact Or.inr ((opening_concat_iff hpart byte).mpr (step_within_eq hbyte).1)
      | surrogate => cases hbyte

/-- An unfinished character is malformed where the next byte does not go on. -/
theorem malformed_of_run {part : Bytes} {left bits low high : Nat}
    (h : ready.run part = ([], within left bits low high)) {rest : Bytes}
    (hnext : ∀ byte ∈ rest.head?, ¬ (low ≤ byte.toNat ∧ byte.toNat ≤ high)) :
    Malformed part rest := by
  have hlongest : ∀ longer, longer <+: part ++ rest → part.length < longer.length →
      ¬ Opening longer := by
    intro longer hlonger hlt hopening
    obtain ⟨tail, rfl⟩ : part <+: longer :=
      List.prefix_of_prefix_length_le (List.prefix_append part rest) hlonger hlt.le
    rw [List.prefix_append_right_inj] at hlonger
    cases tail with
    | nil => simp at hlt
    | cons byte tail =>
        obtain ⟨more, rfl⟩ := hlonger
        refine hnext byte rfl ((opening_concat_iff h byte).mp (hopening.of_prefix ?_))
        exact (List.prefix_append_right_inj part).mpr ⟨tail, rfl⟩
  refine ⟨?_, opening_of_run h, fun c hc => ?_, hlongest⟩
  · rintro rfl
    cases h
  · rcases Nat.lt_or_ge part.length (encodeChar c).length with hlt | hge
    · exact hlongest _ hc hlt ⟨c, List.prefix_rfl⟩
    · have hpart := List.prefix_of_prefix_length_le hc (List.prefix_append part rest) hge
      exact run_ne_nil_of_prefix hpart (by rw [h])

/-- A byte is an ASCII character, begins no character, or begins one of several bytes. -/
theorem start_cases (byte : UInt8) :
    (∃ c, start byte.toNat = ([c], ready) ∧ encodeChar c = [byte]) ∨
      start byte.toNat = ([replacement], ready) ∨
      ∃ left bits low high, start byte.toNat = ([], within left bits low high) := by
  by_cases hascii : byte.toNat < 0x80
  · obtain ⟨c, hc⟩ := exists_encodeChar_one hascii
    rw [UInt8.ofNat_toNat] at hc
    have hrun := run_encodeChar c
    rw [hc, run, run, List.append_nil] at hrun
    exact Or.inl ⟨c, hrun, hc⟩
  · refine Or.inr ?_
    rw [start, if_neg hascii]
    split
    · exact Or.inl rfl
    split
    · exact Or.inr ⟨_, _, _, _, rfl⟩
    split
    · exact Or.inr ⟨_, _, _, _, rfl⟩
    split
    · exact Or.inr ⟨_, _, _, _, rfl⟩
    · exact Or.inl rfl

/-- A byte that begins no character is malformed by itself. -/
theorem malformed_of_start {byte : UInt8} (h : start byte.toNat = ([replacement], ready))
    (rest : Bytes) : Malformed [byte] rest := by
  have hopening : ¬ Opening [byte] := by
    rintro ⟨c, tail, htail⟩
    have hrun := run_encodeChar c
    have hstep : ready.step byte = ([replacement], ready) := h
    rw [← htail, List.singleton_append, run, hstep, Prod.mk.injEq] at hrun
    obtain ⟨hc, hnone⟩ := List.cons.inj hrun.1
    have htail' : tail = [] := eq_nil_of_run_ready (Prod.ext hnone hrun.2)
    rw [htail', List.append_nil] at htail
    have hlength := congrArg List.length htail
    rw [← hc] at hlength
    exact absurd hlength (by simp [encodeChar, replacement])
  refine ⟨List.cons_ne_nil _ _, Or.inl rfl, fun c hc => ?_, fun longer hlonger hlt hlong => ?_⟩
  · have hpos : [byte].length ≤ (encodeChar c).length :=
      List.length_pos_iff.mpr (encodeChar_ne_nil c)
    exact hopening ⟨c, List.prefix_of_prefix_length_le (List.prefix_append _ _) hc hpos⟩
  · exact hopening (hlong.of_prefix
      (List.prefix_of_prefix_length_le (List.prefix_append _ _) hlonger hlt.le))

/-- The two bytes that begin a surrogate are replaced one by one. -/
theorem decodes_of_surrogate {part rest : Bytes} {s : Text}
    (h : ready.run part = ([], surrogate)) (hrest : Decodes rest s) :
    Decodes (part ++ rest) (replacement :: replacement :: s) := by
  induction part using List.reverseRecOn with
  | nil => cases h
  | append_singleton part byte _ =>
      obtain ⟨middle, hpart, hbyte⟩ := run_concat_eq_nil h
      rw [List.append_assoc]
      cases middle with
      | ready =>
          have hstart : start byte.toNat = ([], surrogate) := hbyte
          rcases start_cases byte with ⟨c, hc, _⟩ | hc | ⟨_, _, _, _, hc⟩
          all_goals rw [hstart] at hc; cases hc
      | within left bits low high =>
          by_cases hrange : low ≤ byte.toNat ∧ byte.toNat ≤ high
          · cases left with
            | zero =>
                rw [step_zero hrange] at hbyte
                cases hbyte
            | succ left =>
                rw [step_succ hrange] at hbyte
                cases hbyte
          · rw [step_of_not hrange] at hbyte
            split at hbyte
            next hsurrogate =>
              have hstart : start byte.toNat = ([replacement], ready) := by
                rw [start, if_neg (by omega), if_pos (by omega)]
              refine .malformed (malformed_of_run hpart fun next hnext => ?_)
                (.malformed (malformed_of_start hstart rest) hrest)
              cases hnext
              exact hrange
            next => cases hbyte
      | surrogate => cases hbyte

end Decoder

/-! ## The decoder -/

open Decoder

/-- Behind bytes that gave nothing yet, the decoder reads on by the rule.  The induction is on
what is still to be read. -/
theorem decodes_of_run {part rest : Bytes} {decoder : Decoder}
    (h : ready.run part = ([], decoder)) :
    Decodes (part ++ rest) ((decoder.run rest).1 ++ (decoder.run rest).2.finish) := by
  induction rest generalizing part decoder with
  | nil =>
      cases decoder with
      | ready =>
          rw [eq_nil_of_run_ready h]
          exact .nil
      | within left bits low high =>
          exact .malformed (malformed_of_run h fun _ hbyte => by cases hbyte) .nil
      | surrogate => exact decodes_of_surrogate h .nil
  | cons byte rest ih =>
      have hnone : ready.run [] = ([], ready) := rfl
      have hafresh : Decodes (byte :: rest)
          ((ready.run (byte :: rest)).1 ++ (ready.run (byte :: rest)).2.finish) := by
        have hstep : ready.step byte = start byte.toNat := rfl
        rw [run, hstep]
        rcases start_cases byte with ⟨c, hc, hbyte⟩ | hc | ⟨left, bits, low, high, hc⟩
        · have hchar := Decodes.char (c := c) (ih hnone)
          rw [hbyte] at hchar
          rw [hc]
          exact hchar
        · rw [hc]
          exact .malformed (malformed_of_start hc rest) (ih hnone)
        · have hopened : ready.run [byte] = ([], within left bits low high) := by
            rw [run, hstep, hc]
            rfl
          rw [hc]
          exact ih hopened
      have happend : ready.run (part ++ [byte]) = decoder.run [byte] := by
        rw [run_append, h]
        rfl
      cases decoder with
      | ready =>
          rw [eq_nil_of_run_ready h]
          exact hafresh
      | within left bits low high =>
          rw [run] at happend ⊢
          by_cases hrange : low ≤ byte.toNat ∧ byte.toNat ≤ high
          · cases left with
            | zero =>
                rw [step_zero hrange] at happend ⊢
                generalize Char.ofNat (bits * 64 + (byte.toNat - 0x80)) = last at happend ⊢
                -- The character that the bytes begin is finished with this one.
                obtain ⟨c, tail, htail⟩ := (opening_concat_iff h byte).mpr hrange
                have hwhole : tail = [] := by
                  by_contra hne
                  obtain ⟨hopen, _⟩ := run_unfinished htail.symm (by simp) hne
                  rw [happend] at hopen
                  cases hopen
                have hc := run_encodeChar c
                rw [← htail, hwhole, List.append_nil, happend] at hc
                have hchar := Decodes.char (c := c) (ih hnone)
                rw [← htail, hwhole, List.append_nil, List.append_assoc] at hchar
                cases hc
                exact hchar
            | succ left =>
                rw [step_succ hrange] at happend ⊢
                rw [List.append_cons]
                exact ih happend
          · rw [step_of_not hrange] at happend ⊢
            split
            next hsurrogate =>
              rw [if_pos hsurrogate] at happend
              rw [List.append_cons]
              exact ih happend
            next =>
              refine .malformed (malformed_of_run h fun next hnext => ?_) hafresh
              cases hnext
              exact hrange
      | surrogate => exact decodes_of_surrogate h hafresh

theorem decodes_decode (bytes : Bytes) : Decodes bytes (decode bytes) :=
  decodes_of_run (show ready.run [] = ([], ready) from rfl)

/-- The decoder reads bytes as the text they are. -/
theorem decodes_iff {bytes : Bytes} {s : Text} : Decodes bytes s ↔ s = decode bytes :=
  ⟨fun h => h.unique (decodes_decode bytes), fun h => h ▸ decodes_decode bytes⟩

/-! ## Line feeds -/

/-- A byte below 0x80 is a character by itself. -/
theorem encodeChar_of_mem {c : Char} {byte : UInt8} (h : byte ∈ encodeChar c)
    (hascii : byte.toNat < 0x80) : encodeChar c = [byte] := by
  have hlarge (n : Nat) (hn : 0x80 ≤ n) (hlt : n < 0x100) : byte ≠ UInt8.ofNat n := fun heq => by
    rw [heq, toNat_ofNat_byte hlt] at hascii
    omega
  have hvalid : c.toNat < 0xD800 ∨ (0xDFFF < c.toNat ∧ c.toNat < 0x110000) := c.valid
  unfold encodeChar at h ⊢
  generalize c.toNat = n at h hvalid ⊢
  simp only at h ⊢
  split at h
  next hone =>
    rw [if_pos hone, List.mem_singleton.mp h]
  split at h
  next =>
    simp only [List.mem_cons, List.not_mem_nil, or_false] at h
    rcases h with h | h
    · exact absurd h (hlarge _ (by omega) (by omega))
    · exact absurd h (hlarge _ (by omega) (by omega))
  split at h
  next =>
    simp only [List.mem_cons, List.not_mem_nil, or_false] at h
    rcases h with h | h | h
    · exact absurd h (hlarge _ (by omega) (by omega))
    · exact absurd h (hlarge _ (by omega) (by omega))
    · exact absurd h (hlarge _ (by omega) (by omega))
  next =>
    simp only [List.mem_cons, List.not_mem_nil, or_false] at h
    rcases h with h | h | h | h
    · exact absurd h (hlarge _ (by omega) (by omega))
    · exact absurd h (hlarge _ (by omega) (by omega))
    · exact absurd h (hlarge _ (by omega) (by omega))
    · exact absurd h (hlarge _ (by omega) (by omega))

theorem encodeChar_feed : encodeChar '\n' = [0x0A] := by decide

/-- No character begins before a line feed and goes past it. -/
theorem prefix_of_prefix_feed {part rest tail : Bytes} (hpart : part ≠ [])
    (h : part <+: rest ++ 0x0A :: tail) (hrest : rest ≠ []) (hopening : Opening part) :
    part <+: rest := by
  rcases prefix_append_cases h with ⟨hshort, _⟩ | ⟨later, rfl, hlater⟩
  · exact hshort
  · cases later with
    | nil => rw [List.append_nil]
    | cons byte later =>
        obtain ⟨more, hmore⟩ := hlater
        obtain ⟨rfl, -⟩ := List.cons.inj hmore
        obtain ⟨c, hc⟩ := hopening
        have hmem : (0x0A : UInt8) ∈ encodeChar c :=
          hc.subset (List.mem_append_right _ List.mem_cons_self)
        have hlength := hc.length_le
        rw [encodeChar_of_mem hmem (by decide), List.length_append] at hlength
        have hpos := List.length_pos_iff.mpr hrest
        simp only [List.length_cons, List.length_nil] at hlength
        omega

/-- What is malformed before a line feed is the same whatever comes behind that. -/
theorem Malformed.append_feed {part rest : Bytes} (h : Malformed part rest) (tail : Bytes) :
    Malformed part (rest ++ 0x0A :: tail) := by
  have hne : part ++ rest ≠ [] := List.append_ne_nil_of_left_ne_nil h.ne_nil rest
  refine ⟨h.ne_nil, h.opening, fun c hc => ?_, fun longer hlonger hlt hopening => ?_⟩
  · rw [← List.append_assoc] at hc
    exact h.not_char c
      (prefix_of_prefix_feed (encodeChar_ne_nil c) hc hne ⟨c, List.prefix_rfl⟩)
  · rw [← List.append_assoc] at hlonger
    have hlongne : longer ≠ [] := List.length_pos_iff.mp (Nat.zero_lt_of_lt hlt)
    exact h.longest longer (prefix_of_prefix_feed hlongne hlonger hne hopening) hlt hopening

/-- A line feed is read as one, whatever stands before and behind it. -/
theorem Decodes.append_feed {before after : Bytes} {s t : Text} (hbefore : Decodes before s)
    (hafter : Decodes after t) : Decodes (before ++ 0x0A :: after) (s ++ '\n' :: t) := by
  induction hbefore with
  | nil =>
      have hfeed := Decodes.char (c := '\n') hafter
      rwa [encodeChar_feed] at hfeed
  | char _ ih =>
      rw [List.append_assoc]
      exact .char ih
  | malformed hpart _ ih =>
      rw [List.append_assoc]
      exact .malformed (hpart.append_feed after) ih

/-- Nothing that is replaced has a line feed. -/
theorem Malformed.feed_notMem {part rest : Bytes} (h : Malformed part rest) : 0x0A ∉ part := by
  intro hmem
  have hpart : part = [0x0A] := by
    rcases h.opening with hone | ⟨c, hc⟩
    · obtain ⟨byte, rfl⟩ := List.length_eq_one_iff.mp hone
      rw [List.mem_singleton.mp hmem]
    · rw [encodeChar_of_mem (hc.subset hmem) (by decide)] at hc
      have hone : part.length = 1 :=
        Nat.le_antisymm hc.length_le (List.length_pos_iff.mpr h.ne_nil)
      exact hc.eq_of_length hone
  refine h.not_char '\n' ?_
  rw [encodeChar_feed, hpart]
  exact List.prefix_append _ _

/-- Of all characters only a line feed has the byte of one. -/
theorem count_feed_encodeChar (c : Char) : (encodeChar c).count 0x0A = [c].count '\n' := by
  by_cases hc : c = '\n'
  · rw [hc, encodeChar_feed]
    rfl
  · have hbyte : (0x0A : UInt8) ∉ encodeChar c := fun hmem => by
      have hsame : encodeChar c ++ [] = encodeChar '\n' ++ [] := by
        rw [encodeChar_of_mem hmem (by decide), encodeChar_feed]
      exact hc (encodeChar_append_inj hsame).1
    rw [List.count_eq_zero.mpr hbyte, List.count_eq_zero.mpr (by simpa using Ne.symm hc)]

/-- As many line feeds are read as there are. -/
theorem Decodes.count_feed {bytes : Bytes} {s : Text} (h : Decodes bytes s) :
    s.count '\n' = bytes.count 0x0A := by
  induction h with
  | nil => rfl
  | @char c _ s _ ih =>
      rw [List.count_append, count_feed_encodeChar, ← ih, ← List.count_append]
      rfl
  | malformed hpart _ ih =>
      rw [List.count_append, List.count_eq_zero.mpr hpart.feed_notMem, Nat.zero_add, ← ih]
      exact List.count_cons_of_ne (by decide)

/-- Bytes are read as no character if there are none. -/
theorem Decodes.eq_nil_iff {bytes : Bytes} {s : Text} (h : Decodes bytes s) :
    s = [] ↔ bytes = [] := by
  cases h with
  | nil => exact iff_of_true rfl rfl
  | char _ =>
      exact iff_of_false (List.cons_ne_nil _ _)
        (List.append_ne_nil_of_left_ne_nil (encodeChar_ne_nil _) _)
  | malformed hpart _ =>
      exact iff_of_false (List.cons_ne_nil _ _) (List.append_ne_nil_of_left_ne_nil hpart.ne_nil _)

end TlaRunner.Text
