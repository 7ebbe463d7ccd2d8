import TlaRunner.Proofs.Text.Search
import TlaRunner.Proofs.Text.Within
import TlaRunner.Protocol.Session

/-!
# Markers and their lines

A line is a marker if, but for blanks at its ends, it is written as one (`Marker.Written`,
`ofLine?_eq_some_iff`): two fences and between them the kind, a numeral, a class behind a start, and
blanks.  A `Sign` is a marker with its numbers read, and `Sign.line` is the line that a tool prints
for it.

The written form tells what any marker has: a fence at either end (`fences_of_ofLine?`), and
numerals that stand in its line (`isNumeralIn_of_ofLine?`).  The session can read these exactly if
each is within the limit, and refuses the first that is not (`readMarker_eq`).
-/

namespace TlaRunner.Protocol

open Text (Scan IsNumeral IsNumeralIn)

/-- The numerals of a marker. -/
def Marker.numerals : Marker → List Text
  | .start code subCode => code :: subCode.toList
  | .stop code => [code]

/-- A marker whose numerals are all within the limit. -/
def Marker.Short (m : Marker) : Prop :=
  ∀ s ∈ m.numerals, s.length ≤ Text.digitLimit

instance (m : Marker) : Decidable m.Short :=
  inferInstanceAs (Decidable (∀ s ∈ m.numerals, s.length ≤ Text.digitLimit))

/-- A marker with its numbers. -/
inductive Sign
  /-- A message starts. -/
  | start (code : Nat) (subCode : Option Nat)
  /-- A message ends. -/
  | stop (code : Nat)
  deriving DecidableEq, Repr

/-- The numbers of a marker. -/
def Marker.sign : Marker → Sign
  | .start code subCode => .start (Text.digitsValue code) (subCode.map Text.digitsValue)
  | .stop code => .stop (Text.digitsValue code)

/-- What a line says about messages, if it is a marker. -/
def signOf? (line : Text) : Option Sign :=
  (Marker.ofLine? line).map Marker.sign

/-! ## The written form -/

/-- How a class is written behind a code. -/
def classForm : Option Text → Text
  | none => []
  | some digits => ':' :: digits

/-- How a marker is written. -/
inductive Marker.Written : Marker → Text → Prop
  /-- The start of a message, with or without a class. -/
  | start {front code back : Text} {subCode : Option Text}
      (hfront : ∀ c ∈ front, Text.isBlank c = true) (hcode : IsNumeral code)
      (hsubCode : ∀ digits ∈ subCode, IsNumeral digits)
      (hback : ∀ c ∈ back, Text.isBlank c = true) :
    Written (.start code subCode) (fence ++ ("STARTMSG".toList ++ (front ++ (code ++
      (classForm subCode ++ (back ++ fence))))))
  /-- The end of a message. -/
  | stop {front code back : Text} (hfront : ∀ c ∈ front, Text.isBlank c = true)
      (hcode : IsNumeral code) (hback : ∀ c ∈ back, Text.isBlank c = true) :
    Written (.stop code)
      (fence ++ ("ENDMSG".toList ++ (front ++ (code ++ (back ++ fence)))))

/-! ### What stands next -/

theorem head?_fence (rest : Text) : ∀ c ∈ (fence ++ rest).head?, Text.isBlank c = false := by
  intro c hc
  cases hc
  decide

theorem head?_numeral {code : Text} (hcode : IsNumeral code) (rest : Text) :
    ∀ c ∈ (code ++ rest).head?, Text.isBlank c = false := by
  intro c hc
  rw [List.head?_append_of_ne_nil _ hcode.1] at hc
  exact Text.isBlank_of_isDigit (hcode.2 c (List.mem_of_mem_head? hc))

/-- Blanks before a fence end where it starts. -/
theorem head?_back {back : Text} (hback : ∀ c ∈ back, Text.isBlank c = true) (rest : Text) :
    ∀ c ∈ (back ++ (fence ++ rest)).head?, Text.isBlank c = true ∨ c = '@' := by
  intro c hc
  cases back with
  | nil => exact Or.inr (Option.some.inj hc).symm
  | cons d back => exact Or.inl (Option.some.inj hc ▸ hback d List.mem_cons_self)

theorem isDigit_head?_back {back : Text} (hback : ∀ c ∈ back, Text.isBlank c = true)
    (rest : Text) : ∀ c ∈ (back ++ (fence ++ rest)).head?, Text.isDigit c = false := by
  intro c hc
  rcases head?_back hback rest c hc with hblank | rfl
  · exact Text.isDigit_of_isBlank hblank
  · decide

/-- What stands behind a code is no digit. -/
theorem isDigit_head?_class (subCode : Option Text) {back : Text}
    (hback : ∀ c ∈ back, Text.isBlank c = true) (rest : Text) :
    ∀ c ∈ (classForm subCode ++ (back ++ (fence ++ rest))).head?, Text.isDigit c = false := by
  cases subCode with
  | none => exact isDigit_head?_back hback rest
  | some digits =>
      intro c hc
      cases hc
      decide

/-! ### Reading -/

/-- A class is read up to the blanks and the fence behind it. -/
theorem optional_classDigits_append {subCode : Option Text} {back : Text}
    (hsubCode : ∀ digits ∈ subCode, IsNumeral digits)
    (hback : ∀ c ∈ back, Text.isBlank c = true) (rest : Text) :
    Scan.optional classDigits (classForm subCode ++ (back ++ (fence ++ rest))) =
      some (subCode, back ++ (fence ++ rest)) := by
  cases subCode with
  | none =>
      refine Scan.optional_of_none (Option.eq_none_iff_forall_ne_some.mpr fun found h => ?_)
      obtain ⟨tail, htail⟩ : [':'] <+: classForm none ++ (back ++ (fence ++ rest)) :=
        Scan.prefix_of_literal_bind h
      have hhead : ':' ∈ (back ++ (fence ++ rest)).head? := by
        rw [← List.nil_append (back ++ (fence ++ rest)), ← classForm, ← htail]
        rfl
      rcases head?_back hback rest ':' hhead with hblank | hat
      · exact absurd hblank (by decide)
      · exact absurd hat (by decide)
  | some digits =>
      have hdigits := hsubCode digits rfl
      have hcolon : classForm (some digits) ++ (back ++ (fence ++ rest)) =
          [':'] ++ (digits ++ (back ++ (fence ++ rest))) := rfl
      refine Scan.optional_of_some ?_
      rw [hcolon, classDigits, Scan.bind_apply, Scan.literal_append]
      exact Scan.some1_append hdigits.1 hdigits.2 (isDigit_head?_back hback rest)

/-- What is read as a class is written as one. -/
theorem of_optional_classDigits {s rest : Text} {found : Option Text}
    (h : Scan.optional classDigits s = some (found, rest)) :
    s = classForm found ++ rest ∧ ∀ digits ∈ found, IsNumeral digits := by
  rw [Scan.optional] at h
  split at h
  next digits after hclass =>
    cases h
    obtain ⟨_, middle, hcolon, hdigits⟩ := Scan.bind_eq_some.mp hclass
    obtain ⟨rfl, hnumeral, _⟩ := Scan.digits_eq_some_iff.mp hdigits
    have hs : s = [':'] ++ (digits ++ rest) := Scan.literal_eq_some hcolon
    refine ⟨hs, fun other hother => ?_⟩
    cases hother
    exact hnumeral
  next =>
    cases h
    exact ⟨rfl, fun _ hnone => by cases hnone⟩

theorem startMarker_eq_some_iff {s rest code : Text} {subCode : Option Text} :
    startMarker s = some ((code, subCode), rest) ↔
      ∃ text, Marker.Written (.start code subCode) text ∧ s = text ++ rest := by
  constructor
  · intro h
    obtain ⟨_, s₁, hkind, h⟩ := Scan.bind_eq_some.mp h
    obtain ⟨front, s₂, hrun, h⟩ := Scan.bind_eq_some.mp h
    obtain ⟨_, s₃, hdigits, h⟩ := Scan.bind_eq_some.mp h
    obtain ⟨_, s₄, hclass, h⟩ := Scan.bind_eq_some.mp h
    obtain ⟨back, s₅, hrun', h⟩ := Scan.bind_eq_some.mp h
    obtain ⟨_, s₆, hlast, h⟩ := Scan.bind_eq_some.mp h
    cases h
    obtain rfl := Scan.literal_eq_some hkind
    obtain ⟨rfl, hfront⟩ := Scan.many_eq_some hrun
    obtain ⟨rfl, hcode, _⟩ := Scan.digits_eq_some_iff.mp hdigits
    obtain ⟨rfl, hsubCode⟩ := of_optional_classDigits hclass
    obtain ⟨rfl, hback⟩ := Scan.many_eq_some hrun'
    obtain rfl := Scan.literal_eq_some hlast
    exact ⟨_, .start hfront hcode hsubCode hback, by simp only [List.append_assoc]⟩
  · rintro ⟨_, hwritten, rfl⟩
    cases hwritten with | start hfront hcode hsubCode hback
    have hdigits := Scan.digits_eq_some_iff.mpr
      ⟨rfl, hcode, isDigit_head?_class subCode hback rest⟩
    simp only [List.append_assoc]
    rw [← List.append_assoc fence, startMarker, Scan.bind_apply, Scan.literal_append,
      Option.bind_some, Scan.bind_apply, Scan.many_append hfront (head?_numeral hcode _),
      Option.bind_some, Scan.bind_apply, hdigits, Option.bind_some, Scan.bind_apply,
      optional_classDigits_append hsubCode hback, Option.bind_some, Scan.bind_apply,
      Scan.many_append hback (head?_fence rest), Option.bind_some, Scan.bind_apply,
      Scan.literal_append]
    rfl

theorem endMarker_eq_some_iff {s rest code : Text} :
    endMarker s = some (code, rest) ↔
      ∃ text, Marker.Written (.stop code) text ∧ s = text ++ rest := by
  constructor
  · intro h
    obtain ⟨_, s₁, hkind, h⟩ := Scan.bind_eq_some.mp h
    obtain ⟨front, s₂, hrun, h⟩ := Scan.bind_eq_some.mp h
    obtain ⟨_, s₃, hdigits, h⟩ := Scan.bind_eq_some.mp h
    obtain ⟨back, s₄, hrun', h⟩ := Scan.bind_eq_some.mp h
    obtain ⟨_, s₅, hlast, h⟩ := Scan.bind_eq_some.mp h
    cases h
    obtain rfl := Scan.literal_eq_some hkind
    obtain ⟨rfl, hfront⟩ := Scan.many_eq_some hrun
    obtain ⟨rfl, hcode, _⟩ := Scan.digits_eq_some_iff.mp hdigits
    obtain ⟨rfl, hback⟩ := Scan.many_eq_some hrun'
    obtain rfl := Scan.literal_eq_some hlast
    exact ⟨_, .stop hfront hcode hback, by simp only [List.append_assoc]⟩
  · rintro ⟨_, hwritten, rfl⟩
    cases hwritten with | stop hfront hcode hback
    have hdigits := Scan.digits_eq_some_iff.mpr ⟨rfl, hcode, isDigit_head?_back hback rest⟩
    simp only [List.append_assoc]
    rw [← List.append_assoc fence, endMarker, Scan.bind_apply, Scan.literal_append,
      Option.bind_some, Scan.bind_apply, Scan.many_append hfront (head?_numeral hcode _),
      Option.bind_some, Scan.bind_apply, hdigits, Option.bind_some, Scan.bind_apply,
      Scan.many_append hback (head?_fence rest), Option.bind_some, Scan.bind_apply,
      Scan.literal_append]
    rfl

/-- A line is a marker exactly if it is written as one, but for blanks at its ends. -/
theorem ofLine?_eq_some_iff {line : Text} {m : Marker} :
    Marker.ofLine? line = some m ↔ m.Written (Text.strip line) := by
  -- A last line feed would be a blank.
  have hend {text rest : Text} (h : Text.strip line = text ++ rest)
      (hrest : rest = [] ∨ rest = ['\n']) : Text.strip line = text := by
    rcases hrest with rfl | rfl
    · rw [h, List.append_nil]
    · have hblank := Text.isBlank_getLast?_strip (s := line) '\n' (by rw [h]; simp)
      exact absurd hblank (by decide)
  have hfront {α : Type} {p : Scan α} {a : α} (h : p (Text.strip line) = some (a, [])) :
      Scan.front (p <* Scan.atEnd) (Text.strip line) = some a :=
    Scan.front_atEnd_eq_some_iff.mpr ⟨[], h, Or.inl rfl⟩
  simp only [Marker.ofLine?]
  constructor
  · intro h
    split at h
    next code subCode hstart =>
      cases h
      obtain ⟨rest, hread, hrest⟩ := Scan.front_atEnd_eq_some_iff.mp hstart
      obtain ⟨text, hwritten, htext⟩ := startMarker_eq_some_iff.mp hread
      exact hend htext hrest ▸ hwritten
    next =>
      obtain ⟨code, hstop, rfl⟩ := Option.map_eq_some_iff.mp h
      obtain ⟨rest, hread, hrest⟩ := Scan.front_atEnd_eq_some_iff.mp hstop
      obtain ⟨text, hwritten, htext⟩ := endMarker_eq_some_iff.mp hread
      exact hend htext hrest ▸ hwritten
  · intro h
    cases m with
    | start code subCode =>
        have hread := startMarker_eq_some_iff.mpr ⟨_, h, (List.append_nil _).symm⟩
        rw [hfront hread]
    | stop code =>
        have hread := endMarker_eq_some_iff.mpr ⟨_, h, (List.append_nil _).symm⟩
        have hother : Scan.front (startMarker <* Scan.atEnd) (Text.strip line) = none := by
          generalize Text.strip line = s at h
          cases h
          rfl
        rw [hother, hfront hread]
        rfl

/-! ### What every marker has -/

section

variable {m : Marker} {s : Text}

theorem Marker.Written.front_fence (h : m.Written s) : fence <+: s := by
  cases h with
  | start => exact List.prefix_append _ _
  | stop => exact List.prefix_append _ _

theorem Marker.Written.back_fence (h : m.Written s) : fence <:+ s := by
  cases h with
  | start =>
      simp only [← List.append_assoc]
      exact List.suffix_append _ _
  | stop =>
      simp only [← List.append_assoc]
      exact List.suffix_append _ _

/-- A marker has nothing to strip. -/
theorem Marker.Written.strip_eq (h : m.Written s) : Text.strip s = s := by
  refine Text.strip_eq_self (fun c hc => ?_) fun c hc => ?_
  · obtain ⟨rest, rfl⟩ := h.front_fence
    cases hc
    decide
  · obtain ⟨front, rfl⟩ := h.back_fence
    rw [List.getLast?_append_of_ne_nil front (by decide)] at hc
    cases hc
    decide

/-- Characters that are no blanks, no digits and no colons stand in the fences and the kind
alone. -/
theorem count_at_written (subCode : Option Text) {kind front code back : Text}
    (hkind : kind.count '@' = 0) (hfront : ∀ c ∈ front, Text.isBlank c = true)
    (hcode : IsNumeral code) (hsubCode : ∀ digits ∈ subCode, IsNumeral digits)
    (hback : ∀ c ∈ back, Text.isBlank c = true) :
    (fence ++ (kind ++ (front ++ (code ++ (classForm subCode ++ (back ++ fence)))))).count '@' =
      6 := by
  have hblanks {run : Text} (hrun : ∀ c ∈ run, Text.isBlank c = true) : run.count '@' = 0 :=
    List.count_eq_zero.mpr fun hmem => absurd (hrun _ hmem) (by decide)
  have hnumeral {run : Text} (hrun : IsNumeral run) : run.count '@' = 0 :=
    List.count_eq_zero.mpr (hrun.not_mem (by decide))
  have hclass : (classForm subCode).count '@' = 0 := by
    cases subCode with
    | none => rfl
    | some digits => rw [classForm, List.count_cons_of_ne (by decide), hnumeral (hsubCode _ rfl)]
  simp only [List.count_append, hkind, hblanks hfront, hnumeral hcode, hclass, hblanks hback]
  decide

/-- A marker has the characters that its two fences have. -/
theorem Marker.Written.count_at (h : m.Written s) : s.count '@' = 6 := by
  cases h with
  | start hfront hcode hsubCode hback =>
      exact count_at_written _ (by decide) hfront hcode hsubCode hback
  | stop hfront hcode hback =>
      exact count_at_written none (by decide) hfront hcode (fun _ h => by cases h) hback

/-- The numbers of a marker are written as numerals in it. -/
theorem Marker.Written.isNumeralIn (h : m.Written s) :
    ∀ digits ∈ m.numerals, IsNumeralIn s digits := by
  intro digits hdigits
  cases h with
  | @start front code back subCode _ hcode hsubCode _ =>
      rcases List.mem_cons.mp hdigits with rfl | hclass
      · exact ⟨hcode, fence ++ ("STARTMSG".toList ++ front), classForm subCode ++ (back ++ fence),
          by simp only [List.append_assoc]⟩
      · rw [Option.mem_toList] at hclass
        cases hclass
        exact ⟨hsubCode digits rfl, fence ++ ("STARTMSG".toList ++ (front ++ (code ++ [':']))),
          back ++ fence, by simp only [classForm, List.append_assoc]; rfl⟩
  | @stop front code back _ hcode _ =>
      rw [Marker.numerals, List.mem_singleton] at hdigits
      subst hdigits
      exact ⟨hcode, fence ++ ("ENDMSG".toList ++ front), back ++ fence,
        by simp only [List.append_assoc]⟩

end

/-! ## The line of a sign -/

/-- How the number of a class is written behind a code. -/
def classText : Option Nat → Text
  | none => []
  | some n => [':'] ++ Text.ofNat n

/-- The line of a marker. -/
def Sign.line : Sign → Text
  | .start code subCode =>
    (fence ++ "STARTMSG".toList) ++ ([' '] ++ (Text.ofNat code ++ (classText subCode
      ++ ([' '] ++ fence))))
  | .stop code =>
    (fence ++ "ENDMSG".toList) ++ ([' '] ++ (Text.ofNat code ++ ([' '] ++ fence)))

example : (Sign.start 2185 (some 0)).line = "@!@!@STARTMSG 2185:0 @!@!@".toList := by decide

/-- The marker on the line of a sign. -/
def Sign.marker : Sign → Marker
  | .start code subCode => .start (Text.ofNat code) (subCode.map Text.ofNat)
  | .stop code => .stop (Text.ofNat code)

theorem sign_marker (sign : Sign) : sign.marker.sign = sign := by
  cases sign with
  | start code subCode =>
      cases subCode with
      | none => simp [Sign.marker, Marker.sign, Text.digitsValue_ofNat]
      | some n => simp [Sign.marker, Marker.sign, Text.digitsValue_ofNat]
  | stop code => simp [Sign.marker, Marker.sign, Text.digitsValue_ofNat]

/-- The numeral of a number is read up to the next other character. -/
theorem digits_ofNat_append (n : Nat) {s : Text} (hs : ∀ c ∈ s.head?, Text.isDigit c = false) :
    Scan.digits (Text.ofNat n ++ s) = some (Text.ofNat n, s) :=
  Scan.some1_append (Text.isNumeral_ofNat n).1 (Text.isNumeral_ofNat n).2 hs

theorem written_line (sign : Sign) : sign.marker.Written sign.line := by
  have hblank : ∀ c ∈ [' '], Text.isBlank c = true := List.forall_mem_singleton.mpr (by decide)
  have hcode (n : Nat) := Text.isNumeral_ofNat n
  cases sign with
  | start code subCode =>
      have hclass : classText subCode = classForm (subCode.map Text.ofNat) := by
        cases subCode with
        | none => rfl
        | some n => rfl
      rw [Sign.line, hclass, List.append_assoc]
      refine .start hblank (hcode code) (fun digits hdigits => ?_) hblank
      obtain ⟨n, _, rfl⟩ := Option.map_eq_some_iff.mp hdigits
      exact hcode n
  | stop code =>
      rw [Sign.line, List.append_assoc]
      exact .stop hblank (hcode code) hblank

theorem head?_line (sign : Sign) : sign.line.head? = some '@' := by
  obtain ⟨rest, hrest⟩ := (written_line sign).front_fence
  rw [← hrest]
  rfl

theorem getLast?_line (sign : Sign) : sign.line.getLast? = some '@' := by
  obtain ⟨front, hfront⟩ := (written_line sign).back_fence
  rw [← hfront, List.getLast?_append_of_ne_nil front (by decide)]
  rfl

/-- The line of a sign is read as its marker. -/
theorem ofLine?_line (sign : Sign) : Marker.ofLine? sign.line = some sign.marker := by
  have hwritten := written_line sign
  rw [ofLine?_eq_some_iff, hwritten.strip_eq]
  exact hwritten

theorem signOf?_line (sign : Sign) : signOf? sign.line = some sign := by
  rw [signOf?, ofLine?_line, Option.map_some, sign_marker]

/-! ## Lines that are markers -/

/-- A line that is a marker has a fence, and characters enough for another one. -/
theorem fences_of_ofLine? {line : Text} {m : Marker} (h : Marker.ofLine? line = some m) :
    fence <:+: line ∧ 6 ≤ line.count '@' := by
  have hwritten := ofLine?_eq_some_iff.mp h
  have hstrip := Text.isInfix_strip line
  exact ⟨hwritten.front_fence.isInfix.trans hstrip,
    hwritten.count_at ▸ hstrip.sublist.count_le '@'⟩

/-- A line whose first character is another one, but for blanks, is no marker. -/
theorem ofLine?_of_head? {line : Text} (h : '@' ∉ (Text.stripFront line).head?) :
    Marker.ofLine? line = none := by
  refine Option.eq_none_iff_forall_ne_some.mpr fun m hm => h ?_
  obtain ⟨rest, hrest⟩ := (ofLine?_eq_some_iff.mp hm).front_fence
  rw [← Text.head?_strip, ← hrest]
  rfl

/-- A line that starts with something else, but for blanks, is no marker. -/
theorem ofLine?_of_lead {lead : Text} (h : (Text.stripFront lead).head?.any (· ≠ '@') = true)
    (s : Text) : Marker.ofLine? (lead ++ s) = none := by
  refine ofLine?_of_head? fun hmem => ?_
  obtain ⟨c, hc, hother⟩ := (Option.any_eq_true _ _).mp h
  have hne : Text.stripFront lead ≠ [] := fun hnil => by
    rw [hnil] at hc
    cases hc
  have hfront : Text.stripFront (lead ++ s) = Text.stripFront lead ++ s := by
    rw [Text.stripFront, List.dropWhile_append, if_neg (by simpa [Text.stripFront] using hne)]
    rfl
  rw [hfront, List.head?_append_of_ne_nil _ hne, hc] at hmem
  cases hmem
  cases hother

/-- A line without a fence is no marker. -/
theorem ofLine?_of_unfenced {line : Text} (h : ¬fence <:+: line) : Marker.ofLine? line = none :=
  Option.eq_none_iff_forall_ne_some.mpr fun _ hm => h (fences_of_ofLine? hm).1

/-- Part of the line of a sign lacks the last character of a fence. -/
theorem count_lt_of_prefix {sign : Sign} {part : Text} (h : part <+: sign.line)
    (hne : part ≠ sign.line) : part.count '@' < 6 := by
  obtain ⟨rest, hrest⟩ := h
  have hlast : '@' ∈ rest := by
    cases hgone : rest with
    | nil => exact absurd (by rw [← hrest, hgone, List.append_nil]) hne
    | cons c tail =>
        have hend := getLast?_line sign
        rw [← hrest, hgone, List.getLast?_append_of_ne_nil _ (List.cons_ne_nil c tail)] at hend
        exact List.mem_of_getLast? hend
  have hcount := (written_line sign).count_at
  rw [← hrest, List.count_append] at hcount
  have hmore := List.count_pos_iff.mpr hlast
  omega

/-- The numbers of a marker are written as numerals on its line. -/
theorem isNumeralIn_of_ofLine? {line : Text} {m : Marker} (h : Marker.ofLine? line = some m) :
    ∀ s ∈ m.numerals, IsNumeralIn line s := fun s hs =>
  have hin := (ofLine?_eq_some_iff.mp h).isNumeralIn s hs
  ⟨hin.numeral, hin.part.trans (Text.isInfix_strip line)⟩

/-- The numbers of a marker on a line within the limit are within it, too. -/
theorem short_of_length_le {line : Text} {m : Marker} (h : Marker.ofLine? line = some m)
    (hlen : line.length ≤ Text.digitLimit) : m.Short :=
  fun s hs => (isNumeralIn_of_ofLine? h s hs).length_le (Text.narrow_of_length_le hlen)

/-! ## Reading the numbers -/

theorem readNumber_of_short {s : Text} (h : IsNumeral s) (hlen : s.length ≤ Text.digitLimit) :
    readNumber s = .ok (Text.digitsValue s) := by
  rw [readNumber, Text.readNat_of_length_le h hlen]
  rfl

/-- A numeral in a text without long lines is read. -/
theorem readNumber_of_numeralIn {t s : Text} (ht : Text.Narrow t) (h : IsNumeralIn t s) :
    readNumber s = .ok (Text.digitsValue s) :=
  readNumber_of_short h.numeral (h.length_le ht)

theorem readNumber_of_long {s : Text} (h : IsNumeral s) (hlen : Text.digitLimit < s.length) :
    readNumber s = .error (.numeral (.tooLong s.length)) := by
  rw [readNumber, Text.readNat_of_limit_lt h hlen]
  rfl

/-- A numeral that was read is read as its value. -/
theorem digitsValue_of_readNumber {s : Text} {n : Nat} (h : IsNumeral s)
    (hread : readNumber s = .ok n) : Text.digitsValue s = n := by
  by_cases hlen : s.length ≤ Text.digitLimit
  · rw [readNumber_of_short h hlen] at hread
    exact Except.ok.inj hread
  · rw [readNumber_of_long h (by omega)] at hread
    cases hread

/-- The numbers of a sign, as a session reads them. -/
def Sign.numbers : Sign → Nat × Option Nat
  | .start code subCode => (code, subCode)
  | .stop code => (code, none)

/-- The first numeral of a marker that is past the limit. -/
def Marker.long? (m : Marker) : Option Text :=
  m.numerals.find? (Text.digitLimit < ·.length)

theorem long?_eq_none_iff {m : Marker} : m.long? = none ↔ m.Short := by
  rw [Marker.long?, List.find?_eq_none]
  exact forall₂_congr fun s _ => by rw [decide_eq_true_eq, Nat.not_lt]

/-- The numbers of a marker are read, unless one of them is past the limit. -/
theorem readMarker_eq {line : Text} {m : Marker} (h : Marker.ofLine? line = some m) :
    Session.readMarker m =
      match m.long? with
      | some s => .error (.numeral (.tooLong s.length))
      | none => .ok m.sign.numbers := by
  have hread (s : Text) (hs : s ∈ m.numerals) : readNumber s =
      if Text.digitLimit < s.length then .error (.numeral (.tooLong s.length))
      else .ok (Text.digitsValue s) := by
    have hnumeral := (isNumeralIn_of_ofLine? h s hs).numeral
    split
    next hlen => exact readNumber_of_long hnumeral hlen
    next hlen => exact readNumber_of_short hnumeral (Nat.le_of_not_lt hlen)
  cases m with
  | start code subCode =>
      have hcode := hread code List.mem_cons_self
      cases subCode with
      | none =>
          simp only [Session.readMarker, Marker.long?, Marker.numerals, List.find?_cons, hcode]
          by_cases hlen : Text.digitLimit < code.length
          · simp only [hlen, if_true, decide_true]
            rfl
          · simp only [hlen, if_false, decide_false]
            rfl
      | some digits =>
          have hdigits := hread digits (List.mem_cons_of_mem _ (by simp))
          simp only [Session.readMarker, Marker.long?, Marker.numerals, Option.toList_some,
            List.find?_cons, hcode, hdigits]
          by_cases hlen : Text.digitLimit < code.length
          · simp only [hlen, if_true, decide_true]
            rfl
          · by_cases hlen' : Text.digitLimit < digits.length
            · simp only [hlen, hlen', if_false, if_true, decide_true, decide_false]
              rfl
            · simp only [hlen, hlen', if_false, decide_false]
              rfl
  | stop code =>
      have hcode := hread code List.mem_cons_self
      simp only [Session.readMarker, Marker.long?, Marker.numerals, List.find?_cons, hcode]
      by_cases hlen : Text.digitLimit < code.length
      · simp only [hlen, if_true, decide_true]
        rfl
      · simp only [hlen, if_false, decide_false]
        rfl

/-- The numbers of a marker within the limit are read. -/
theorem readMarker_of_short {line : Text} {m : Marker} (h : Marker.ofLine? line = some m)
    (hshort : m.Short) : Session.readMarker m = .ok m.sign.numbers := by
  rw [readMarker_eq h, long?_eq_none_iff.mpr hshort]

end TlaRunner.Protocol
