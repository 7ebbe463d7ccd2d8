import TlaRunner.Proofs.Analyzer.Decoder
import TlaRunner.Proofs.Checker.Verdict
import TlaRunner.Proofs.Protocol.Transcript
import TlaRunner.Proofs.Transpiler.Decoder

/-!
# Output that was cut

The output of a tool that was killed ends anywhere: inside a marker, inside a character,
between the two characters of a line end.  What is left over is read as a line.

`spans` says of each message of a transcript behind how many bytes its start marker and
its end marker are complete.  A cut keeps the messages that were closed before it and
leaves open the one it falls into (`intact_cut`).  The cases are the places in a message:
before its start marker is complete, in its body, and behind its end marker.

What is left of a line is one of its pieces.  A piece of a line without a fence has no
fence, and a piece of a marker lacks the last character of a fence, so neither is a marker
(`unmarked_of_unfenced`, `unmarked_of_sign`).
-/

namespace TlaRunner.Protocol

open Checker (message? messages)

/-! ## Transcripts and the places in them -/

/-- An item of a transcript with the ends of its lines. -/
inductive Entry
  /-- A line outside messages. -/
  | line (content : Text) (ending : Ending)
  /-- A message between its markers. -/
  | message (code : Nat) (subCode : Option Nat) (opening : Ending) (body : List (Text × Ending))
    (closing : Ending)
  deriving DecidableEq, Repr

/-- The lines of an entry. -/
def Entry.lines : Entry → List (Text × Ending)
  | .line content ending => [(content, ending)]
  | .message code subCode opening body closing =>
    ((Sign.start code subCode).line, opening) :: body ++ [((Sign.stop code).line, closing)]

/-- The item of an entry. -/
def Entry.item : Entry → Item
  | .line content _ => .line content
  | .message code subCode _ body _ => .message ⟨code, subCode, body.map Prod.fst⟩

/-- The messages of a transcript. -/
def messagesOf (entries : List Entry) : List Message :=
  messages (entries.map fun e => .item e.item)

/-- An entry that can be written out. -/
structure Entry.Writable (e : Entry) : Prop where
  /-- Its lines can stand between endings. -/
  unbroken : ∀ line ∈ e.item.content, Unbroken line
  /-- Its lines have no fence. -/
  unfenced : ∀ line ∈ e.item.content, ¬fence <:+: line
  /-- Its numbers can be read. -/
  short : ∀ n ∈ e.item.numbers, (Text.ofNat n).length ≤ Text.digitLimit

instance (e : Entry) : Decidable e.Writable :=
  decidable_of_iff ((∀ line ∈ e.item.content, Unbroken line) ∧
      (∀ line ∈ e.item.content, ¬fence <:+: line) ∧
      ∀ n ∈ e.item.numbers, (Text.ofNat n).length ≤ Text.digitLimit)
    ⟨fun h => ⟨h.1, h.2.1, h.2.2⟩, fun h => ⟨h.unbroken, h.unfenced, h.short⟩⟩

/-- The bytes of a text, counted. -/
def size (s : Text) : Nat :=
  (Text.encode s).length

/-- Where a message lies. -/
structure Span where
  /-- The bytes before and in its start marker. -/
  opened : Nat
  /-- The bytes before and in its end marker. -/
  closed : Nat
  deriving DecidableEq, Repr

/-- Where the message of an entry lies that stands behind so many bytes. -/
def Entry.span? (offset : Nat) : Entry → Option Span
  | .line .. => none
  | .message code subCode opening body _ =>
    let start := (Sign.start code subCode).line
    some ⟨offset + size start,
      offset + size (start ++ opening.text ++ render body ++ (Sign.stop code).line)⟩

/-- Where the messages of entries lie that stand behind so many bytes. -/
def spans (offset : Nat) : List Entry → List Span
  | [] => []
  | e :: rest => (e.span? offset).toList ++ spans (offset + size (render e.lines)) rest

/-- How many messages lie wholly in the first bytes. -/
def closedWithin (n : Nat) (spans : List Span) : Nat :=
  spans.countP fun s => decide (s.closed ≤ n)

/-- Whether the first bytes end in a message. -/
def EndsWithin (n : Nat) (spans : List Span) : Prop :=
  ∃ s ∈ spans, s.opened ≤ n ∧ n < s.closed

instance (n : Nat) (spans : List Span) : Decidable (EndsWithin n spans) :=
  inferInstanceAs (Decidable (∃ s ∈ spans, s.opened ≤ n ∧ n < s.closed))

theorem size_append (s t : Text) : size (s ++ t) = size s + size t := by
  rw [size, Text.encode_append, List.length_append, size, size]

theorem render_cons (line : Text × Ending) (lines : List (Text × Ending)) :
    render (line :: lines) = line.1 ++ line.2.text ++ render lines :=
  List.flatMap_cons

theorem render_append (a b : List (Text × Ending)) : render (a ++ b) = render a ++ render b :=
  List.flatMap_append

theorem Entry.map_lines (e : Entry) : e.lines.map Prod.fst = e.item.lines := by
  cases e with
  | line content ending => rfl
  | message code subCode opening body closing =>
      simp only [lines, item, Item.lines, List.map_cons, List.map_append, List.cons_append,
        List.map_nil]

theorem Entry.Writable.item {e : Entry} (h : e.Writable) : e.item.Writable :=
  ⟨h.unbroken, fun line hline => ofLine?_of_unfenced (h.unfenced line hline), h.short⟩

theorem Entry.Writable.lines {e : Entry} (h : e.Writable) :
    ∀ line ∈ e.lines.map Prod.fst, Unbroken line := by
  rw [e.map_lines]
  exact unbroken_lines h.item

/-- The line of a sign has bytes. -/
theorem size_line_pos (sign : Sign) : 0 < size sign.line := by
  cases hline : sign.line with
  | nil =>
      have hhead := head?_line sign
      rw [hline] at hhead
      cases hhead
  | cons c s =>
      have hhead := head?_line sign
      rw [hline] at hhead
      cases hhead
      exact Nat.succ_pos _

/-- A message is its start marker, and then its body and its end marker. -/
theorem render_message (code : Nat) (subCode : Option Nat) (opening : Ending)
    (body : List (Text × Ending)) (closing : Ending) :
    render (Entry.message code subCode opening body closing).lines =
      (Sign.start code subCode).line ++ opening.text ++
        (render body ++ ((Sign.stop code).line ++ closing.text)) := by
  have hnil : render [] = [] := rfl
  simp only [Entry.lines, List.cons_append, render_cons, render_append, hnil, List.append_nil]

/-- A message ends no later than the entry it stands in. -/
theorem closed_le_of_span? {e : Entry} {offset : Nat} {s : Span} (h : e.span? offset = some s) :
    s.closed ≤ offset + size (render e.lines) := by
  cases e with
  | line content ending => cases h
  | message code subCode opening body closing =>
      cases h
      simp only [render_message, size_append]
      omega

/-- A message starts behind what stands before it. -/
theorem lt_opened_of_mem_spans {entries : List Entry} {offset : Nat} {s : Span}
    (h : s ∈ spans offset entries) : offset < s.opened := by
  induction entries generalizing offset with
  | nil => cases h
  | cons e rest ih =>
      rw [spans, List.mem_append, Option.mem_toList] at h
      rcases h with h | h
      · cases e with
        | line content ending => cases h
        | message code subCode opening body closing =>
            cases h
            exact Nat.lt_add_of_pos_right (size_line_pos _)
      · have hlater := ih h
        omega

theorem opened_le_closed_of_mem_spans {entries : List Entry} {offset : Nat} {s : Span}
    (h : s ∈ spans offset entries) : s.opened ≤ s.closed := by
  induction entries generalizing offset with
  | nil => cases h
  | cons e rest ih =>
      rw [spans, List.mem_append, Option.mem_toList] at h
      rcases h with h | h
      · cases e with
        | line content ending => cases h
        | message code subCode opening body closing =>
            cases h
            simp only [size_append]
            omega
      · exact ih h

theorem closedWithin_append (n : Nat) (a b : List Span) :
    closedWithin n (a ++ b) = closedWithin n a + closedWithin n b :=
  List.countP_append

theorem endsWithin_append (n : Nat) (a b : List Span) :
    EndsWithin n (a ++ b) ↔ EndsWithin n a ∨ EndsWithin n b := by
  simp only [EndsWithin, List.mem_append, or_and_right, exists_or]

theorem messagesOf_cons (e : Entry) (rest : List Entry) :
    messagesOf (e :: rest) = (message? (.item e.item)).toList ++ messagesOf rest := by
  rw [messagesOf, List.map_cons, Checker.messages_cons, messagesOf]

/-- An entry has a place for its message. -/
theorem length_span? (e : Entry) (offset : Nat) :
    (e.span? offset).toList.length = (message? (.item e.item)).toList.length := by
  cases e with
  | line content ending => rfl
  | message code subCode opening body closing => rfl

/-- Messages before a cut are closed at it. -/
theorem closedWithin_of_closed {n : Nat} {spans : List Span} (h : ∀ s ∈ spans, s.closed ≤ n) :
    closedWithin n spans = spans.length :=
  List.countP_eq_length.mpr fun s hs => decide_eq_true (h s hs)

theorem not_endsWithin_of_closed {n : Nat} {spans : List Span} (h : ∀ s ∈ spans, s.closed ≤ n) :
    ¬EndsWithin n spans := by
  rintro ⟨s, hs, _, hlt⟩
  exact absurd hlt (Nat.not_lt.mpr (h s hs))

/-- Messages behind a cut are neither closed nor open at it. -/
theorem closedWithin_of_le {entries : List Entry} {offset n : Nat} (h : n ≤ offset) :
    closedWithin n (spans offset entries) = 0 := by
  refine List.countP_eq_zero.mpr fun s hs => ?_
  have hopened := lt_opened_of_mem_spans hs
  have hclosed := opened_le_closed_of_mem_spans hs
  rw [decide_eq_true_iff]
  omega

theorem not_endsWithin_of_le {entries : List Entry} {offset n : Nat} (h : n ≤ offset) :
    ¬EndsWithin n (spans offset entries) := by
  rintro ⟨s, hs, hopened, _⟩
  have hlater := lt_opened_of_mem_spans hs
  omega

/-! ## Lines that were cut -/

/-- What may be left of a line that was cut: some of its characters, and a replacement for
one that was cut through. -/
def Piece (line l : Text) : Prop :=
  ∃ part, part <+: line ∧ part ≠ line ∧ l <+: part ++ [Text.replacement]

/-- A piece of a line without a fence is no marker. -/
theorem unmarked_of_unfenced {line l : Text} (h : ¬fence <:+: line) (hl : Piece line l) :
    Marker.ofLine? l = none := by
  obtain ⟨part, hpart, _, hprefix⟩ := hl
  refine ofLine?_of_unfenced fun hfence => ?_
  rcases List.infix_concat_iff.mp (hfence.trans hprefix.isInfix) with hend | hinside
  · -- The replacement is no part of a fence.
    obtain ⟨before, hbefore⟩ := hend
    have hlast := congrArg List.getLast? hbefore
    rw [List.getLast?_concat, List.getLast?_append_of_ne_nil before (by decide)] at hlast
    exact absurd hlast (by decide)
  · exact h (hinside.trans hpart.isInfix)

/-- A piece of the line of a sign is no marker. -/
theorem unmarked_of_sign {sign : Sign} {l : Text} (hl : Piece sign.line l) :
    Marker.ofLine? l = none := by
  obtain ⟨part, hpart, hne, hprefix⟩ := hl
  refine Option.eq_none_iff_forall_ne_some.mpr fun m hm => ?_
  have hfew := count_lt_of_prefix hpart hne
  have hmany := (fences_of_ofLine? hm).2
  have hless := hprefix.sublist.count_le '@'
  have hreplacement : [Text.replacement].count '@' = 0 := by decide
  rw [List.count_append, hreplacement] at hless
  omega

namespace LineSplitter

theorem prefix_of_mem_rest {s l : Text} (h : l ∈ rest s.reverse) : l <+: s := by
  rw [rest] at h
  split at h
  · cases h
  · rw [List.mem_singleton.mp h, lineOf.eq_def]
    split
    next held hreverse =>
      rw [← List.reverse_reverse s, hreverse, List.reverse_cons]
      exact List.prefix_append _ _
    next =>
      rw [List.reverse_reverse]

theorem linesOf_line {line : Text} (h : Unbroken line) (ending : Ending) (bytes : Bytes) :
    linesOf (Text.encode (line ++ ending.text) ++ bytes) = line :: linesOf bytes := by
  rw [linesOf, Text.decode_encode_append, linesOfText, pushAll_line h]
  rfl

/-- The lines of a rendered text stand before those of the bytes behind it. -/
theorem linesOf_render {lines : List (Text × Ending)}
    (h : ∀ line ∈ lines.map Prod.fst, Unbroken line) (bytes : Bytes) :
    linesOf (Text.encode (render lines) ++ bytes) = lines.map Prod.fst ++ linesOf bytes := by
  induction lines with
  | nil => rfl
  | cons line lines ih =>
      rw [List.map_cons, List.forall_mem_cons] at h
      rw [render_cons, Text.encode_append, List.append_assoc, linesOf_line h.1, ih h.2]
      rfl

/-- A line that was cut is left in pieces. -/
theorem piece_of_mem_linesOf {line l : Text} (h : '\n' ∉ line) {bytes : Bytes}
    (hcut : bytes <+: Text.encode line) (hlt : bytes.length < size line)
    (hl : l ∈ linesOf bytes) : Piece line l := by
  obtain ⟨seen, tail, hseen, hencoded, htail, hdecode⟩ := Text.decode_of_prefix hcut
  have hfeed : '\n' ∉ seen ++ tail := by
    rw [List.mem_append, not_or]
    refine ⟨fun hmem => h (hseen.subset hmem), fun hmem => ?_⟩
    have hreplacement := htail.subset hmem
    exact absurd hreplacement (by decide)
  rw [linesOf, hdecode, linesOfText_of_noFeed hfeed] at hl
  refine ⟨seen, hseen, fun hwhole => ?_, ?_⟩
  · have hle := hencoded.length_le
    rw [hwhole] at hle
    exact absurd hlt (Nat.not_lt.mpr hle)
  · exact (prefix_of_mem_rest hl).trans ((List.prefix_append_right_inj seen).mpr htail)

/-- Of an ending that was cut, nothing or a carriage return is left. -/
theorem eq_of_prefix_ending {ending : Ending} {bytes : Bytes}
    (h : bytes <+: Text.encode ending.text) (hlt : bytes.length < size ending.text) :
    bytes = [] ∨ bytes = Text.encode ['\r'] := by
  cases bytes with
  | nil => exact Or.inl rfl
  | cons byte bytes =>
      cases ending with
      | lf => exact absurd hlt (by simp [size, Ending.text, Text.encode, Text.encodeChar])
      | crlf =>
          have hcrlf : Text.encode Ending.crlf.text = [0x0D, 0x0A] := by decide
          rw [hcrlf, List.cons_prefix_cons] at h
          rw [size, hcrlf, List.length_cons] at hlt
          have hnil : bytes = [] := List.length_eq_zero_iff.mp (Nat.lt_one_iff.mp
            (Nat.lt_of_succ_lt_succ hlt))
          rw [h.1, hnil]
          exact Or.inr rfl

/-- A line whose ending was cut is read whole, if anything is left of it. -/
theorem linesOf_unended {line : Text} (h : Unbroken line) {ending : Ending} {bytes : Bytes}
    (hcut : bytes <+: Text.encode ending.text) (hlt : bytes.length < size ending.text) :
    linesOf (Text.encode line ++ bytes) = [line] ∨
      line = [] ∧ linesOf (Text.encode line ++ bytes) = [] := by
  rcases eq_of_prefix_ending hcut hlt with rfl | rfl
  · cases line with
    | nil => exact Or.inr ⟨rfl, rfl⟩
    | cons c s =>
        left
        rw [linesOf, Text.decode_encode_append, show Text.decode [] = [] from rfl,
          List.append_nil, linesOfText_of_noFeed h.noFeed, rest, lineOf_reverse h.noReturn,
          if_neg (by simp)]
  · left
    have hfeed : '\n' ∉ line ++ ['\r'] := by
      rw [List.mem_append, not_or]
      exact ⟨h.noFeed, by decide⟩
    rw [linesOf, Text.decode_encode_append,
      show Text.decode (Text.encode ['\r']) = ['\r'] by decide,
      linesOfText_of_noFeed hfeed, List.reverse_append, rest]
    simp [lineOf]

/-- What is left over of a line whose ending is not complete. -/
theorem linesOf_cut {line : Text} (h : Unbroken line) {ending : Ending} {bytes : Bytes}
    (hcut : bytes <+: Text.encode (line ++ ending.text))
    (hlt : bytes.length < size (line ++ ending.text)) :
    (bytes.length < size line ∧ ∀ l ∈ linesOf bytes, Piece line l) ∨
      size line ≤ bytes.length ∧ (linesOf bytes = [line] ∨ line = [] ∧ linesOf bytes = []) := by
  rw [Text.encode_append] at hcut
  rcases Text.prefix_append_cases hcut with ⟨hinside, hshort⟩ | ⟨rest, rfl, hrest⟩
  · exact Or.inl ⟨hshort, fun l hl => piece_of_mem_linesOf h.noFeed hinside hshort hl⟩
  · rw [List.length_append, size_append, size] at hlt
    refine Or.inr ⟨?_, linesOf_unended h hrest (Nat.lt_of_add_lt_add_left hlt)⟩
    rw [List.length_append, size]
    exact Nat.le_add_right _ _

/-- Nothing that is left of lines without a fence is a marker. -/
theorem unmarked_of_cut {lines : List (Text × Ending)} {bytes : Bytes}
    (hunbroken : ∀ line ∈ lines.map Prod.fst, Unbroken line)
    (hunfenced : ∀ line ∈ lines.map Prod.fst, ¬fence <:+: line)
    (hcut : bytes <+: Text.encode (render lines)) :
    ∀ l ∈ linesOf bytes, Marker.ofLine? l = none := by
  induction lines generalizing bytes with
  | nil =>
      rw [List.prefix_nil.mp hcut]
      exact fun l hl => absurd hl List.not_mem_nil
  | cons line lines ih =>
      rw [List.map_cons, List.forall_mem_cons] at hunbroken hunfenced
      rw [render_cons, Text.encode_append] at hcut
      rcases Text.prefix_append_cases hcut with ⟨hinside, hlt⟩ | ⟨rest, rfl, hrest⟩
      · rcases linesOf_cut hunbroken.1 hinside hlt with ⟨_, hpieces⟩ | ⟨_, hwhole | ⟨_, hnone⟩⟩
        · exact fun l hl => unmarked_of_unfenced hunfenced.1 (hpieces l hl)
        · rw [hwhole]
          exact List.forall_mem_singleton.mpr (ofLine?_of_unfenced hunfenced.1)
        · rw [hnone]
          exact fun l hl => absurd hl List.not_mem_nil
      · rw [linesOf_line hunbroken.1, List.forall_mem_cons]
        exact ⟨ofLine?_of_unfenced hunfenced.1, ih hunbroken.2 hunfenced.2 hrest⟩

end LineSplitter

/-! ## What a cut leaves intact -/

/-- Lines that hand on these messages, break no rule of the protocol, and say whether a
message is open behind them. -/
structure Intact (lines : List Text) (handed : List Message) (isOpen : Prop) : Prop where
  /-- The numbers on the lines can be read. -/
  short : ∀ line ∈ lines, ShortLine line
  /-- The messages are handed on. -/
  handsOn : messages (drive none lines).2 = handed
  /-- No anomaly is. -/
  conditions : (drive none lines).2.filterMap Delivery.condition? = []
  /-- Whether a message is open. -/
  isOpen : (drive none lines).1.isSome = true ↔ isOpen

theorem Intact.congr {lines : List Text} {handed others : List Message} {p q : Prop}
    (h : Intact lines handed p) (hhanded : handed = others) (hopen : p ↔ q) :
    Intact lines others q :=
  ⟨h.short, h.handsOn.trans hhanded, h.conditions, h.isOpen.trans hopen⟩

theorem intact_unmarked {lines : List Text} (h : ∀ line ∈ lines, Marker.ofLine? line = none) :
    Intact lines [] False := by
  refine ⟨fun line hline => short_of_unmarked (h line hline), ?_, ?_, ?_⟩
  · rw [drive_unmarked h, messages, List.filterMap_map]
    exact List.filterMap_eq_nil_iff.mpr fun _ _ => rfl
  · rw [drive_unmarked h, List.filterMap_map]
    exact List.filterMap_eq_nil_iff.mpr fun _ _ => rfl
  · rw [drive_unmarked h]
    simp

/-- Behind a start marker and lines without one, the message is open. -/
theorem intact_open {code : Nat} {subCode : Option Nat} {lines : List Text}
    (hstart : ShortLine (Sign.start code subCode).line)
    (h : ∀ line ∈ lines, Marker.ofLine? line = none) :
    Intact ((Sign.start code subCode).line :: lines) [] True := by
  have hdrive : drive none ((Sign.start code subCode).line :: lines) =
      (some ⟨code, subCode, lines⟩, []) := by
    have hbody := drive_body ⟨code, subCode, []⟩ h []
    rw [List.append_nil, List.nil_append, drive] at hbody
    rw [drive]
    simp only [advance, signOf?_line, hbody]
    rfl
  refine ⟨List.forall_mem_cons.mpr ⟨hstart, fun l hl => short_of_unmarked (h l hl)⟩, ?_, ?_, ?_⟩
  · rw [hdrive]
    rfl
  · rw [hdrive]
    rfl
  · rw [hdrive]
    simp

/-- A whole item before intact lines. -/
theorem Intact.cons {i : Item} (hi : i.Writable) {lines : List Text} {handed : List Message}
    {isOpen : Prop} (h : Intact lines handed isOpen) :
    Intact (i.lines ++ lines) ((message? (.item i)).toList ++ handed) isOpen := by
  refine ⟨List.forall_mem_append.mpr ⟨short_lines hi, h.short⟩, ?_, ?_, ?_⟩
  · rw [drive_lines hi, Checker.messages_cons, h.handsOn]
  · rw [drive_lines hi, List.filterMap_cons_none rfl, h.conditions]
  · rw [drive_lines hi]
    exact h.isOpen

/-- The whole line of a sign is left, or nothing that is a marker. -/
theorem linesOf_cut_sign {sign : Sign} {ending : Ending} {bytes : Bytes}
    (hcut : bytes <+: Text.encode (sign.line ++ ending.text))
    (hlt : bytes.length < size (sign.line ++ ending.text)) :
    (bytes.length < size sign.line ∧
        ∀ l ∈ LineSplitter.linesOf bytes, Marker.ofLine? l = none) ∨
      size sign.line ≤ bytes.length ∧ LineSplitter.linesOf bytes = [sign.line] := by
  rcases LineSplitter.linesOf_cut (unbroken_line sign) hcut hlt with
    ⟨hinside, hpieces⟩ | ⟨hbehind, hwhole | ⟨hnil, _⟩⟩
  · exact Or.inl ⟨hinside, fun l hl => unmarked_of_sign (hpieces l hl)⟩
  · exact Or.inr ⟨hbehind, hwhole⟩
  · have hpos := size_line_pos sign
    rw [hnil] at hpos
    exact absurd hpos (Nat.lt_irrefl 0)

/-- Behind its start marker, a message is left with its end marker or without any. -/
theorem linesOf_cut_body {body : List (Text × Ending)} {sign : Sign} {closing : Ending}
    {bytes : Bytes} (hunbroken : ∀ line ∈ body.map Prod.fst, Unbroken line)
    (hunfenced : ∀ line ∈ body.map Prod.fst, ¬fence <:+: line)
    (hcut : bytes <+: Text.encode (render body ++ (sign.line ++ closing.text)))
    (hlt : bytes.length < size (render body ++ (sign.line ++ closing.text))) :
    (bytes.length < size (render body ++ sign.line) ∧
        ∀ l ∈ LineSplitter.linesOf bytes, Marker.ofLine? l = none) ∨
      size (render body ++ sign.line) ≤ bytes.length ∧
        LineSplitter.linesOf bytes = body.map Prod.fst ++ [sign.line] := by
  rw [Text.encode_append] at hcut
  rw [size_append] at hlt ⊢
  rcases Text.prefix_append_cases hcut with ⟨hinside, hshort⟩ | ⟨rest, rfl, hrest⟩
  · exact Or.inl ⟨Nat.lt_of_lt_of_le hshort (Nat.le_add_right _ _),
      LineSplitter.unmarked_of_cut hunbroken hunfenced hinside⟩
  · rw [List.length_append, ← size] at hlt ⊢
    rw [LineSplitter.linesOf_render hunbroken]
    have hlast := Nat.lt_of_add_lt_add_left hlt
    rcases linesOf_cut_sign hrest hlast with ⟨hpart, hnone⟩ | ⟨hbehind, hwhole⟩
    · refine Or.inl ⟨Nat.add_lt_add_left hpart _,
        List.forall_mem_append.mpr ⟨fun l hl => ?_, hnone⟩⟩
      exact ofLine?_of_unfenced (hunfenced l hl)
    · rw [hwhole]
      exact Or.inr ⟨Nat.add_le_add_left hbehind _, rfl⟩

/-- A message that was cut is open where its start marker is complete and its end marker is
not, and is handed on where both are. -/
theorem intact_message {code : Nat} {subCode : Option Nat} {opening closing : Ending}
    {body : List (Text × Ending)} {bytes : Bytes} (offset : Nat) {s : Span}
    (h : (Entry.message code subCode opening body closing).Writable)
    (hs : (Entry.message code subCode opening body closing).span? offset = some s)
    (hcut : bytes <+: Text.encode (render (Entry.message code subCode opening body closing).lines))
    (hlt : bytes.length < size (render (Entry.message code subCode opening body closing).lines)) :
    Intact (LineSplitter.linesOf bytes)
      (if s.closed ≤ offset + bytes.length then [⟨code, subCode, body.map Prod.fst⟩] else [])
      (s.opened ≤ offset + bytes.length ∧ offset + bytes.length < s.closed) := by
  have hstart : ShortLine (Sign.start code subCode).line :=
    short_lines h.item _ (List.mem_append_left _ List.mem_cons_self)
  cases hs
  rw [render_message, Text.encode_append] at hcut
  rw [render_message, size_append] at hlt
  simp only [size_append]
  rcases Text.prefix_append_cases hcut with ⟨hinside, hshort⟩ | ⟨rest, rfl, hrest⟩
  · rcases linesOf_cut_sign hinside hshort with ⟨hpart, hnone⟩ | ⟨hbehind, hwhole⟩
    · refine (intact_unmarked hnone).congr ?_ (iff_of_false id ?_)
      · rw [if_neg (by omega)]
      · omega
    · rw [← size, size_append] at hshort
      rw [hwhole]
      refine (intact_open hstart fun l hl => absurd hl List.not_mem_nil).congr ?_
        (iff_of_true trivial ⟨?_, ?_⟩)
      · rw [if_neg (by omega)]
      · omega
      · omega
  · rw [LineSplitter.linesOf_line (unbroken_line _)]
    rw [List.length_append, ← size] at hlt ⊢
    rw [size_append]
    rcases linesOf_cut_body h.unbroken h.unfenced hrest (Nat.lt_of_add_lt_add_left hlt) with
      ⟨hpart, hnone⟩ | ⟨hbehind, hwhole⟩
    · rw [size_append] at hpart
      refine (intact_open hstart hnone).congr ?_ (iff_of_true trivial ⟨?_, ?_⟩)
      · rw [if_neg (by omega)]
      · omega
      · omega
    · rw [size_append] at hbehind
      have hbefore : Intact [] [] False := intact_unmarked fun l hl => absurd hl List.not_mem_nil
      have hitem := hbefore.cons h.item
      rw [List.append_nil] at hitem
      rw [hwhole]
      refine hitem.congr ?_ (iff_of_false id ?_)
      · rw [if_pos (by omega)]
        rfl
      · omega

/-- What is left of an entry that was cut. -/
theorem intact_entry {e : Entry} {bytes : Bytes} (offset : Nat) (h : e.Writable)
    (hcut : bytes <+: Text.encode (render e.lines)) (hlt : bytes.length < size (render e.lines)) :
    Intact (LineSplitter.linesOf bytes)
      ((message? (.item e.item)).toList.take
        (closedWithin (offset + bytes.length) (e.span? offset).toList))
      (EndsWithin (offset + bytes.length) (e.span? offset).toList) := by
  cases e with
  | line content ending =>
      have hunmarked := LineSplitter.unmarked_of_cut h.lines
        (List.forall_mem_singleton.mpr (h.unfenced content List.mem_cons_self)) hcut
      refine (intact_unmarked hunmarked).congr rfl (iff_of_false id ?_)
      rintro ⟨s, hs, _⟩
      cases hs
  | message code subCode opening body closing =>
      refine (intact_message offset h rfl hcut hlt).congr ?_ ?_
      · rw [closedWithin, Entry.span?, Option.toList_some, List.countP_singleton]
        simp only [decide_eq_true_eq]
        split
        · rfl
        · rfl
      · rw [EndsWithin, Entry.span?, Option.toList_some]
        simp

/-- A transcript that was cut anywhere hands on the messages that were closed before the
cut.  A message is open behind it exactly where the cut falls into it. -/
theorem intact_cut {entries : List Entry} {bytes : Bytes} (offset : Nat)
    (hentries : ∀ e ∈ entries, e.Writable)
    (hcut : bytes <+: Text.encode (render (entries.flatMap Entry.lines))) :
    Intact (LineSplitter.linesOf bytes)
      ((messagesOf entries).take
        (closedWithin (offset + bytes.length) (spans offset entries)))
      (EndsWithin (offset + bytes.length) (spans offset entries)) := by
  induction entries generalizing bytes offset with
  | nil =>
      rw [List.prefix_nil.mp hcut]
      refine (intact_unmarked fun l hl => absurd hl List.not_mem_nil).congr rfl
        (iff_of_false id ?_)
      rintro ⟨s, hs, _⟩
      cases hs
  | cons e rest ih =>
      rw [List.forall_mem_cons] at hentries
      rw [List.flatMap_cons, render_append, Text.encode_append] at hcut
      rw [messagesOf_cons, spans, closedWithin_append, endsWithin_append]
      rcases Text.prefix_append_cases hcut with ⟨hinside, hlt⟩ | ⟨later, rfl, hlater⟩
      · -- The cut falls into the first entry, before every other message.
        have hle : offset + bytes.length ≤ offset + size (render e.lines) :=
          Nat.add_le_add_left hlt.le offset
        rw [closedWithin_of_le hle, Nat.add_zero, List.take_append_of_le_length
          (length_span? e offset ▸ List.countP_le_length)]
        exact (intact_entry offset hentries.1 hinside hlt).congr rfl
          (or_iff_left (not_endsWithin_of_le hle)).symm
      · -- The cut falls behind the first entry, whose message is closed.
        rw [LineSplitter.linesOf_render hentries.1.lines, e.map_lines, List.length_append, ← size,
          ← Nat.add_assoc]
        have hclosed : ∀ s ∈ (e.span? offset).toList,
            s.closed ≤ offset + size (render e.lines) + later.length := fun s hs =>
          Nat.le_add_right_of_le (closed_le_of_span? (Option.mem_toList.mp hs))
        rw [closedWithin_of_closed hclosed, length_span?, List.take_length_add_append]
        exact ((ih (offset + size (render e.lines)) hentries.2 hlater).cons
          hentries.1.item).congr rfl (or_iff_right (not_endsWithin_of_closed hclosed)).symm

/-! ## Reading a transcript that was cut -/

/-- The end of the output hands on no message. -/
theorem Intact.handsOn_driveAll {lines : List Text} {handed : List Message} {isOpen : Prop}
    (h : Intact lines handed isOpen) :
    messages (driveAll none lines) = handed := by
  rw [driveAll, messages, List.filterMap_append, ← messages, h.handsOn]
  cases (drive none lines).1 with
  | none => exact List.append_nil _
  | some m => exact List.append_nil _

/-- The only anomaly is that of a message that is open at the end. -/
theorem Intact.conditions_driveAll {lines : List Text} {handed : List Message} {isOpen : Prop}
    (h : Intact lines handed isOpen) :
    let conditions := (driveAll none lines).filterMap Delivery.condition?
    (∀ c ∈ conditions, c.kind ≠ .violation) ∧
      (Condition.anyTruncated conditions = true ↔ isOpen) := by
  have hopen := h.isOpen
  rw [driveAll, List.filterMap_append, h.conditions, List.nil_append]
  cases hend : (drive none lines).1 with
  | none =>
      rw [hend] at hopen
      exact ⟨fun c hc => absurd hc List.not_mem_nil, hopen⟩
  | some m =>
      rw [hend] at hopen
      refine ⟨List.forall_mem_singleton.mpr fun hkind => ?_, hopen⟩
      cases hkind

/-- A decoder that reports the anomalies of the protocol as they are. -/
structure Decoder.Reports {σ ρ : Type} (d : Decoder σ ρ) (conditionsOf : ρ → List Condition) :
    Prop where
  /-- It notes none of its own. -/
  keeps : d.KeepsConditions
  /-- It reports those that were noted. -/
  report : ∀ g stopped, conditionsOf (d.report g stopped) = g.conditions

theorem reports_plain : Plain.decoder.Reports ParseReport.conditions :=
  ⟨Plain.announces.keepsConditions, fun _ _ => rfl⟩

theorem reports_analyzer : Analyzer.decoder.Reports ParseReport.conditions :=
  ⟨Analyzer.announces.keepsConditions, fun _ _ => rfl⟩

theorem reports_transpiler : Transpiler.decoder.Reports ParseReport.conditions :=
  ⟨Transpiler.announces.keepsConditions, fun _ _ => rfl⟩

theorem reports_checker : Checker.decoder.Reports CheckReport.conditions :=
  ⟨Checker.announces.keepsConditions, fun _ _ => rfl⟩

namespace Reading

variable {σ ρ : Type} {d : Decoder σ ρ} {g after : Gathered σ}

/-- Output that was cut anywhere and then read to its end gives the decoder the messages
that were closed before the cut, in order and whole.  No rule of the protocol is broken, and
the report says that the output was cut exactly where it ends in a message. -/
theorem consume_cut {conditionsOf : ρ → List Condition} {entries : List Entry}
    {chunks : List Bytes} {events : List Event} (hd : d.Reports conditionsOf)
    (hg : g.conditions = []) (hentries : ∀ e ∈ entries, e.Writable)
    (hcut : chunks.flatten <+: Text.encode (render (entries.flatMap Entry.lines)))
    (hread : deliver d g (driveAll none (LineSplitter.linesOf chunks.flatten)) =
      ⟨after, .ok events⟩) (stopped : Bool) :
    let n := chunks.flatten.length
    let handed := driveAll none (LineSplitter.linesOf chunks.flatten)
    let run := consume d (.start g) (chunks.map .bytes) stopped
    messages handed =
        (messagesOf entries).take (closedWithin n (spans 0 entries)) ∧
      run.2.fault = none ∧ run.2.events = events ++ lastEvents d after stopped ∧
      ∃ result, run.1 = ended d after stopped ∧ run.1.result = some result ∧
        (∀ c ∈ conditionsOf result, c.kind ≠ .violation) ∧
        (Condition.anyTruncated (conditionsOf result) = true ↔ EndsWithin n (spans 0 entries)) := by
  have hintact := intact_cut 0 hentries hcut
  rw [Nat.zero_add] at hintact
  obtain ⟨hsession, hfault, hevents⟩ :=
    readLines_of_ok (m := none) hintact.short hread stopped
  have hafter := conditions_of_deliver hd.keeps hread
  rw [hg, List.nil_append] at hafter
  have hresult : conditionsOf (d.report (d.onEnd after).1 stopped) =
      (driveAll none (LineSplitter.linesOf chunks.flatten)).filterMap Delivery.condition? := by
    rw [hd.report, hd.keeps.onEnd, hafter]
  simp only [consume_bytes]
  refine ⟨hintact.handsOn_driveAll, hfault, hevents, _, hsession, congrArg (·.result) hsession, ?_⟩
  rw [hresult]
  exact hintact.conditions_driveAll

/-- Two messages and a line between them, with a character of three bytes in the second
message. -/
def interlude : List Entry :=
  [.message 2185 (some 0) .crlf [("a".toList, .lf), ([], .crlf)] .lf, .line "free".toList .crlf,
    .message 7 none .lf [("b\u20ac".toList, .lf)] .crlf]

/-- Its first bytes in two chunks.  They end in that character. -/
def interludeCut : List Bytes :=
  let whole := Text.encode (render (interlude.flatMap Entry.lines))
  [whole.take 30, (whole.take 85).drop 30]

theorem consume_cut_interlude :
    let run := consume Plain.decoder Plain.session (interludeCut.map .bytes) false
    closedWithin 85 (spans 0 interlude) = 1 ∧ EndsWithin 85 (spans 0 interlude) ∧
      run.2.events =
        [.progress Plain.tool (Plain.spell ⟨2185, some 0, ["a".toList, []]⟩) none,
          .report Plain.tool (.parse ⟨Plain.tool, [], [], [⟨.truncated, Session.cutOff 7⟩]⟩)] ∧
      ∃ result, run.1.result = some result ∧ result.truncated = true := by
  have hentries : ∀ e ∈ interlude, e.Writable := by decide
  have hcut : interludeCut.flatten <+: Text.encode (render (interlude.flatMap Entry.lines)) := by
    decide
  have hlength : interludeCut.flatten.length = 85 := by decide
  have hends : EndsWithin 85 (spans 0 interlude) := by decide
  have hread : deliver Plain.decoder ⟨(), .empty, []⟩
      (driveAll none (LineSplitter.linesOf interludeCut.flatten)) =
        ⟨⟨(), .empty, [⟨.truncated, Session.cutOff 7⟩]⟩,
          .ok [.progress Plain.tool (Plain.spell ⟨2185, some 0, ["a".toList, []]⟩) none]⟩ := rfl
  obtain ⟨_, _, hevents, result, _, hresult, _, htruncated⟩ :=
    consume_cut reports_plain rfl hentries hcut hread false
  rw [hlength] at htruncated
  exact ⟨by decide, hends, hevents, result, hresult, htruncated.mpr hends⟩

end Reading

end TlaRunner.Protocol
