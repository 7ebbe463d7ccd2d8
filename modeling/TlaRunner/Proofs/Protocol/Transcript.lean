import TlaRunner.Proofs.Protocol.Findings
import TlaRunner.Proofs.Text.Utf8

/-!
# Writing a transcript and reading it

A transcript is a list of items.  Written out, each line of it ends in a line feed
with or without a carriage return before it, and the whole is encoded and cut into
chunks.  A decoder then reads those items and nothing else, wherever the cuts are.

Reading goes back in four steps: the bytes give the text (`run_encode`), the text gives
the lines (`pushAll_render`), a line of a sign gives its marker (`signOf?_line`), and
the lines of an item give the item (`drive_lines`).
-/

namespace TlaRunner.Protocol

/-! ## Lines and their ends -/

/-- How a line ends. -/
inductive Ending
  /-- In a line feed. -/
  | lf
  /-- In a carriage return and a line feed. -/
  | crlf
  deriving DecidableEq, Repr

/-- The characters of an ending. -/
def Ending.text : Ending → Text
  | .lf => ['\n']
  | .crlf => ['\r', '\n']

/-- A line that can stand between endings. -/
structure Unbroken (line : Text) : Prop where
  /-- It has no line feed. -/
  noFeed : '\n' ∉ line
  /-- It has no carriage return at its end. -/
  noReturn : '\r' ∉ line.getLast?

instance (line : Text) : Decidable (Unbroken line) :=
  decidable_of_iff ('\n' ∉ line ∧ '\r' ∉ line.getLast?)
    ⟨fun h => ⟨h.1, h.2⟩, fun h => ⟨h.1, h.2⟩⟩

/-- Lines with their endings as one text. -/
def render (lines : List (Text × Ending)) : Text :=
  lines.flatMap fun line => line.1 ++ line.2.text

namespace LineSplitter

/-- Characters without a line feed are held. -/
theorem pushAll_of_noFeed {line : Text} (h : '\n' ∉ line) (held s : Text) :
    pushAll held (line ++ s) = pushAll (line.reverse ++ held) s := by
  induction line generalizing held with
  | nil => rfl
  | cons c line ih =>
      rw [List.mem_cons, not_or] at h
      rw [List.cons_append, pushAll, if_neg (Ne.symm h.1), ih h.2, List.reverse_cons,
        List.append_assoc]
      rfl

/-- A text without a line feed is what is left over. -/
theorem linesOfText_of_noFeed {s : Text} (h : '\n' ∉ s) : linesOfText s = rest s.reverse := by
  have hheld := pushAll_of_noFeed h [] []
  rw [List.append_nil, List.append_nil] at hheld
  rw [linesOfText, hheld, pushAll, List.nil_append]

theorem lineOf_reverse {line : Text} (h : '\r' ∉ line.getLast?) :
    lineOf line.reverse = line := by
  rw [← List.head?_reverse] at h
  rw [lineOf.eq_def]
  split
  next held hreverse =>
    rw [hreverse] at h
    exact absurd rfl h
  next => exact List.reverse_reverse line

theorem pushAll_line {line : Text} (h : Unbroken line) (ending : Ending) (s : Text) :
    pushAll [] (line ++ ending.text ++ s) = (line :: (pushAll [] s).1, (pushAll [] s).2) := by
  rw [List.append_assoc, pushAll_of_noFeed h.noFeed, List.append_nil]
  cases ending with
  | lf =>
      simp only [Ending.text, List.cons_append, List.nil_append, pushAll, if_true,
        lineOf_reverse h.noReturn]
  | crlf =>
      have hreturn : '\r' ≠ '\n' := by decide
      simp only [Ending.text, List.cons_append, List.nil_append, pushAll, if_true,
        if_neg hreturn]
      rw [lineOf, List.reverse_reverse]

/-- A rendered text is split into its lines, and nothing is held behind it. -/
theorem pushAll_render {lines : List (Text × Ending)}
    (h : ∀ line ∈ lines.map Prod.fst, Unbroken line) :
    pushAll [] (render lines) = (lines.map Prod.fst, []) := by
  induction lines with
  | nil => rfl
  | cons line lines ih =>
      rw [List.map_cons, List.forall_mem_cons] at h
      rw [render, List.flatMap_cons, pushAll_line h.1, ← render, ih h.2, List.map_cons]

/-- The bytes of a rendered text, in any chunks, are split into its lines. -/
theorem feedAll_render {lines : List (Text × Ending)} {chunks : List Bytes}
    (h : ∀ line ∈ lines.map Prod.fst, Unbroken line)
    (hbytes : chunks.flatten = Text.encode (render lines)) :
    start.feedAll (chunks.map .bytes) = (lines.map Prod.fst, start) := by
  rw [feedAll_bytes, hbytes, feed]
  simp only [start, Text.Decoder.run_encode, pushText]
  rw [pushAll_render h]

end LineSplitter

/-! ## Items and their lines -/

/-- The lines of an item. -/
def Item.lines : Item → List Text
  | .line content => [content]
  | .message m => (Sign.start m.code m.subCode).line :: m.lines ++ [(Sign.stop m.code).line]

/-- The lines of an item that are no markers of its own. -/
def Item.content : Item → List Text
  | .line content => [content]
  | .message m => m.lines

/-- The numbers on the markers of an item. -/
def Item.numbers : Item → List Nat
  | .line _ => []
  | .message m => m.code :: m.subCode.toList

/-- An item that can be written out and read again. -/
structure Item.Writable (i : Item) : Prop where
  /-- Its lines can stand between endings. -/
  unbroken : ∀ line ∈ i.content, Unbroken line
  /-- Its lines are no markers. -/
  unmarked : ∀ line ∈ i.content, Marker.ofLine? line = none
  /-- Its numbers can be read. -/
  short : ∀ n ∈ i.numbers, (Text.ofNat n).length ≤ Text.digitLimit

instance (i : Item) : Decidable i.Writable :=
  decidable_of_iff ((∀ line ∈ i.content, Unbroken line) ∧
      (∀ line ∈ i.content, Marker.ofLine? line = none) ∧
      ∀ n ∈ i.numbers, (Text.ofNat n).length ≤ Text.digitLimit)
    ⟨fun h => ⟨h.1, h.2.1, h.2.2⟩, fun h => ⟨h.unbroken, h.unmarked, h.short⟩⟩

/-- The line of a sign can stand between endings. -/
theorem unbroken_line (sign : Sign) : Unbroken sign.line := by
  have hcode (n : Nat) : '\n' ∉ Text.ofNat n := (Text.isNumeral_ofNat n).not_mem (by decide)
  have hclass (subCode : Option Nat) : '\n' ∉ classText subCode := by
    cases subCode with
    | none => exact List.not_mem_nil
    | some n =>
        rw [classText, List.mem_append, not_or]
        exact ⟨by decide, hcode n⟩
  have hfence : '\n' ∉ fence := by decide
  constructor
  · cases sign with
    | start code subCode => simp [Sign.line, hclass subCode, hcode code, hfence]
    | stop code => simp [Sign.line, hcode code, hfence]
  · rw [getLast?_line]
    decide

theorem unbroken_lines {i : Item} (h : i.Writable) : ∀ line ∈ i.lines, Unbroken line := by
  cases i with
  | line content => exact h.unbroken
  | message m =>
      intro line hline
      simp only [Item.lines, List.cons_append, List.mem_cons, List.mem_append,
        List.not_mem_nil, or_false] at hline
      rcases hline with rfl | hline | rfl
      · exact unbroken_line _
      · exact h.unbroken line hline
      · exact unbroken_line _

theorem short_of_unmarked {line : Text} (h : Marker.ofLine? line = none) : ShortLine line := by
  intro m hm
  rw [h] at hm
  cases hm

theorem short_line {sign : Sign}
    (h : ∀ s ∈ sign.marker.numerals, s.length ≤ Text.digitLimit) : ShortLine sign.line := by
  intro m hm
  rw [ofLine?_line] at hm
  cases hm
  exact h

theorem short_of_numbers {i : Item} (hunmarked : ∀ line ∈ i.content, Marker.ofLine? line = none)
    (hshort : ∀ n ∈ i.numbers, (Text.ofNat n).length ≤ Text.digitLimit) :
    ∀ line ∈ i.lines, ShortLine line := by
  cases i with
  | line content => exact fun line hline => short_of_unmarked (hunmarked line hline)
  | message m =>
      intro line hline
      simp only [Item.lines, List.cons_append, List.mem_cons, List.mem_append,
        List.not_mem_nil, or_false] at hline
      rcases hline with rfl | hline | rfl
      · refine short_line fun s hs => ?_
        simp only [Sign.marker, Marker.numerals, List.mem_cons, Option.mem_toList,
          Option.map_eq_some_iff] at hs
        rcases hs with rfl | ⟨n, hn, rfl⟩
        · exact hshort m.code List.mem_cons_self
        · exact hshort n (List.mem_cons_of_mem _ (Option.mem_toList.mpr hn))
      · exact short_of_unmarked (hunmarked line hline)
      · refine short_line fun s hs => ?_
        rw [Sign.marker, Marker.numerals, List.mem_singleton] at hs
        rw [hs]
        exact hshort m.code List.mem_cons_self

theorem short_lines {i : Item} (h : i.Writable) : ∀ line ∈ i.lines, ShortLine line :=
  short_of_numbers h.unmarked h.short

/-- The lines of a transcript can stand between endings. -/
theorem unbroken_flatMap {items : List Item} (h : ∀ i ∈ items, i.Writable) :
    ∀ line ∈ items.flatMap Item.lines, Unbroken line := by
  intro line hline
  obtain ⟨i, hi, hmem⟩ := List.mem_flatMap.mp hline
  exact unbroken_lines (h i hi) line hmem

/-- The numbers on the lines of a transcript can be read. -/
theorem short_flatMap {items : List Item} (h : ∀ i ∈ items, i.Writable) :
    ∀ line ∈ items.flatMap Item.lines, ShortLine line := by
  intro line hline
  obtain ⟨i, hi, hmem⟩ := List.mem_flatMap.mp hline
  exact short_lines (h i hi) line hmem

/-! ## Reading the lines of items -/

/-- Lines that are no markers are handed on outside messages. -/
theorem drive_unmarked {lines : List Text} (h : ∀ line ∈ lines, Marker.ofLine? line = none) :
    drive none lines = (none, lines.map fun line => .item (.line line)) := by
  induction lines with
  | nil => rfl
  | cons line lines ih =>
      rw [List.forall_mem_cons] at h
      have hsign : signOf? line = none := by rw [signOf?, h.1, Option.map_none]
      rw [drive]
      simp only [advance, hsign]
      rw [ih h.2]
      rfl

theorem driveAll_unmarked {lines : List Text} (h : ∀ line ∈ lines, Marker.ofLine? line = none) :
    driveAll none lines = lines.map fun line => .item (.line line) := by
  rw [driveAll, drive_unmarked h]
  exact List.append_nil _

/-- Lines that are no markers are added to the open message. -/
theorem drive_body (m : OpenMessage) {body : List Text}
    (h : ∀ line ∈ body, Marker.ofLine? line = none) (rest : List Text) :
    drive (some m) (body ++ rest) = drive (some { m with lines := m.lines ++ body }) rest := by
  induction body generalizing m with
  | nil => rw [List.append_nil, List.nil_append]
  | cons line body ih =>
      have hsign : signOf? line = none := by
        rw [signOf?, h line List.mem_cons_self, Option.map_none]
      rw [List.cons_append, drive]
      simp only [advance, hsign, Option.toList_none, List.nil_append]
      rw [ih _ fun l hl => h l (List.mem_cons_of_mem _ hl), List.append_assoc]
      rfl

/-- Lines that are no markers between two markers of a message are handed on as its body,
however the markers are written. -/
theorem drive_message {opening closing : Text} {body : List Text} {code : Nat}
    {subCode : Option Nat} (hopening : signOf? opening = some (.start code subCode))
    (hclosing : signOf? closing = some (.stop code))
    (hbody : ∀ line ∈ body, Marker.ofLine? line = none) (rest : List Text) :
    drive none (opening :: body ++ [closing] ++ rest) =
      ((drive none rest).1, .item (.message ⟨code, subCode, body⟩) :: (drive none rest).2) := by
  rw [List.append_assoc, List.cons_append, drive]
  simp only [advance, hopening]
  rw [drive_body _ hbody, List.cons_append, drive]
  simp only [advance, hclosing, OpenMessage.closedBy, Option.map_some, if_true]
  rfl

/-- The lines of an item are handed on as the item. -/
theorem drive_item {i : Item} (h : ∀ line ∈ i.content, Marker.ofLine? line = none)
    (rest : List Text) :
    drive none (i.lines ++ rest) = ((drive none rest).1, .item i :: (drive none rest).2) := by
  cases i with
  | line content =>
      have hsign : signOf? content = none := by
        rw [signOf?, h content List.mem_cons_self, Option.map_none]
      simp only [Item.lines, List.cons_append, List.nil_append, drive, advance, hsign]
      rfl
  | message m => exact drive_message (signOf?_line _) (signOf?_line _) h rest

theorem drive_lines {i : Item} (h : i.Writable) (rest : List Text) :
    drive none (i.lines ++ rest) = ((drive none rest).1, .item i :: (drive none rest).2) :=
  drive_item h.unmarked rest

/-- Lines that hand on a message and nothing else. -/
structure Conveys (lines : List Text) (m : Message) : Prop where
  /-- The numbers on them can be read. -/
  short : ∀ line ∈ lines, ShortLine line
  /-- They are handed on as the message. -/
  drive : drive none lines = (none, [.item (.message m)])

theorem conveys_lines {m : Message} (h : (Item.message m).Writable) :
    Conveys (Item.message m).lines m := by
  have hdrive := drive_lines h []
  rw [List.append_nil] at hdrive
  exact ⟨short_lines h, hdrive⟩

theorem drive_flatMap {items : List Item}
    (h : ∀ i ∈ items, ∀ line ∈ i.content, Marker.ofLine? line = none) :
    drive none (items.flatMap Item.lines) = (none, items.map .item) := by
  induction items with
  | nil => rfl
  | cons i items ih =>
      rw [List.forall_mem_cons] at h
      rw [List.flatMap_cons, drive_item h.1, ih h.2, List.map_cons]

theorem drive_items {items : List Item} (h : ∀ i ∈ items, i.Writable) :
    drive none (items.flatMap Item.lines) = (none, items.map .item) :=
  drive_flatMap fun i hi => (h i hi).unmarked

theorem driveAll_flatMap {items : List Item}
    (h : ∀ i ∈ items, ∀ line ∈ i.content, Marker.ofLine? line = none) :
    driveAll none (items.flatMap Item.lines) = items.map .item := by
  rw [driveAll, drive_flatMap h]
  exact List.append_nil _

theorem driveAll_items {items : List Item} (h : ∀ i ∈ items, i.Writable) :
    driveAll none (items.flatMap Item.lines) = items.map .item :=
  driveAll_flatMap fun i hi => (h i hi).unmarked

/-- Items are no anomalies. -/
theorem conditions_items (items : List Item) :
    (items.map Delivery.item).filterMap Delivery.condition? = [] := by
  rw [List.filterMap_map]
  exact List.filterMap_eq_nil_iff.mpr fun _ _ => rfl

/-! ## Reading a transcript -/

namespace Reading

variable {σ ρ : Type} {d : Decoder σ ρ} {g after : Gathered σ}

/-- A transcript that is written out, encoded and cut into chunks anywhere is read as
its items, in order, without an anomaly.  No message is open and nothing is held behind
it. -/
theorem feedChunks_transcript {items : List Item} {lines : List (Text × Ending)}
    {chunks : List Bytes} {events : List Event} (hitems : ∀ i ∈ items, i.Writable)
    (hlines : lines.map Prod.fst = items.flatMap Item.lines)
    (hbytes : chunks.flatten = Text.encode (render lines))
    (hread : deliver d g (items.map .item) = ⟨after, .ok events⟩) :
    let run := feedChunks d (.start (.start g)) (chunks.map .bytes)
    run.1 = ⟨.start, ⟨none, after, none⟩⟩ ∧ run.2.fault = none ∧ run.2.events = events ∧
      (d.KeepsConditions → run.1.session.gathered.conditions = g.conditions) ∧
      ∀ stopped,
        (consume d (.start g) (chunks.map .bytes) stopped).1 = ended d after stopped ∧
          (consume d (.start g) (chunks.map .bytes) stopped).2.fault = none ∧
          (consume d (.start g) (chunks.map .bytes) stopped).2.events =
            events ++ lastEvents d after stopped := by
  have hsplit := LineSplitter.feedAll_render (hlines ▸ unbroken_flatMap hitems) hbytes
  rw [hlines] at hsplit
  have hshort := short_flatMap hitems
  have hdrive := drive_items hitems
  obtain ⟨hsession, hfault, hevents⟩ :=
    feedLines_of_ok (m := none) hshort (by rw [hdrive]; exact hread)
  obtain ⟨rest, hrun, hrest⟩ := feedChunks_eq d .start (.start g) (chunks.map .bytes)
  rw [hsplit] at hrun hrest
  rw [hdrive] at hsession
  have hend : (feedChunks d (start (.start g)) (chunks.map .bytes)).1 =
      ⟨.start, ⟨none, after, none⟩⟩ := by
    rw [start, hrun, hrest hfault, ← hsession]
    rfl
  refine ⟨hend, ?_, ?_, fun hkeeps => ?_, fun stopped => ?_⟩
  · rw [start, hrun]
    exact hfault
  · rw [start, hrun]
    exact hevents
  · rw [hend, conditions_of_deliver hkeeps hread, conditions_items, List.append_nil]
  · have hconsume : consume d (.start g) (chunks.map .bytes) stopped =
        readLines d (.start g) (items.flatMap Item.lines) stopped := by
      rw [consume_eq, hsplit]
      exact congrArg (readLines d (.start g) · stopped) (List.append_nil _)
    rw [hconsume]
    exact readLines_of_ok (m := none) hshort (by rw [driveAll_items hitems]; exact hread) stopped

/-- Items with characters of several bytes, a carriage return and empty lines. -/
def mixed : List Item :=
  [.line "h\u00e9 \u20ac".toList, .message ⟨2185, some 0, ["a\rb".toList, []]⟩, .line []]

/-- Their lines with endings of both kinds. -/
def mixedLines : List (Text × Ending) :=
  (mixed.flatMap Item.lines).zip [.crlf, .lf, .crlf, .lf, .crlf, .lf]

/-- Every byte is a chunk of its own. -/
theorem feedChunks_transcript_mixed :
    let chunks := (Text.encode (render mixedLines)).map fun byte => [byte]
    let run := feedChunks Plain.decoder (.start Plain.session) (chunks.map .bytes)
    run.1.session.message = none ∧ run.2.fault = none ∧
      run.2.events =
        [.progress Plain.tool (Plain.spell ⟨2185, some 0, ["a\rb".toList, []]⟩) none] ∧
      run.1.session.gathered.conditions = [] := by
  have hitems : ∀ i ∈ mixed, i.Writable := by decide
  have hbytes : ((Text.encode (render mixedLines)).map fun byte => [byte]).flatten =
      Text.encode (render mixedLines) := by
    rw [← List.flatMap_def]
    exact List.flatMap_singleton' _
  obtain ⟨hend, hfault, hevents, hconditions, _⟩ :=
    feedChunks_transcript (d := Plain.decoder) (g := ⟨(), .empty, []⟩) hitems (by decide) hbytes
      rfl
  exact ⟨congrArg (·.session.message) hend, hfault, hevents,
    hconditions Plain.announces.keepsConditions⟩

end Reading

end TlaRunner.Protocol
