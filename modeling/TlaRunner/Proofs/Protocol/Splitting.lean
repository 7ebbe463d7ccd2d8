import TlaRunner.Proofs.Protocol.Transcript
import TlaRunner.Proofs.Text.Replacement

/-!
# Splitting bytes or text

The splitter reads bytes as text first and looks for line feeds in the text.  It might as well cut
the bytes at their line feeds and read each piece by itself (`linesOf_eq`): no malformed bytes take
a line feed with them, and what they are replaced by depends on no byte of another line.

`lines_of_pieces` says this of the lines that a splitter gives, whatever chunks it is fed.
-/

namespace TlaRunner.Protocol.LineSplitter

open Text (Decodes decode decodes_decode decodes_iff)

/-! ## Pieces -/

/-- The pieces of bytes between line feeds, but for a last one without bytes. -/
def pieces (bytes : Bytes) : List Bytes :=
  let all := bytes.splitOn 0x0A
  if all.getLast? = some [] then all.dropLast else all

/-- A text without one carriage return at its end. -/
def withoutReturn (s : Text) : Text :=
  if s.getLast? = some '\r' then s.dropLast else s

theorem pieces_of_noFeed {bytes : Bytes} (h : 0x0A ∉ bytes) :
    pieces bytes = if bytes = [] then [] else [bytes] := by
  rw [pieces, List.splitOn_eq_singleton h]
  simp only [List.getLast?_singleton, Option.some.injEq, List.dropLast_singleton]

theorem pieces_append_feed {before : Bytes} (h : 0x0A ∉ before) (after : Bytes) :
    pieces (before ++ 0x0A :: after) = before :: pieces after := by
  have hsome : after.splitOn 0x0A ≠ [] := List.splitOn_ne_nil _ _
  have hall : (before ++ 0x0A :: after).splitOn 0x0A = before :: after.splitOn 0x0A := by
    rw [List.splitOn_append_cons_self, List.splitOn_eq_singleton h]
    rfl
  rw [pieces, pieces, hall]
  simp only [List.getLast?_cons_of_ne_nil hsome, List.dropLast_cons_of_ne_nil hsome]
  split
  · rfl
  · rfl

/-! ## Lines of pieces -/

theorem lineOf_eq (held : Text) : lineOf held = withoutReturn held.reverse := by
  rw [lineOf.eq_def, withoutReturn, List.getLast?_reverse]
  split
  next held => simp
  next held hne =>
    rw [if_neg]
    intro hhead
    obtain ⟨rest, rfl⟩ := List.head?_eq_some_iff.mp hhead
    exact hne rest rfl

theorem noFeed_decode {bytes : Bytes} (h : 0x0A ∉ bytes) : '\n' ∉ decode bytes := by
  rw [← List.count_eq_zero, (decodes_decode bytes).count_feed]
  exact List.count_eq_zero.mpr h

theorem linesOf_of_noFeed {bytes : Bytes} (h : 0x0A ∉ bytes) :
    linesOf bytes = if bytes = [] then [] else [withoutReturn (decode bytes)] := by
  have hnil := (decodes_decode bytes).eq_nil_iff
  simp only [linesOf, linesOfText_of_noFeed (noFeed_decode h), rest, List.isEmpty_reverse,
    List.isEmpty_iff, hnil, lineOf_eq, List.reverse_reverse]

theorem linesOf_append_feed {before : Bytes} (h : 0x0A ∉ before) (after : Bytes) :
    linesOf (before ++ 0x0A :: after) = withoutReturn (decode before) :: linesOf after := by
  have hdecode : decode (before ++ 0x0A :: after) = decode before ++ '\n' :: decode after :=
    (decodes_iff.mp ((decodes_decode before).append_feed (decodes_decode after))).symm
  simp only [linesOf, linesOfText, hdecode, pushAll_of_noFeed (noFeed_decode h), pushAll, if_true,
    List.append_nil, lineOf_eq, List.reverse_reverse, List.cons_append]

/-- Cutting comes before reading.  The induction is on the number of bytes, which are fewer behind
the first line feed. -/
theorem linesOf_eq (bytes : Bytes) :
    linesOf bytes = (pieces bytes).map fun piece => withoutReturn (decode piece) := by
  induction hlength : bytes.length using Nat.strong_induction_on generalizing bytes with
  | _ length ih =>
      by_cases hfeed : 0x0A ∈ bytes
      · obtain ⟨before, after, rfl, hbefore⟩ := List.eq_append_cons_of_mem hfeed
        have hshorter : after.length < length := by
          rw [← hlength, List.length_append, List.length_cons]
          omega
        rw [linesOf_append_feed hbefore, pieces_append_feed hbefore, ih _ hshorter _ rfl,
          List.map_cons]
      · rw [linesOf_of_noFeed hfeed, pieces_of_noFeed hfeed]
        split
        · rfl
        · rfl

/-! ## Line feeds -/

theorem length_pushAll (held s : Text) : (pushAll held s).1.length = s.count '\n' := by
  induction s generalizing held with
  | nil => rfl
  | cons c s ih =>
      rw [pushAll]
      by_cases hc : c = '\n'
      · rw [if_pos hc, List.length_cons, ih, hc, List.count_cons_self]
      · rw [if_neg hc, ih, List.count_cons_of_ne hc]

/-- Every line feed ends a line. -/
theorem length_feed (bytes : Bytes) :
    (start.feed (.bytes bytes)).1.length = bytes.count 0x0A := by
  have hread : (pushAll [] (decode bytes)).1.length =
      (pushAll [] (Text.Decoder.ready.run bytes).1).1.length := by
    simp only [decode, pushAll_append, pushAll_finish, List.append_nil]
  rw [feed, pushText, ← (decodes_decode bytes).count_feed, ← length_pushAll [], hread]
  rfl

theorem length_flush (splitter : LineSplitter) : splitter.flush.1.length ≤ 1 := by
  rw [flush]
  split
  · exact Nat.zero_le 1
  · exact Nat.le_refl 1

/-! ## Chunks -/

/-- The lines of chunks are the pieces of their bytes, each read by itself to its end and without
one carriage return there.  So every line feed ends a line, and a line is that of its own
piece, whatever the others are and wherever the chunks were cut. -/
theorem lines_of_pieces (chunks : List Bytes) :
    let fed (chunks : List Bytes) := start.feedAll (chunks.map .bytes)
    let lines (chunks : List Bytes) := (fed chunks).1 ++ (fed chunks).2.flush.1
    (∃ texts, List.Forall₂ Decodes (pieces chunks.flatten) texts ∧
      lines chunks = texts.map withoutReturn) ∧
    (fed chunks).1.length = chunks.flatten.count 0x0A ∧ (fed chunks).2.flush.1.length ≤ 1 ∧
    ∀ (others : List Bytes) (n : Nat), (pieces chunks.flatten)[n]? = (pieces others.flatten)[n]? →
      (lines chunks)[n]? = (lines others)[n]? := by
  intro fed lines
  have hlines (chunks : List Bytes) : lines chunks =
      (pieces chunks.flatten).map fun piece => withoutReturn (decode piece) := by
    simp only [lines, fed, feedAll_bytes, feed_flush, linesOf_eq]
  refine ⟨⟨(pieces chunks.flatten).map decode, ?_, ?_⟩, ?_, length_flush _, fun others n h => ?_⟩
  · rw [List.forall₂_map_right_iff, List.forall₂_same]
    exact fun piece _ => decodes_decode piece
  · rw [hlines, List.map_map]
    rfl
  · simp only [fed, feedAll_bytes, length_feed]
  · rw [hlines, hlines, List.getElem?_map, List.getElem?_map, h]

/-- A character cut off by a line feed, a surrogate, and the end of a line in two chunks. -/
example : (start.feedAll ([[0xE2, 0x82, 0x0A, 0xED, 0xA0], [0x0D], [0x0A, 0xF0]].map .bytes)).1 =
    [['\uFFFD'], ['\uFFFD', '\uFFFD']] := by decide

end TlaRunner.Protocol.LineSplitter
