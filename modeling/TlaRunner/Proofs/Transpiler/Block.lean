import TlaRunner.Proofs.Transpiler.Line

/-!
# Errors of the transpiler

A `Block` is an error as the transpiler prints it: the announcement, the text and, behind
any number of blank lines, perhaps a line that names its place.  Blank lines may follow.

The first line of a block completes what was pending before it, the text takes the
announcement up, and the line with the place takes the text up (`told_block`).  So nothing of
a block is left for the next one, except the text of an error without a place, which
the next block or the end completes.  Blocks in a row therefore tell their own records, one
each and in order (`told_blocks`), and the report has these (`report_of_blocks`).
-/

namespace TlaRunner.Transpiler

open Text (Scan)
open Diagnostic (Record firsts)
open Protocol (Marker)

/-! ## Blocks and their lines -/

/-- A line that names the place of an error, with the blank lines before it. -/
structure Located where
  /-- The blank lines. -/
  gap : List Text
  /-- The line. -/
  line : Text
  /-- The line of the place. -/
  row : Text
  /-- The column of the place. -/
  column : Text
  /-- The blank lines are blank. -/
  blank : ∀ line ∈ gap, Text.strip line = []
  /-- The place is the first one on the line, -/
  place : FirstPlace line row column
  /-- which announces no other error -/
  unannounced : ¬errorHeader <+: line
  /-- and is no marker. -/
  unmarked : Marker.ofLine? line = none

/-- An error as it is printed. -/
structure Block where
  /-- What stands behind the words of the announcement. -/
  remark : Text
  /-- What stands behind the dashes. -/
  body : Text
  /-- The line with the place. -/
  located : Option Located
  /-- The blank lines behind it. -/
  gap : List Text
  /-- The text names no place -/
  placeless : ¬NamesPlace (Text.strip body)
  /-- and does not say that there is nothing to translate. -/
  translated : ∀ phrase ∈ noAlgorithm, ¬phrase <:+: Text.strip body
  /-- The blank lines are blank. -/
  blank : ∀ line ∈ gap, Text.strip line = []

/-- The blank lines and the line with the place. -/
def Located.lines (l : Located) : List Text :=
  l.gap ++ [l.line]

namespace Block

/-- The text of the error. -/
def text (b : Block) : Text :=
  Text.strip b.body

/-- The lines with the place, if there are any. -/
def locatedLines (b : Block) : List Text :=
  b.located.toList.flatMap Located.lines

/-- The lines of the error. -/
def lines (b : Block) : List Text :=
  (errorHeader ++ b.remark) :: (errorLead ++ b.body) :: (b.locatedLines ++ b.gap)

/-- The record of the error. -/
def record (file : Text) (b : Block) : Record :=
  match b.located with
  | some l => errorAt file b.text l.row l.column
  | none => errorAtStart file b.text

end Block

/-! ### Lines that are no markers -/

theorem unmarked_of_blank {line : Text} (h : Text.strip line = []) :
    Marker.ofLine? line = none := by
  refine Protocol.ofLine?_of_head? ?_
  rw [← Text.head?_strip, h]
  exact Option.not_mem_none _

theorem Block.unmarked (b : Block) : ∀ line ∈ b.lines, Marker.ofLine? line = none := by
  have hgap : ∀ line ∈ b.gap, Marker.ofLine? line = none := fun line hline =>
    unmarked_of_blank (b.blank line hline)
  have hlocated : ∀ line ∈ b.locatedLines, Marker.ofLine? line = none := by
    rw [locatedLines]
    cases b.located with
    | none => simp
    | some l =>
        rw [Option.toList_some, List.flatMap_singleton, Located.lines]
        exact List.forall_mem_append.mpr ⟨fun line hline => unmarked_of_blank (l.blank line hline),
          List.forall_mem_singleton.mpr l.unmarked⟩
  refine List.forall_mem_cons.mpr ⟨?_, List.forall_mem_cons.mpr
    ⟨?_, List.forall_mem_append.mpr ⟨hlocated, hgap⟩⟩⟩
  · exact Protocol.ofLine?_of_lead (by decide) b.remark
  · exact Protocol.ofLine?_of_lead (by decide) b.body

/-! ## What the lines of a block tell -/

namespace State

/-- A blank line leaves everything as it is. -/
theorem read_of_blank (s : State) {line : Text} (h : Text.strip line = []) :
    s.read line = (s, none) := by
  have hblank := Text.isBlank_of_strip_eq_nil h
  have hstart (part : Text) (hpart : part.all Text.isBlank = false) :
      Text.startsWith part line = false := Text.startsWith_of_blank hblank hpart
  have hplace : Scan.search place line = none :=
    search_place_eq_none_iff.mpr (not_namesPlace_of_blank hblank)
  rw [read, hstart errorHeader (by decide), hstart errorLead (by decide),
    hstart warningLead (by decide), Bool.and_false]
  cases hpending : s.pending with
  | none => rfl
  | some text =>
      simp only [Bool.false_eq_true, if_false, readPending, hplace, h]
      rfl

theorem told_blanks (s : State) {gap : List Text} (h : ∀ line ∈ gap, Text.strip line = [])
    (rest : List Text) : s.told (gap ++ rest) = s.told rest := by
  induction gap with
  | nil => rfl
  | cons line gap ih =>
      rw [List.forall_mem_cons] at h
      rw [List.cons_append, told_cons, read_of_blank s h.1, ih h.2]
      rfl

/-- An announcement completes what is pending, and the text of an error is awaited. -/
theorem read_header (s : State) (remark : Text) :
    s.read (errorHeader ++ remark) = (⟨s.file, true, none⟩, s.overdue) := by
  have hheader : Text.startsWith errorHeader (errorHeader ++ remark) = true :=
    List.isPrefixOf_iff_prefix.mpr (List.prefix_append _ _)
  rw [read, if_pos hheader]

/-- The text of an error without a place is pending behind its line. -/
theorem read_text (file : Text) (b : Block) :
    read ⟨file, true, none⟩ (errorLead ++ b.body) = (⟨file, false, some b.text⟩, none) := by
  have hheader : Text.startsWith errorHeader (errorLead ++ b.body) = false := rfl
  have hlead : Text.startsWith errorLead (errorLead ++ b.body) = true :=
    List.isPrefixOf_iff_prefix.mpr (List.prefix_append _ _)
  have htext : errorText (errorLead ++ b.body) = b.text := by
    rw [errorText, List.drop_left, Block.text]
  have hphrases : saysNoAlgorithm b.text = false := by
    rw [saysNoAlgorithm, List.any_eq_false]
    exact fun phrase hphrase hoccurs => b.translated phrase hphrase (Text.occursIn_iff.mp hoccurs)
  have hplace : Scan.search place b.text = none := search_place_eq_none_iff.mpr b.placeless
  rw [read, hheader, if_neg Bool.false_ne_true, hlead, if_pos (by rfl), htext, readErrorText,
    hphrases, if_neg Bool.false_ne_true, hplace]

/-- A line with a place completes the error whose text is pending. -/
theorem read_located (file text : Text) (l : Located) :
    read ⟨file, false, some text⟩ l.line =
      (⟨file, false, none⟩, some (errorAt file text l.row l.column)) := by
  have hheader : Text.startsWith errorHeader l.line = false :=
    Bool.eq_false_iff.mpr fun hstart => l.unannounced (List.isPrefixOf_iff_prefix.mp hstart)
  have hplace : Scan.search place l.line = some (l.row, l.column) :=
    search_place_eq_some_iff.mpr l.place
  rw [read, hheader, if_neg Bool.false_ne_true, Bool.false_and, if_neg Bool.false_ne_true]
  simp only [readPending, hplace]

/-- The state behind a block has its text pending if the block has no place. -/
def afterBlock (file : Text) (b : Block) : State :=
  ⟨file, false, if b.located.isSome then none else some b.text⟩

/-- A block tells what was pending before it, then its own error if it has a place.  An
error without one is still to be told. -/
theorem told_block (s : State) (b : Block) (rest : List Text) :
    s.told (b.lines ++ rest) = s.overdue.toList ++
      ((b.located.map fun _ => b.record s.file).toList ++ (afterBlock s.file b).told rest) := by
  rw [Block.lines, List.cons_append, List.cons_append, told_cons, read_header, told_cons, read_text,
    Option.toList_none, List.nil_append, Block.locatedLines, Block.record, afterBlock]
  cases b.located with
  | none =>
      rw [Option.toList_none, List.flatMap_nil, List.nil_append, told_blanks _ b.blank]
      rfl
  | some l =>
      rw [Option.toList_some, List.flatMap_singleton, Located.lines, List.append_assoc,
        List.append_assoc, told_blanks _ l.blank, List.singleton_append, told_cons, read_located,
        told_blanks _ b.blank]
      rfl

/-- What was told of a block and what is still to be told is its record. -/
theorem toList_append_overdue (file : Text) (b : Block) :
    (b.located.map fun _ => b.record file).toList ++ (afterBlock file b).overdue.toList =
      [b.record file] := by
  rw [afterBlock, overdue, Block.record]
  cases b.located with
  | none => rfl
  | some l => rfl

/-- Blocks tell what was pending before them, then one record each. -/
theorem told_blocks (s : State) (blocks : List Block) :
    s.told (blocks.flatMap Block.lines) = s.overdue.toList ++ blocks.map (Block.record s.file) := by
  induction blocks generalizing s with
  | nil => rw [List.flatMap_nil, List.map_nil, List.append_nil]; rfl
  | cons b blocks ih =>
      rw [List.flatMap_cons, told_block, ih, List.map_cons,
        ← List.append_assoc (b.located.map fun _ => b.record s.file).toList, toList_append_overdue]
      rfl

end State

/-! ## Reports of blocks -/

/-- Where blocks in a row can be read, the report has one entry, of the module's file.  Its
records are those of the blocks, in order, without those that tell the error of an earlier
block. -/
theorem report_of_blocks {file : Text} {blocks : List Block} {stopped : Bool}
    (hrun : (Protocol.Reading.readLines decoder (session file) (blocks.flatMap Block.lines)
      stopped).2.fault = none) :
    let run := Protocol.Reading.readLines decoder (session file) (blocks.flatMap Block.lines)
      stopped
    ∃ report, run.1.result = some report ∧
      report.diagnostics = [(file, firsts (blocks.map (Block.record file)))] := by
  have hunmarked : ∀ line ∈ blocks.flatMap Block.lines, Marker.ofLine? line = none := by
    intro line hline
    obtain ⟨b, -, hmem⟩ := List.mem_flatMap.mp hline
    exact b.unmarked line hmem
  obtain ⟨report, hresult, hdiagnostics⟩ := report_of_lines hunmarked hrun
  rw [State.told_blocks] at hdiagnostics
  exact ⟨report, hresult, hdiagnostics⟩

/-- A line with two places, behind an empty line. -/
def secondLine : Located where
  gap := [[]]
  line := "  line 12, column 5: after line 1, column 1".toList
  row := "12".toList
  column := "5".toList
  blank := by decide
  place := by decide
  unannounced := by decide
  unmarked := by decide

/-- An error with a place. -/
def misspelt : Block where
  remark := []
  body := " Missing end if ".toList
  located := some secondLine
  gap := [" ".toList]
  placeless := by decide
  translated := by decide
  blank := by decide

/-- An error without one. -/
def redefined : Block where
  remark := " 2".toList
  body := "Process proc redefined at line 3".toList
  located := none
  gap := [[], "\t".toList]
  placeless := by decide
  translated := by decide
  blank := by decide

theorem report_of_blocks_repeated :
    let run := Protocol.Reading.readLines decoder (session "/a/Spec.tla".toList)
      ([redefined, misspelt, redefined].flatMap Block.lines) false
    ∃ report, run.1.result = some report ∧ report.diagnostics = [("/a/Spec.tla".toList,
      [⟨"/a/Spec.tla".toList, .fileStart, .error, "Process proc redefined at line 3".toList⟩,
        ⟨"/a/Spec.tla".toList, ⟨⟨11, 4⟩, ⟨11, 4⟩⟩, .error, "Missing end if".toList⟩])] := by
  have hrun : (Protocol.Reading.readLines decoder (session "/a/Spec.tla".toList)
      ([redefined, misspelt, redefined].flatMap Block.lines) false).2.fault = none := by
    decide +kernel
  have hfirsts : firsts ([redefined, misspelt, redefined].map (Block.record "/a/Spec.tla".toList)) =
      [errorAtStart "/a/Spec.tla".toList "Process proc redefined at line 3".toList,
        errorAt "/a/Spec.tla".toList "Missing end if".toList "12".toList "5".toList] := by decide
  obtain ⟨report, hresult, hdiagnostics⟩ := report_of_blocks hrun
  rw [hfirsts] at hdiagnostics
  exact ⟨report, hresult, hdiagnostics⟩

end TlaRunner.Transpiler
