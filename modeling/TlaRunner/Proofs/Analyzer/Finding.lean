import TlaRunner.Proofs.Analyzer.Line

/-!
# Findings and the lines they come from

Each record that the grammar gives comes from one line.  A location line accounts for the
finding that starts there: its text is the block of lines behind it (`block`), and its file
and its severity are those that hold when the location is read.  Any other line accounts for
what it gives itself, where no finding is being read.

`Grammar.reports` lists what is given line by line and when the output ends, and
`Grammar.dues` what each line accounts for.  The two lists are one (`reports_eq`).  The
finding that is being read is what carries the induction: it comes to the record of the
lines read so far and those of its block that are still to come (`Pending.finished`).
-/

namespace TlaRunner.Analyzer

open Text (Scan)
open Diagnostic (Record)

/-! ## The text behind a location -/

/-- Whether a line goes on with the text of a finding. -/
def isTextLine (line : Text) : Bool :=
  !isEmptyLine line && (locationOf? line).isNone

/-- What stands on the lines at the front that go on with a text. -/
def textOf (lines : List Text) : List Text :=
  (lines.takeWhile isTextLine).map Text.strip

/-- What stands on the first lines with text, up to an empty line or a location. -/
def block (lines : List Text) : List Text :=
  textOf (lines.dropWhile isEmptyLine)

/-- The text of a finding with these lines. -/
def wording (lines : List Text) : Text :=
  if lines.isEmpty then "Unknown error".toList else Text.join ['\n'] lines

/-- The finding at a location with lines behind it. -/
def Grammar.findingAt (g : Grammar) (d : LocationDigits) (after : List Text) : Record :=
  ⟨g.fileOf d.moduleName, d.span, g.severity, wording (block after)⟩

theorem textOf_of_text {line : Text} (h : isTextLine line = true) (after : List Text) :
    textOf (line :: after) = Text.strip line :: textOf after := by
  rw [textOf, List.takeWhile_cons_of_pos h, List.map_cons, textOf]

theorem textOf_of_stop {line : Text} (h : isTextLine line = false) (after : List Text) :
    textOf (line :: after) = [] := by
  rw [textOf, List.takeWhile_cons_of_neg (by rw [h]; exact Bool.false_ne_true), List.map_nil]

theorem block_of_empty {line : Text} (h : isEmptyLine line = true) (after : List Text) :
    block (line :: after) = block after := by
  rw [block, List.dropWhile_cons_of_pos h, block]

theorem block_of_filled {line : Text} (h : isEmptyLine line = false) (after : List Text) :
    block (line :: after) = textOf (line :: after) := by
  rw [block, List.dropWhile_cons_of_neg (by rw [h]; exact Bool.false_ne_true)]

/-- Something stands on the line of a location. -/
theorem isEmptyLine_of_location {line : Text} {d : LocationDigits}
    (h : locationOf? line = some d) : isEmptyLine line = false := by
  obtain ⟨-, rest, hline, -⟩ := locationOf?_eq_some_iff.mp h
  rw [isEmptyLine, hline]
  rfl

theorem isTextLine_of_location {line : Text} {d : LocationDigits}
    (h : locationOf? line = some d) : isTextLine line = false := by
  rw [isTextLine, h]
  exact Bool.and_false _

theorem ne_nil_of_mem_textOf {lines : List Text} {s : Text} (h : s ∈ textOf lines) : s ≠ [] := by
  obtain ⟨line, hline, rfl⟩ := List.mem_map.mp h
  have htext : isTextLine line = true := List.mem_takeWhile_imp hline
  intro hnil
  rw [isTextLine, isEmptyLine, hnil] at htext
  cases htext

/-! ## A finding that is being read -/

namespace Pending

variable {p : Pending}

/-- The text that is still to come: before any text, empty lines are passed over. -/
def rest (p : Pending) (after : List Text) : List Text :=
  if p.lines.isEmpty then block after else textOf after

/-- What the finding comes to. -/
def finished (p : Pending) (after : List Text) : Record :=
  { p with lines := p.lines ++ p.rest after }.record

theorem rest_nil (p : Pending) : p.rest [] = [] := by
  rw [rest]
  split
  · rfl
  · rfl

theorem finished_of_rest {after : List Text} (h : p.rest after = []) :
    p.finished after = p.record := by
  rw [finished, h, List.append_nil]

/-- A location ends the text. -/
theorem rest_of_location {line : Text} {d : LocationDigits} (h : locationOf? line = some d)
    (after : List Text) : p.rest (line :: after) = [] := by
  rw [rest, block_of_filled (isEmptyLine_of_location h),
    textOf_of_stop (isTextLine_of_location h), ite_self]

/-- So does an empty line behind some text. -/
theorem rest_of_empty {line : Text} (hlines : p.lines ≠ []) (h : isEmptyLine line = true)
    (after : List Text) : p.rest (line :: after) = [] := by
  have hstop : isTextLine line = false := by
    rw [isTextLine, h]
    rfl
  rw [rest, if_neg (by simpa using hlines), textOf_of_stop hstop]

/-- An empty line before any text is passed over. -/
theorem finished_of_skipped {line : Text} (hlines : p.lines = []) (h : isEmptyLine line = true)
    (after : List Text) : p.finished (line :: after) = p.finished after := by
  have hempty : p.lines.isEmpty = true := by
    rw [hlines]
    rfl
  rw [finished, finished, rest, rest, if_pos hempty, if_pos hempty, block_of_empty h]

/-- A line with text is taken into the finding. -/
theorem finished_of_text {line : Text} (h : isTextLine line = true) (after : List Text) :
    p.finished (line :: after) =
      { p with lines := p.lines ++ [Text.strip line] }.finished after := by
  have hfilled : isEmptyLine line = false := by
    rw [isTextLine, Bool.and_eq_true] at h
    simpa using h.1
  have hrest : p.rest (line :: after) = Text.strip line :: textOf after := by
    rw [rest, block_of_filled hfilled, textOf_of_text h, ite_self]
  have hlater : { p with lines := p.lines ++ [Text.strip line] }.rest after = textOf after := by
    rw [rest, if_neg (by simp)]
  rw [finished, finished, hrest, hlater, List.append_assoc, List.singleton_append]

/-- The record of a finding without text yet is that of the block behind it. -/
theorem finished_start (file : Text) (range : Range) (severity : Severity) (after : List Text) :
    (⟨file, range, severity, []⟩ : Pending).finished after =
      ⟨file, range, severity, wording (block after)⟩ := by
  have hempty : (Text.join ['\n'] (block after)).isEmpty = (block after).isEmpty := by
    cases hblock : block after with
    | nil => rfl
    | cons s later =>
        have hs : s ≠ [] := ne_nil_of_mem_textOf (h := hblock ▸ List.mem_cons_self)
        cases s with
        | nil => exact absurd rfl hs
        | cons c s =>
            cases later with
            | nil => rfl
            | cons next later => rfl
  have hrest : (⟨file, range, severity, []⟩ : Pending).rest after = block after := if_pos rfl
  rw [finished, hrest]
  simp only [List.nil_append, record, hempty, wording]

end Pending

/-! ## What lines give, and what they account for -/

/-- What a record comes from. -/
inductive Origin
  /-- The finding that was being read. -/
  | finding
  /-- The line that was read. -/
  | line
  deriving DecidableEq, Repr

namespace Grammar

/-- The records that a line gives. -/
def recordsAt (g : Grammar) (line : Text) : List Record :=
  match (g.feed line).2 with
  | .ok result => result.records
  | .error _ => []

/-- The records that lines give, and those that are given up when the output ends. -/
def recordsOf (g : Grammar) : List Text → List Record
  | [] => g.flush.1
  | line :: after => g.recordsAt line ++ (g.feed line).1.recordsOf after

/-- What the next records come from. -/
def origin (g : Grammar) : Origin :=
  if g.pending.isSome then .finding else .line

/-- The same records with what they come from. -/
def reports (g : Grammar) : List Text → List (Origin × Record)
  | [] => g.flush.1.map (.finding, ·)
  | line :: after => (g.recordsAt line).map (g.origin, ·) ++ (g.feed line).1.reports after

/-- What a line accounts for. -/
def due (g : Grammar) (line : Text) (after : List Text) : List (Origin × Record) :=
  match locationOf? line with
  | some d => [(.finding, g.findingAt d after)]
  | none => if g.pending.isSome then [] else (g.recordsAt line).map (.line, ·)

/-- What lines account for, one after the other. -/
def dues (g : Grammar) : List Text → List (Origin × Record)
  | [] => []
  | line :: after => g.due line after ++ (g.feed line).1.dues after

/-- The findings at the locations among lines, in order. -/
def findings (g : Grammar) : List Text → List Record
  | [] => []
  | line :: after =>
    ((locationOf? line).map fun d => g.findingAt d after).toList ++
      (g.feed line).1.findings after

variable {g : Grammar}

theorem map_reports (g : Grammar) (lines : List Text) :
    (g.reports lines).map (·.2) = g.recordsOf lines := by
  induction lines generalizing g with
  | nil =>
      rw [reports, List.map_map]
      exact List.map_id _
  | cons line after ih =>
      rw [reports, List.map_append, ih, recordsOf, List.map_map]
      exact congrArg (· ++ _) (List.map_id _)

/-- Among what lines account for, the findings are those of the locations. -/
theorem filter_dues (g : Grammar) (lines : List Text) :
    ((g.dues lines).filter (·.1 = .finding)).map (·.2) = g.findings lines := by
  induction lines generalizing g with
  | nil => rfl
  | cons line after ih =>
      rw [dues, List.filter_append, List.map_append, ih, findings, due]
      congr 1
      cases locationOf? line with
      | some d => rfl
      | none =>
          simp only [Option.map_none, Option.toList_none, List.map_eq_nil_iff,
            List.filter_eq_nil_iff]
          intro report hreport
          split at hreport
          · cases hreport
          · obtain ⟨r, -, rfl⟩ := List.mem_map.mp hreport
            simp

/-! ### Lines that start no finding -/

theorem pending_onOther (g : Grammar) (stripped : Text) :
    (g.onOther stripped).1.pending = g.pending := by
  rcases g.onOther_cases stripped with ⟨digits, file, -, -, hplace⟩ | ⟨after, _, hread, -, hkept⟩
  · rw [hplace]
    rfl
  · rw [hread]
    exact hkept

/-- Where no finding is being read, only a location starts one. -/
theorem pending_feed {line : Text} (hline : locationOf? line = none)
    (hpending : g.pending = none) : (g.feed line).1.pending = none := by
  cases hwait : g.awaitingPlace && !isEmptyLine line with
  | true =>
      rw [feed_of_awaiting hline hpending hwait, onAwaited]
      split
      · exact hpending
      · exact hpending
  | false => rw [feed_of_other hline hpending hwait, pending_onOther, hpending]

/-- The finding that is being read is given up as it is. -/
theorem map_flush (g : Grammar) :
    g.flush.1.map (g.origin, ·) = (g.pending.map fun p => (Origin.finding, p.record)).toList := by
  rw [flush, origin]
  cases g.pending with
  | none => rfl
  | some p => rfl

/-! ### The account -/

/-- A line that goes on with the finding that is being read gives nothing, unless it ends
the text. -/
theorem reports_pending {p : Pending} {line : Text} {after : List Text}
    (hline : locationOf? line = none) (hpending : g.pending = some p) :
    (g.recordsAt line).map (g.origin, ·) ++
        ((g.feed line).1.pending.map fun p => (Origin.finding, p.finished after)).toList =
      [(.finding, p.finished (line :: after))] := by
  have horigin : g.origin = .finding := by
    rw [origin, hpending]
    rfl
  rw [recordsAt, feed_of_pending hline hpending, horigin]
  cases hempty : isEmptyLine line with
  | false =>
      have htext : isTextLine line = true := by rw [isTextLine, hempty, hline]; rfl
      rw [isEmptyLine] at hempty
      rw [Pending.finished_of_text htext]
      simp [onText, hempty, LineResult.nothing]
  | true =>
      rw [isEmptyLine] at hempty
      by_cases hlines : p.lines = []
      · rw [Pending.finished_of_skipped hlines hempty]
        simp [onText, hempty, hlines, hpending, LineResult.nothing]
      · rw [Pending.finished_of_rest (Pending.rest_of_empty hlines hempty after)]
        simp [onText, hempty, hlines, flush, hpending]

/-- What is given is what the finding that is being read comes to, and then what the lines
account for. -/
theorem reports_eq {lines : List Text} (hreads : g.Reads lines) :
    g.reports lines =
      (g.pending.map fun p => (Origin.finding, p.finished lines)).toList ++ g.dues lines := by
  induction lines generalizing g with
  | nil =>
      rw [reports, dues, List.append_nil, flush]
      cases g.pending with
      | none => rfl
      | some p =>
          rw [Option.map_some, Option.map_some, p.finished_of_rest p.rest_nil]
          rfl
  | cons line after ih =>
      obtain ⟨hread, hlater⟩ := hreads
      rw [reports, ih hlater, dues, due]
      cases hline : locationOf? line with
      | some d =>
          -- The finding before the location is complete, and another one starts.
          have hfeed := feed_of_location hline hread
          have hcomplete (p : Pending) : p.finished (line :: after) = p.record :=
            p.finished_of_rest (p.rest_of_location hline after)
          have hrecords : g.recordsAt line = g.flush.1 := by rw [recordsAt, hfeed]
          rw [hrecords, map_flush, hfeed]
          simp only [hcomplete, Option.map_some, Option.toList_some, Pending.finished_start]
          rfl
      | none =>
          cases hpending : g.pending with
          | none =>
              have horigin : g.origin = .line := by
                rw [origin, hpending]
                rfl
              rw [pending_feed hline hpending, horigin]
              rfl
          | some p =>
              rw [← List.append_assoc, reports_pending hline hpending]
              rfl

/-- Lines that are all read, where no finding is being read before them, give record for
record what they account for.  So what is given up as a finding is one record for each line
that starts with a written location, in the order of these lines: in the file of its module
and with the severity that hold when it is read, at its range, and with the block behind it
as its text. -/
theorem findings_of_locations {lines : List Text} (hidle : g.pending = none)
    (hreads : g.Reads lines) :
    (g.reports lines).map (·.2) = g.recordsOf lines ∧
    g.reports lines = g.dues lines ∧
    ((g.reports lines).filter (·.1 = .finding)).map (·.2) = g.findings lines ∧
    ∀ line ∈ lines, ∀ d, locationOf? line = some d ↔ d.Written ∧
      ∃ rest, Text.strip line = d.text ++ rest ∧ ∀ c ∈ rest.head?, Text.isBlank c = true := by
  have haccount : g.reports lines = g.dues lines := by
    rw [reports_eq hreads, hidle]
    rfl
  refine ⟨map_reports g lines, haccount, ?_, fun line _ d => locationOf?_eq_some_iff⟩
  rw [haccount]
  exact filter_dues g lines

/-- Findings whose texts end in each way, and one without a text; a parse error between
them, and lines of other kinds within a text. -/
def medley : List Text :=
  ["*** Warnings: 1".toList, "line 3, col 5 to line 3, col 6 of module Spec".toList, [],
    "  first  ".toList, "Parsing file /b/Other.tla".toList, " \t".toList,
    "Parsing file /a/Spec.tla (jar)".toList, "***Parse Error***".toList,
    "Encountered \"x\" at line 7, column 1".toList, "*** Errors: 2".toList,
    "line 4, col 1 to line 4, col 2 of module Other".toList, [],
    "line 0, col 0 to line 0, col 0 of module Spec,".toList,
    " line 9, col 8 to line 9, col 9 of module Spec and more".toList, "last".toList]

/-- A location without a text, one whose module has a comma behind its name, and one that
the output ends behind. -/
theorem findings_of_locations_medley :
    ((Grammar.start.reports medley).filter (·.1 = .finding)).map (·.2) =
      [⟨"Spec.tla".toList, ⟨⟨2, 4⟩, ⟨2, 6⟩⟩, .warning,
          "first\nParsing file /b/Other.tla".toList⟩,
        ⟨"Other.tla".toList, ⟨⟨3, 0⟩, ⟨3, 2⟩⟩, .error, "Unknown error".toList⟩,
        ⟨"Spec,.tla".toList, ⟨⟨0, 0⟩, ⟨0, 0⟩⟩, .error, "Unknown error".toList⟩,
        ⟨"/a/Spec.tla".toList, ⟨⟨8, 7⟩, ⟨8, 9⟩⟩, .error, "last".toList⟩] ∧
      (Grammar.start.reports medley).length = 5 := by
  have hreads : Grammar.start.Reads medley := Grammar.start.reads_of_short (by decide +kernel)
  obtain ⟨-, haccount, hfindings, -⟩ := findings_of_locations (g := .start) rfl hreads
  rw [hfindings, haccount]
  decide +kernel

end Grammar

end TlaRunner.Analyzer
