import TlaRunner.Proofs.Diagnostic.Repetition
import TlaRunner.Proofs.Protocol.Transcript
import TlaRunner.Proofs.Transpiler.Decoder
import TlaRunner.Proofs.Transpiler.Place

/-!
# What lines are to the transpiler's decoder

A line that is read leads to another state of the grammar, and it may complete one finding
(`State.read`).  An error whose place did not come is completed by a later line, or it is
overdue at the end.  The decoder does this and no more with each line that it can read
(`onLine_eq_ok`), so the report has the findings that the lines tell, each once
(`report_of_lines`).
-/

namespace TlaRunner.Transpiler

open Text (Scan)
open Diagnostic (Record Collection firsts)
open Protocol (Gathered Event Delivery Marker deliver)

/-! ## Lines and findings -/

/-- An error at a place. -/
def errorAt (file text line column : Text) : Record :=
  ⟨file, .ofToolPoint (Text.digitsValue line) (Text.digitsValue column), .error, text⟩

/-- An error without a place. -/
def errorAtStart (file text : Text) : Record :=
  ⟨file, .fileStart, .error, text⟩

/-- A warning. -/
def warningAtStart (file text : Text) : Record :=
  ⟨file, .fileStart, .warning, text⟩

/-- The text of an error on its line. -/
def errorText (line : Text) : Text :=
  Text.strip (line.drop errorLead.length)

/-- The text of a warning on its line. -/
def warningText (line : Text) : Text :=
  Text.strip (line.drop warningLead.length)

/-- Whether a text says that there is nothing to translate. -/
def saysNoAlgorithm (text : Text) : Bool :=
  noAlgorithm.any (Text.occursIn · text)

namespace State

/-- The error whose place did not come. -/
def overdue (s : State) : Option Record :=
  s.pending.map (errorAtStart s.file)

/-- What the text of an error leads to. -/
def readErrorText (s : State) (text : Text) : State × Option Record :=
  if saysNoAlgorithm text then (s, none)
  else
    match Scan.search place text with
    | some (line, column) => (s, some (errorAt s.file text line column))
    | none => ({ s with pending := some text }, none)

/-- What a line leads to while the place of an error is awaited. -/
def readPending (s : State) (text line : Text) : State × Option Record :=
  match Scan.search place line with
  | some (row, column) => ({ s with pending := none }, some (errorAt s.file text row column))
  | none =>
    if (Text.strip line).isEmpty then (s, none)
    else ({ s with pending := none }, some (errorAtStart s.file text))

/-- What a line leads to: the state behind it, and the finding that it completes. -/
def read (s : State) (line : Text) : State × Option Record :=
  if Text.startsWith errorHeader line then (⟨s.file, true, none⟩, s.overdue)
  else if s.awaitingText && Text.startsWith errorLead line then
    { s with awaitingText := false }.readErrorText (errorText line)
  else
    match s.pending with
    | some text => s.readPending text line
    | none =>
      (s, if Text.startsWith warningLead line then some (warningAtStart s.file (warningText line))
        else none)

/-- The state behind lines. -/
def behind (s : State) (lines : List Text) : State :=
  lines.foldl (fun s line => (s.read line).1) s

/-- The findings that lines complete. -/
def findings (s : State) : List Text → List Record
  | [] => []
  | line :: rest => (s.read line).2.toList ++ findings (s.read line).1 rest

/-- The findings that lines tell if nothing comes behind them. -/
def told (s : State) (lines : List Text) : List Record :=
  s.findings lines ++ (s.behind lines).overdue.toList

variable {s : State}

theorem behind_append (s : State) (lines later : List Text) :
    s.behind (lines ++ later) = (s.behind lines).behind later :=
  List.foldl_append

theorem findings_append (s : State) (lines later : List Text) :
    s.findings (lines ++ later) = s.findings lines ++ (s.behind lines).findings later := by
  induction lines generalizing s with
  | nil => rfl
  | cons line rest ih =>
      rw [List.cons_append, findings, ih, findings, List.append_assoc]
      rfl

theorem told_append (s : State) (lines later : List Text) :
    s.told (lines ++ later) = s.findings lines ++ (s.behind lines).told later := by
  rw [told, findings_append, behind_append, List.append_assoc, told]

theorem told_cons (s : State) (line : Text) (rest : List Text) :
    s.told (line :: rest) = (s.read line).2.toList ++ (s.read line).1.told rest := by
  rw [told, findings, List.append_assoc]
  rfl

/-! ### The file -/

/-- The state behind a line is about the same file, and so is a finding. -/
structure KeepsFile (s : State) (result : State × Option Record) : Prop where
  /-- The state is about the file. -/
  state : result.1.file = s.file
  /-- So is the finding. -/
  finding : ∀ r ∈ result.2, r.file = s.file

theorem keepsFile_overdue (s after : State) (h : after.file = s.file) :
    s.KeepsFile (after, s.overdue) := by
  refine ⟨h, fun r hr => ?_⟩
  obtain ⟨text, -, rfl⟩ := Option.map_eq_some_iff.mp hr
  rfl

theorem keepsFile_readErrorText (s : State) (text : Text) :
    s.KeepsFile (s.readErrorText text) := by
  rw [readErrorText]
  split
  · exact ⟨rfl, by simp⟩
  · split
    · exact ⟨rfl, by simp [errorAt]⟩
    · exact ⟨rfl, by simp⟩

theorem keepsFile_readPending (s : State) (text line : Text) :
    s.KeepsFile (s.readPending text line) := by
  rw [readPending]
  split
  · exact ⟨rfl, by simp [errorAt]⟩
  · split
    · exact ⟨rfl, by simp⟩
    · exact ⟨rfl, by simp [errorAtStart]⟩

theorem keepsFile_read (s : State) (line : Text) : s.KeepsFile (s.read line) := by
  rw [read]
  split
  · exact keepsFile_overdue s _ rfl
  · split
    · obtain ⟨hstate, hfinding⟩ :=
        keepsFile_readErrorText { s with awaitingText := false } (errorText line)
      exact ⟨hstate, hfinding⟩
    · split
      · exact keepsFile_readPending s _ line
      · refine ⟨rfl, fun r hr => ?_⟩
        split at hr
        · cases hr
          rfl
        · cases hr

theorem file_behind (s : State) (lines : List Text) : (s.behind lines).file = s.file := by
  induction lines generalizing s with
  | nil => rfl
  | cons line rest ih => exact (ih (s.read line).1).trans (keepsFile_read s line).state

/-- All that lines tell is about the file. -/
theorem file_of_mem_told {lines : List Text} : ∀ r ∈ s.told lines, r.file = s.file := by
  induction lines generalizing s with
  | nil => exact fun r hr => (keepsFile_overdue s s rfl).finding r (Option.mem_toList.mp hr)
  | cons line rest ih =>
      rw [told_cons]
      have hline := keepsFile_read s line
      refine List.forall_mem_append.mpr ⟨fun r hr => hline.finding r (Option.mem_toList.mp hr), ?_⟩
      rw [← hline.state]
      exact ih

end State

/-! ## What the decoder does -/

/-- What is gathered where a line has led to a state and a finding. -/
def enter (g : Gathered State) (result : State × Option Record) : Gathered State :=
  ⟨result.1, g.diagnostics.learn result.2.toList, g.conditions⟩

section

variable {g after : Gathered State} {events : List Event} {text line : Text}

theorem report_eq_ok {range : Range} {severity : Severity}
    (h : report g text range severity = ⟨after, .ok events⟩) :
    after = enter g (g.grammar, some ⟨g.grammar.file, range, severity, text⟩) := by
  cases h
  rfl

theorem reportAt_eq_ok {digits : Text × Text} {s : Text} (hs : Scan.search place s = some digits)
    (h : reportAt g text digits = ⟨after, .ok events⟩) :
    after = enter g (g.grammar, some (errorAt g.grammar.file text digits.1 digits.2)) := by
  obtain ⟨isLine, isColumn, -⟩ := search_place_eq_some_iff.mp hs
  rw [reportAt] at h
  split at h
  next row column hrow hcolumn =>
    rw [← Protocol.digitsValue_of_readNumber isLine hrow,
      ← Protocol.digitsValue_of_readNumber isColumn hcolumn] at h
    exact report_eq_ok h
  next => cases h
  next => cases h

theorem flush_eq_ok (h : flush g = ⟨after, .ok events⟩) :
    after = enter g ({ g.grammar with pending := none }, g.grammar.overdue) := by
  rw [flush] at h
  split at h
  next hpending =>
    have hsame : { g.grammar with pending := none } = g.grammar := by rw [← hpending]
    cases h
    rw [hsame, State.overdue, hpending]
    rfl
  next text hpending =>
    rw [report_eq_ok h, State.overdue, hpending]
    rfl

theorem onErrorText_eq_ok (h : onErrorText g text = ⟨after, .ok events⟩) :
    after = enter g (g.grammar.readErrorText text) := by
  rw [onErrorText] at h
  rw [State.readErrorText, saysNoAlgorithm]
  split at h
  next hnone =>
    cases h
    rw [if_pos hnone]
    rfl
  next hsome =>
    rw [if_neg hsome]
    split at h
    next digits hplace =>
      rw [hplace]
      exact reportAt_eq_ok hplace h
    next hplace =>
      cases h
      rw [hplace]
      rfl

theorem onPending_eq_ok (hpending : g.grammar.pending = some text)
    (h : onPending g text line = ⟨after, .ok events⟩) :
    after = enter g (g.grammar.readPending text line) := by
  rw [onPending] at h
  rw [State.readPending]
  split at h
  next digits hplace =>
    rw [hplace]
    exact reportAt_eq_ok hplace h
  next hplace =>
    rw [hplace]
    simp only
    split at h
    next hempty =>
      cases h
      rw [if_pos hempty]
      rfl
    next hfilled =>
      rw [if_neg hfilled, flush_eq_ok h, State.overdue, hpending]
      rfl

theorem onOther_eq_ok (h : onOther g line = ⟨after, .ok events⟩) :
    after = enter g (g.grammar,
      if Text.startsWith warningLead line then
        some (warningAtStart g.grammar.file (warningText line))
      else none) := by
  rw [onOther] at h
  split at h
  next hwarning =>
    rw [if_pos hwarning]
    exact report_eq_ok h
  next hother =>
    rw [if_neg hother]
    simp only at h
    split at h
    · cases h
      rfl
    · cases h
      rfl

/-- A line that was read has led to its state, and its finding is entered. -/
theorem onLine_eq_ok (h : onLine g line = ⟨after, .ok events⟩) :
    after = enter g (g.grammar.read line) := by
  rw [onLine] at h
  rw [State.read]
  split at h
  next hheader =>
    rw [if_pos hheader]
    rcases hflush : flush g with ⟨middle, result⟩
    rw [hflush] at h
    cases h
    rw [flush_eq_ok hflush]
    rfl
  next hheader =>
    rw [if_neg hheader]
    split at h
    next hlead =>
      rw [if_pos hlead]
      exact onErrorText_eq_ok h
    next hlead =>
      rw [if_neg hlead]
      cases hpending : g.grammar.pending with
      | some text =>
          simp only [hpending] at h ⊢
          exact onPending_eq_ok hpending h
      | none =>
          simp only [hpending] at h ⊢
          exact onOther_eq_ok h

end

/-- Lines that were read have led to their state, and their findings are entered. -/
theorem deliver_lines {g after : Gathered State} {lines : List Text} {events : List Event}
    (h : deliver decoder g (lines.map fun line => .item (.line line)) = ⟨after, .ok events⟩) :
    after = ⟨g.grammar.behind lines, g.diagnostics.learn (g.grammar.findings lines),
      g.conditions⟩ := by
  induction lines generalizing g events with
  | nil =>
      cases h
      rfl
  | cons line rest ih =>
      obtain ⟨middle, first, last, hline, hrest, -⟩ := Protocol.deliver_cons_eq_ok.mp h
      rw [ih hrest, onLine_eq_ok hline, State.findings, Collection.learn_append]
      rfl

/-- What is overdue is entered at the end. -/
theorem diagnostics_onEnd (g : Gathered State) :
    (onEnd g).1.diagnostics = g.diagnostics.learn g.grammar.overdue.toList := by
  rw [onEnd]
  split
  next hpending =>
    rw [State.overdue, hpending]
    rfl
  next text hpending =>
    rw [State.overdue, hpending]
    rfl

/-- Where lines outside messages can be read, the report has one entry, of the file, with
the findings that the lines tell, each where it is told first. -/
theorem report_of_lines {file : Text} {lines : List Text} {stopped : Bool}
    (hunmarked : ∀ line ∈ lines, Marker.ofLine? line = none)
    (hrun : (Protocol.Reading.readLines decoder (session file) lines stopped).2.fault = none) :
    ∃ report, (Protocol.Reading.readLines decoder (session file) lines stopped).1.result =
      some report ∧ report.diagnostics = [(file, firsts (State.told ⟨file, false, none⟩ lines))] := by
  obtain ⟨hshort, after, events, hread⟩ := Protocol.Reading.ok_of_readLines hrun
  obtain ⟨hsession, -⟩ := Protocol.Reading.readLines_of_ok hshort hread stopped
  rw [Protocol.driveAll_unmarked hunmarked] at hread
  refine ⟨_, congrArg (·.result) hsession, ?_⟩
  change (onEnd after).1.diagnostics.mapping = _
  rw [diagnostics_onEnd, deliver_lines hread, ← Collection.learn_append]
  exact Collection.mapping_learn fun r hr => State.file_of_mem_told r hr

end TlaRunner.Transpiler
