import TlaRunner.Proofs.Transpiler.Line

/-!
# Warnings of the transpiler

A warning is a line that stands for itself.  It is read as one unless the text of an error
waits for its place, which the lines before tell: the text was announced and names no
place, and only blank lines stand behind it (`Waits`).  Then the line is asked for the place
of the error, and its own finding is lost (`report_of_warning`, `warning_lost`).
-/

namespace TlaRunner.Transpiler

open Text (Scan)
open Diagnostic (Record firsts)
open Protocol (Marker)

/-! ## What waits behind lines -/

/-- Whether the text of an error is awaited behind lines: one was announced, and none of the
lines since then starts as a text does. -/
def Announced (before : List Text) : Prop :=
  ∃ front header between, before = front ++ header :: between ∧ errorHeader <+: header ∧
    ∀ line ∈ between, ¬errorLead <+: line

/-- Whether a line gives the text of an error whose place is still to come. -/
structure Placeless (line text : Text) : Prop where
  /-- It starts as a text does. -/
  lead : errorLead <+: line
  /-- The text stands behind the dashes. -/
  reads : errorText line = text
  /-- There is something to translate. -/
  translated : saysNoAlgorithm text = false
  /-- The text names no place. -/
  place : ¬NamesPlace text

/-- Whether the text of an error waits for its place behind lines. -/
def Waits (before : List Text) (text : Text) : Prop :=
  ∃ front line gap, before = front ++ line :: gap ∧ Announced front ∧ Placeless line text ∧
    ∀ line ∈ gap, Text.strip line = []

variable {before : List Text} {line text : Text}

/-- The last element of a list is the one where it is split, or it comes later. -/
theorem append_singleton_eq_append_cons {α : Type} {before front rest : List α} {last x : α} :
    before ++ [last] = front ++ x :: rest ↔ (before = front ∧ last = x ∧ rest = []) ∨
      ∃ middle, rest = middle ++ [last] ∧ before = front ++ x :: middle := by
  constructor
  · intro heq
    rcases List.eq_nil_or_concat rest with rfl | ⟨middle, y, rfl⟩
    · obtain ⟨hbefore, hlast⟩ := List.append_inj' heq rfl
      exact Or.inl ⟨hbefore, List.singleton_inj.mp hlast, rfl⟩
    · rw [List.concat_eq_append, ← List.cons_append, ← List.append_assoc] at heq
      obtain ⟨hbefore, hlast⟩ := List.append_inj' heq rfl
      exact Or.inr ⟨middle, by rw [List.concat_eq_append, List.singleton_inj.mp hlast], hbefore⟩
  · rintro (⟨rfl, rfl, rfl⟩ | ⟨middle, rfl, rfl⟩)
    · rfl
    · rw [List.append_assoc, List.cons_append]

theorem announced_append_singleton : Announced (before ++ [line]) ↔
    errorHeader <+: line ∨ (Announced before ∧ ¬errorLead <+: line) := by
  constructor
  · rintro ⟨front, header, between, heq, hheader, hbetween⟩
    rcases append_singleton_eq_append_cons.mp heq with ⟨-, rfl, -⟩ | ⟨middle, rfl, rfl⟩
    · exact Or.inl hheader
    · obtain ⟨hmiddle, hline⟩ := List.forall_mem_append.mp hbetween
      exact Or.inr ⟨⟨front, header, middle, rfl, hheader, hmiddle⟩,
        hline line (List.mem_singleton.mpr rfl)⟩
  · rintro (hheader | ⟨⟨front, header, between, rfl, hheader, hbetween⟩, hline⟩)
    · exact ⟨before, line, [], rfl, hheader, by simp⟩
    · exact ⟨front, header, between ++ [line], by rw [List.append_assoc, List.cons_append], hheader,
        List.forall_mem_append.mpr ⟨hbetween, List.forall_mem_singleton.mpr hline⟩⟩

theorem waits_append_singleton : Waits (before ++ [line]) text ↔
    (Announced before ∧ Placeless line text) ∨ (Waits before text ∧ Text.strip line = []) := by
  constructor
  · rintro ⟨front, lead, gap, heq, hannounced, hlead, hgap⟩
    rcases append_singleton_eq_append_cons.mp heq with ⟨rfl, rfl, -⟩ | ⟨middle, rfl, rfl⟩
    · exact Or.inl ⟨hannounced, hlead⟩
    · obtain ⟨hmiddle, hline⟩ := List.forall_mem_append.mp hgap
      exact Or.inr ⟨⟨front, lead, middle, rfl, hannounced, hlead, hmiddle⟩,
        hline line (List.mem_singleton.mpr rfl)⟩
  · rintro (⟨hannounced, hlead⟩ | ⟨⟨front, lead, gap, rfl, hannounced, hlead, hgap⟩, hline⟩)
    · exact ⟨before, line, [], rfl, hannounced, hlead, by simp⟩
    · exact ⟨front, lead, gap ++ [line], by rw [List.append_assoc, List.cons_append], hannounced,
        hlead, List.forall_mem_append.mpr ⟨hgap, List.forall_mem_singleton.mpr hline⟩⟩

/-! ## The state behind lines -/

/-- A line with something on it that is no blank is not empty. -/
theorem strip_ne_nil_of_prefix {part : Text} (h : part <+: line)
    (hpart : part.all Text.isBlank = false) : Text.strip line ≠ [] := by
  intro hnil
  have hstart := Text.startsWith_of_blank (Text.isBlank_of_strip_eq_nil hnil) hpart
  rw [Text.startsWith, List.isPrefixOf_iff_prefix.mpr h] at hstart
  cases hstart

/-- What is known of the state behind lines. -/
structure Tracks (s : State) (before : List Text) : Prop where
  /-- A text is awaited if one was announced. -/
  awaiting : s.awaitingText = true ↔ Announced before
  /-- A text is pending if it waits for its place. -/
  pending : ∀ text, s.pending = some text ↔ Waits before text
  /-- None is pending while one is awaited. -/
  apart : s.awaitingText = true → s.pending = none

theorem tracks_start (file : Text) : Tracks ⟨file, false, none⟩ [] := by
  refine ⟨⟨fun h => (by cases h), ?_⟩, fun text => ⟨fun h => (by cases h), ?_⟩,
    fun h => by cases h⟩
  · rintro ⟨front, header, between, heq, -⟩
    simp at heq
  · rintro ⟨front, line, gap, heq, -⟩
    simp at heq

section

variable {s : State}

theorem not_lead_of_header (h : errorHeader <+: line) : ¬errorLead <+: line := by
  intro hlead
  obtain ⟨rest, rfl⟩ := h
  obtain ⟨other, hother⟩ := hlead
  cases hother

/-- A line with no announcement and no text that is awaited leaves the text that waits, if
the line is blank, and else none. -/
theorem Tracks.leave (h : Tracks s before) (hheader : ¬errorHeader <+: line)
    (hlead : ¬(s.awaitingText = true ∧ errorLead <+: line)) {after : State}
    (hawaiting : after.awaitingText = s.awaitingText)
    (hpending : after.pending = if Text.strip line = [] then s.pending else none) :
    Tracks after (before ++ [line]) := by
  refine ⟨?_, fun text => ?_, fun hafter => ?_⟩
  · rw [hawaiting, h.awaiting, announced_append_singleton, or_iff_right hheader,
      and_iff_left_of_imp]
    exact fun hannounced hline => hlead ⟨h.awaiting.mpr hannounced, hline⟩
  · have hnone : ¬(Announced before ∧ Placeless line text) := fun hboth =>
      hlead ⟨h.awaiting.mpr hboth.1, hboth.2.lead⟩
    rw [waits_append_singleton, or_iff_right hnone, ← h.pending, hpending]
    split
    next hblank => exact (and_iff_left hblank).symm
    next hfilled => exact ⟨fun hsome => (by cases hsome), fun hboth => absurd hboth.2 hfilled⟩
  · rw [hpending, h.apart (hawaiting ▸ hafter), ite_self]

/-- The text that is awaited is taken up by its line. -/
theorem Tracks.takeUp (h : Tracks s before) (hawaiting : s.awaitingText = true)
    (hlead : errorLead <+: line) {after : State} (hdone : after.awaitingText = false)
    (hpending : ∀ text, after.pending = some text ↔ Placeless line text) :
    Tracks after (before ++ [line]) := by
  have hheader : ¬errorHeader <+: line := fun hheader => not_lead_of_header hheader hlead
  refine ⟨?_, fun text => ?_, fun hafter => ?_⟩
  · rw [announced_append_singleton, hdone]
    simp [hheader, hlead]
  · have hblank : Text.strip line ≠ [] := strip_ne_nil_of_prefix hlead (by decide)
    rw [waits_append_singleton, or_iff_left fun hboth => hblank hboth.2,
      and_iff_right (h.awaiting.mp hawaiting), hpending]
  · rw [hdone] at hafter
    cases hafter

theorem Tracks.announce (h : errorHeader <+: line) {after : State}
    (hawaiting : after.awaitingText = true) (hpending : after.pending = none) :
    Tracks after (before ++ [line]) := by
  refine ⟨?_, fun text => ?_, fun _ => hpending⟩
  · rw [announced_append_singleton, hawaiting]
    simp [h]
  · have hblank : Text.strip line ≠ [] := strip_ne_nil_of_prefix h (by decide)
    rw [waits_append_singleton, hpending]
    refine ⟨fun hsome => (by cases hsome), ?_⟩
    rintro (⟨-, hlead⟩ | ⟨-, hnil⟩)
    · exact absurd hlead.lead (not_lead_of_header h)
    · exact absurd hnil hblank

theorem pending_readErrorText (hpending : s.pending = none) (hlead : errorLead <+: line) :
    (s.readErrorText (errorText line)).1.awaitingText = s.awaitingText ∧
      ∀ text, (s.readErrorText (errorText line)).1.pending = some text ↔ Placeless line text := by
  rw [State.readErrorText]
  split
  next hnone =>
    refine ⟨rfl, fun text => ⟨fun hsome => ?_, fun hline => ?_⟩⟩
    · rw [hpending] at hsome
      cases hsome
    · have htranslated := hline.translated
      rw [← hline.reads, hnone] at htranslated
      cases htranslated
  next hsome =>
    split
    next row column hplace =>
      refine ⟨rfl, fun text => ⟨fun hsome => ?_, fun hline => ?_⟩⟩
      · rw [hpending] at hsome
        cases hsome
      · rw [hline.reads, search_place_eq_none_iff.mpr hline.place] at hplace
        cases hplace
    next hplace =>
      refine ⟨rfl, fun text => ⟨fun heq => ?_, fun hline => congrArg some hline.reads⟩⟩
      cases heq
      exact ⟨hlead, rfl, Bool.eq_false_iff.mpr hsome, search_place_eq_none_iff.mp hplace⟩

theorem pending_readPending (s : State) (text line : Text) :
    (s.readPending text line).1.awaitingText = s.awaitingText ∧
      (s.readPending text line).1.pending = if Text.strip line = [] then s.pending else none := by
  rw [State.readPending]
  split
  next row column hplace =>
    have hfilled : Text.strip line ≠ [] := fun hnil => by
      have hblank := not_namesPlace_of_blank (Text.isBlank_of_strip_eq_nil hnil)
      rw [search_place_eq_none_iff.mpr hblank] at hplace
      cases hplace
    rw [if_neg hfilled]
    exact ⟨rfl, rfl⟩
  next =>
    simp only [List.isEmpty_iff]
    split
    next => exact ⟨rfl, rfl⟩
    next => exact ⟨rfl, rfl⟩

theorem Tracks.read (h : Tracks s before) (line : Text) :
    Tracks (s.read line).1 (before ++ [line]) := by
  rw [State.read, Text.startsWith, Text.startsWith, Text.startsWith]
  simp only [Bool.and_eq_true, List.isPrefixOf_iff_prefix]
  split
  next hheader => exact Tracks.announce hheader rfl rfl
  next hheader =>
    split
    next hlead =>
      obtain ⟨hdone, hpending⟩ := pending_readErrorText (s := { s with awaitingText := false })
        (h.apart hlead.1) hlead.2
      exact h.takeUp hlead.1 hlead.2 hdone hpending
    next hlead =>
      split
      next text _ =>
        obtain ⟨hkept, hleft⟩ := pending_readPending s text line
        exact h.leave hheader hlead hkept hleft
      next hpending =>
        refine h.leave hheader hlead rfl ?_
        rw [hpending, ite_self]

/-- The state behind lines is told by the lines. -/
theorem tracks_behind (file : Text) (before : List Text) :
    Tracks (State.behind ⟨file, false, none⟩ before) before := by
  induction before using List.reverseRecOn with
  | nil => exact tracks_start file
  | append_singleton before line ih =>
      rw [State.behind_append]
      exact ih.read line

/-! ## What a warning gives -/

/-- What a line with a warning gives behind other lines. -/
inductive Gives (file : Text) (before : List Text) (line : Text) : Record → Prop
  /-- Its warning, if no text waits. -/
  | warning (free : ∀ text, ¬Waits before text) :
      Gives file before line (warningAtStart file (warningText line))
  /-- The error whose text waits, at the place that the line names. -/
  | located {text row column : Text} (waits : Waits before text) (place : FirstPlace line row column) :
      Gives file before line (errorAt file text row column)
  /-- The error whose text waits, at the front of the file if the line names no place. -/
  | unlocated {text : Text} (waits : Waits before text) (place : ¬NamesPlace line) :
      Gives file before line (errorAtStart file text)

theorem read_warning (s : State) (h : warningLead <+: line) :
    s.read line =
      match s.pending with
      | some text => s.readPending text line
      | none => (s, some (warningAtStart s.file (warningText line))) := by
  obtain ⟨rest, rfl⟩ := h
  have hheader : Text.startsWith errorHeader (warningLead ++ rest) = false := rfl
  have hlead : Text.startsWith errorLead (warningLead ++ rest) = false := rfl
  have hwarning : Text.startsWith warningLead (warningLead ++ rest) = true := rfl
  rw [State.read, hheader, hlead, hwarning, Bool.and_false]
  rfl

/-- A line with a warning gives one finding, whatever lines come before it. -/
theorem gives_read (file : Text) (before : List Text) (h : warningLead <+: line) :
    ∃ r, Gives file before line r ∧
      ((State.behind ⟨file, false, none⟩ before).read line).2 = some r := by
  have htracks := tracks_behind file before
  have hfile := State.file_behind ⟨file, false, none⟩ before
  rw [read_warning _ h]
  cases hpending : (State.behind ⟨file, false, none⟩ before).pending with
  | none =>
      have hfree : ∀ text, ¬Waits before text := fun text hwaits => by
        rw [← htracks.pending, hpending] at hwaits
        cases hwaits
      exact ⟨_, .warning hfree, by rw [hfile]⟩
  | some text =>
      have hwaits : Waits before text := (htracks.pending text).mp hpending
      have hline : Text.strip line ≠ [] := strip_ne_nil_of_prefix h (by decide)
      simp only [State.readPending, List.isEmpty_iff, if_neg hline, hfile]
      cases hplace : Scan.search place line with
      | none => exact ⟨_, .unlocated hwaits (search_place_eq_none_iff.mp hplace), rfl⟩
      | some digits => exact ⟨_, .located hwaits (search_place_eq_some_iff.mp hplace), rfl⟩

end

/-- Where lines outside messages can be read, each line with a warning gives one finding of the
module's file.  It is the warning exactly if no text of an error waits for its place there;
else it is the error of the text that waits, and the line is asked for its place.  The
finding is in the report unless a line before it gave one with the same text and range, which
is then there. -/
theorem report_of_warning {file line : Text} {before after : List Text} {stopped : Bool}
    (hunmarked : ∀ other ∈ before ++ line :: after, Marker.ofLine? other = none)
    (hwarning : warningLead <+: line)
    (hrun : (Protocol.Reading.readLines decoder (session file) (before ++ line :: after)
      stopped).2.fault = none) :
    let run := Protocol.Reading.readLines decoder (session file) (before ++ line :: after) stopped
    let start : State := ⟨file, false, none⟩
    ∃ report records r, run.1.result = some report ∧ report.diagnostics = [(file, records)] ∧
      records = firsts (start.findings before ++
        r :: (start.behind (before ++ [line])).told after) ∧
      Gives file before line r ∧
      ∃ x ∈ records, x.identity = r.identity ∧ (x = r ∨ x ∈ start.findings before) := by
  obtain ⟨report, hresult, hdiagnostics⟩ := report_of_lines hunmarked hrun
  obtain ⟨r, hgives, hread⟩ := gives_read file before hwarning
  rw [State.told_append, State.told_cons, hread, Option.toList_some, List.singleton_append]
    at hdiagnostics
  refine ⟨report, _, r, hresult, hdiagnostics, ?_, hgives, Diagnostic.exists_mem_firsts _ _ r⟩
  rw [State.behind_append]
  rfl

/-- An error whose place a warning names. -/
def misplaced : List Text :=
  [errorHeader, " -- Process proc redefined".toList,
    "Warning: pc is unused at line 3, column 9".toList]

theorem report_of_warning_second :
    let run := Protocol.Reading.readLines decoder (session "/a/Spec.tla".toList)
      (misplaced ++ "Warning: old".toList :: []) false
    ∃ report, run.1.result = some report ∧ report.diagnostics = [("/a/Spec.tla".toList,
      [⟨"/a/Spec.tla".toList, ⟨⟨2, 8⟩, ⟨2, 8⟩⟩, .error, "Process proc redefined".toList⟩,
        ⟨"/a/Spec.tla".toList, .fileStart, .warning, "old".toList⟩])] := by
  have hrun : (Protocol.Reading.readLines decoder (session "/a/Spec.tla".toList)
      (misplaced ++ "Warning: old".toList :: []) false).2.fault = none := by decide +kernel
  have hnone : (State.behind ⟨"/a/Spec.tla".toList, false, none⟩ misplaced).pending = none := by
    decide
  have hfree : ∀ text, ¬Waits misplaced text := fun text hwaits => by
    rw [← (tracks_behind "/a/Spec.tla".toList misplaced).pending, hnone] at hwaits
    cases hwaits
  obtain ⟨report, records, r, hresult, hdiagnostics, rfl, hgives, -⟩ :=
    report_of_warning (by decide) (by decide) hrun
  refine ⟨report, hresult, hdiagnostics.trans ?_⟩
  cases hgives with
  | warning => decide
  | located hwaits => exact absurd hwaits (hfree _)
  | unlocated hwaits => exact absurd hwaits (hfree _)

/-- A warning is lost if a text waits. -/
theorem warning_lost :
    ¬∀ (file line : Text) (lines : List Text) (report : ParseReport),
      (∀ other ∈ lines, Marker.ofLine? other = none) →
      (Protocol.Reading.readLines decoder (session file) lines false).2.fault = none →
      (Protocol.Reading.readLines decoder (session file) lines false).1.result = some report →
      line ∈ lines → warningLead <+: line →
        ∃ r ∈ report.diagnostics.recordsOf file, r.range = .fileStart ∧
          r.text = warningText line := by
  intro hkept
  have hrun : (Protocol.Reading.readLines decoder (session "/a/Spec.tla".toList) misplaced
      false).2.fault = none := by decide +kernel
  obtain ⟨report, hresult, hdiagnostics⟩ := report_of_lines (by decide) hrun
  obtain ⟨r, hr, hrange, -⟩ := hkept _ _ _ report (by decide) hrun hresult
    (List.mem_of_getLast? (a := "Warning: pc is unused at line 3, column 9".toList) rfl) (by decide)
  have htold : firsts (State.told ⟨"/a/Spec.tla".toList, false, none⟩ misplaced) =
      [errorAt "/a/Spec.tla".toList "Process proc redefined".toList ['3'] ['9']] := by decide
  rw [hdiagnostics, htold] at hr
  have hlast := List.mem_singleton.mp hr
  rw [hlast] at hrange
  revert hrange
  decide

end TlaRunner.Transpiler
