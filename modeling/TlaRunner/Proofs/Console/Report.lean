import Mathlib.Data.List.Forall2
import TlaRunner.Console.Findings
import TlaRunner.Console.Summary
import TlaRunner.Proofs.Console.Markup
import TlaRunner.Proofs.Console.Table
import TlaRunner.Proofs.Text.Count

/-!
# Which reports show what they are about

Findings and summaries are shown in tables, and most cells of these are given as styled text.  So
they show what they are given as it is, and are never refused, if and only if nothing in it is read
as a style, a picture or an escape (`rendered_verbatim_iff`).  The names of severities and phases,
the labels and the counters are such texts; whatever comes from a tool or a file need not be.

A value of a variable is often none: a record `[a |-> 1]` starts a tag, and is not shown.  A closing
tag in a message is refused with the whole table (`rendered_not_verbatim`).
-/

namespace TlaRunner.Console

open Diagnostic (Mapping Record)

/-- Whether a cell shows a text as it is. -/
def Cell.Shows (cell : Cell) (s : Text) : Prop :=
  ∃ m, cell = .ok m ∧ m.text = s

/-- Whether the cells of a table show texts as they are, row by row. -/
def Table.Shows (t : Table) (rows : List (List Text)) : Prop :=
  List.Forall₂ (List.Forall₂ Cell.Shows) t.rows rows

theorem Cell.ofMarkup_shows_iff {s : Text} : (Cell.ofMarkup s).Shows s ↔ Unstyled s :=
  Console.ofMarkup_shows_iff

theorem Cell.plain_shows {s : Text} (h : ∀ c ∈ s, isTame c = true) : (Cell.plain s).Shows s := by
  have hsanitize : sanitize s = s := by
    refine List.filter_eq_self.mpr fun c hc => ?_
    have htame := h c hc
    rw [isTame, Bool.and_eq_true] at htame
    exact htame.2
  exact ⟨.plain (sanitize s), rfl, hsanitize⟩

/-- Tables whose rows are made one by one show texts that are, too. -/
theorem shows_map_iff {α : Type} {l : List α} {cells : α → List Cell} {texts : α → List Text} :
    List.Forall₂ (List.Forall₂ Cell.Shows) (l.map cells) (l.map texts) ↔
      ∀ a ∈ l, List.Forall₂ Cell.Shows (cells a) (texts a) := by
  rw [List.forall₂_map_left_iff, List.forall₂_map_right_iff, List.forall₂_same]

theorem isBare_of_unstyled {s : Text} (h : Unstyled s) : Cell.IsBare (Cell.ofMarkup s) :=
  ⟨.plain s, ofMarkup_of_unstyled h, Marked.plain_isBare s⟩

/-! ## Numbers -/

/-- No decimal digit is read as anything else. -/
theorem isTame_of_isDigit {c : Char} (h : Text.isDigit c = true) : isTame c = true := by
  have hne (d : Char) (hd : Text.isDigit d = false) : c ≠ d := by
    rintro rfl
    rw [h] at hd
    cases hd
  have hcode (d : Char) (hd : Text.isDigit d = false) : c.toNat ≠ d.toNat := fun heq =>
    hne d hd (Char.toNat_inj.mp heq)
  have hsign : isSign c = false := by
    simp [isSign, hne ':' (by decide), hne '[' (by decide), hne '\\' (by decide)]
  have hdropped : isDropped c = false := by
    have h7 : c.toNat ≠ 7 := hcode '\x07' (by decide)
    have h8 : c.toNat ≠ 8 := hcode '\x08' (by decide)
    have h11 : c.toNat ≠ 11 := hcode '\x0B' (by decide)
    have h12 : c.toNat ≠ 12 := hcode '\x0C' (by decide)
    have h13 : c.toNat ≠ 13 := hcode '\x0D' (by decide)
    simp [isDropped, h7, h8, h11, h12, h13]
  rw [isTame, hsign, hdropped]
  rfl

theorem isTame_of_mem_ofNat {n : Nat} : ∀ c ∈ Text.ofNat n, isTame c = true :=
  fun c hc => isTame_of_isDigit ((Text.isNumeral_ofNat n).2 c hc)

theorem isTame_of_mem_ofInt {n : Int} : ∀ c ∈ Text.ofInt n, isTame c = true := by
  cases n with
  | ofNat n => exact isTame_of_mem_ofNat
  | negSucc n => exact List.forall_mem_cons.mpr ⟨by decide, isTame_of_mem_ofNat⟩

theorem isTame_of_mem_counterText {n : Int} : ∀ c ∈ counterText n, isTame c = true := by
  intro c hc
  rcases List.mem_append.mp hc with hminus | hcount
  · split at hminus
    next =>
      rw [List.mem_singleton.mp hminus]
      decide
    next => cases hminus
  · rcases (Text.spells_ofCount n.natAbs).isDigit_or_comma hcount with hdigit | rfl
    · exact isTame_of_isDigit hdigit
    · decide

/-! ## Findings -/

/-- What the table of findings is about. -/
def findingTexts (records : List Record) : List (List Text) :=
  records.map fun r => [locationText r, r.severity.name, r.text]

theorem findingTable_shows_iff {records : List Record} :
    (findingTable records).Shows (findingTexts records) ↔
      ∀ r ∈ records, Unstyled (locationText r) ∧ Unstyled r.text := by
  refine shows_map_iff.trans (forall₂_congr fun r _ => ?_)
  have hseverity : (Cell.plain r.severity.name).Shows r.severity.name :=
    Cell.plain_shows (List.all_eq_true.mp (by cases r.severity <;> rfl))
  simp only [List.forall₂_cons, List.Forall₂.nil, Cell.ofMarkup_shows_iff, hseverity, true_and,
    and_true]

/-- The last column has the messages. -/
theorem message_mem_cells {records : List Record} {r : Record} (h : r ∈ records) :
    Cell.ofMarkup r.text ∈ (findingTable records).cells 2 :=
  List.mem_map.mpr ⟨_, List.mem_append_right _ (List.mem_map_of_mem h), rfl⟩

theorem findingLines_succeeds (screen : Screen) {m : Mapping}
    (h : ∀ r ∈ m.records, Unstyled (locationText r) ∧ Unstyled r.text) :
    Succeeds (findingLines screen m) := by
  rw [findingLines]
  split
  next => exact succeeds_ok []
  next =>
    refine screen.table_succeeds fun row hrow => ?_
    obtain ⟨r, hr, rfl⟩ := List.mem_map.mp hrow
    obtain ⟨hlocation, htext⟩ := h r (List.mem_mergeSort.mp hr)
    exact List.forall_mem_cons.mpr ⟨isBare_of_unstyled hlocation, List.forall_mem_cons.mpr
      ⟨Cell.plain_isBare _, List.forall_mem_singleton.mpr (isBare_of_unstyled htext)⟩⟩

/-! ## Summaries -/

/-- What the panel is about. -/
def summaryTexts (r : CheckReport) : List (List Text) :=
  (summaryRows r).map fun row => [row.1, row.2]

/-- What the table of an error trace is about. -/
def traceTexts (trace : List TraceState) : List (List Text) :=
  trace.map fun state =>
    [Text.ofInt state.number, state.title, Text.join ['\n'] state.assignments]

/-- The values of a report that its panel shows and that are no labels, names or counters. -/
def reportedValues (r : CheckReport) : List Text :=
  r.mode.toList ++ r.startTime.toList ++ r.duration.toList ++ r.collisionProbability.toList
    ++ r.conditions.map (·.detail)

theorem valueRow_label {label : String} {value : Option Text} {row : Text × Text}
    (h : row ∈ valueRow label value) : row.1 = label.toList := by
  unfold valueRow at h
  split at h
  next => rw [List.mem_singleton.mp h]
  next => cases h

/-- An empty value has no row, and is shown as it is anywhere. -/
theorem unstyled_valueRow_iff {label : String} {value : Option Text} :
    (∀ row ∈ valueRow label value, Unstyled row.2) ↔ ∀ s ∈ value.toList, Unstyled s := by
  cases value with
  | none => exact iff_of_true (fun _ h => by cases h) fun _ h => by cases h
  | some s =>
      rw [Option.toList_some, List.forall_mem_singleton]
      cases s with
      | nil => exact iff_of_true (fun _ h => by cases h) (unstyled_of_tame fun _ h => by cases h)
      | cons c s => exact List.forall_mem_singleton

theorem tame_statRows {stat : Stat} :
    ∀ row ∈ statRows stat, ∀ c ∈ row.1 ++ row.2, isTame c = true := by
  have hrow (label : Text) (value : Text) (hlabel : ∀ c ∈ label, isTame c = true)
      (hvalue : ∀ c ∈ value, isTame c = true) : ∀ c ∈ label ++ value, isTame c = true :=
    List.forall_mem_append.mpr ⟨hlabel, hvalue⟩
  rw [statRows]
  simp only [List.forall_mem_cons]
  exact ⟨hrow _ _ (List.all_eq_true.mp rfl) isTame_of_mem_ofInt,
    hrow _ _ (List.all_eq_true.mp rfl) isTame_of_mem_counterText,
    hrow _ _ (List.all_eq_true.mp rfl) isTame_of_mem_counterText,
    hrow _ _ (List.all_eq_true.mp rfl) isTame_of_mem_counterText, fun _ h => by cases h⟩

/-- Of the counters, too, every row is shown as it is. -/
theorem tame_shownRows {r : CheckReport} :
    ∀ row ∈ ((shownStat r).map statRows).getD [], ∀ c ∈ row.1 ++ row.2, isTame c = true := by
  cases shownStat r with
  | none => exact fun _ h => by cases h
  | some stat => exact tame_statRows

theorem tame_phaseLabel (phase : Phase) : ∀ c ∈ phaseLabel phase, isTame c = true := by
  refine List.all_eq_true.mp ?_
  cases phase <;> rfl

theorem tame_summaryLabels {r : CheckReport} :
    ∀ row ∈ summaryRows r, ∀ c ∈ row.1, isTame c = true := by
  have hvalue (label : String) (value : Option Text) (h : ∀ c ∈ label.toList, isTame c = true) :
      ∀ row ∈ valueRow label value, ∀ c ∈ row.1, isTame c = true := by
    intro row hrow
    rw [valueRow_label hrow]
    exact h
  simp only [summaryRows, List.forall_mem_append, List.forall_mem_cons, List.forall_mem_map,
    List.cons_append]
  refine ⟨List.all_eq_true.mp rfl, ⟨⟨⟨⟨hvalue _ _ (List.all_eq_true.mp rfl),
    hvalue _ _ (List.all_eq_true.mp rfl)⟩, hvalue _ _ (List.all_eq_true.mp rfl)⟩,
    fun row hrow => ?_⟩, hvalue _ _ (List.all_eq_true.mp rfl)⟩, fun c _ => List.all_eq_true.mp rfl⟩
  exact (List.forall_mem_append.mp (tame_shownRows row hrow)).1

/-- Of the values in the panel, only those that were reported need not be shown as they are. -/
theorem unstyled_summaryRows_iff {r : CheckReport} :
    (∀ row ∈ summaryRows r, Unstyled row.2) ↔ ∀ s ∈ reportedValues r, Unstyled s := by
  have hphase : Unstyled (phaseLabel r.phase) := unstyled_of_tame (tame_phaseLabel r.phase)
  have hstats : ∀ row ∈ ((shownStat r).map statRows).getD [], Unstyled row.2 := fun row hrow =>
    unstyled_of_tame (List.forall_mem_append.mp (tame_shownRows row hrow)).2
  simp only [summaryRows, reportedValues, List.forall_mem_append, List.forall_mem_cons,
    List.forall_mem_map, List.cons_append, unstyled_valueRow_iff]
  tauto

theorem summaryPanel_shows_iff {r : CheckReport} :
    (summaryPanel r).content.Shows (summaryTexts r) ↔ ∀ s ∈ reportedValues r, Unstyled s := by
  rw [← unstyled_summaryRows_iff]
  refine shows_map_iff.trans (forall₂_congr fun row hrow => ?_)
  have hlabel : (Cell.plain row.1).Shows row.1 := Cell.plain_shows (tame_summaryLabels row hrow)
  simp only [List.forall₂_cons, List.Forall₂.nil, Cell.ofMarkup_shows_iff, hlabel, true_and,
    and_true]

theorem traceTable_shows_iff {trace : List TraceState} :
    (traceTable trace).Shows (traceTexts trace) ↔
      ∀ state ∈ trace, Unstyled state.title ∧ Unstyled (Text.join ['\n'] state.assignments) := by
  refine shows_map_iff.trans (forall₂_congr fun state _ => ?_)
  have hnumber : (Cell.plain (Text.ofInt state.number)).Shows (Text.ofInt state.number) :=
    Cell.plain_shows isTame_of_mem_ofInt
  simp only [List.forall₂_cons, List.Forall₂.nil, Cell.ofMarkup_shows_iff, hnumber, true_and,
    and_true]

theorem Printed.andThen_fault {p : Printed} {next : Except MarkupFault (List Text)}
    (hp : p.fault = none) (hnext : Succeeds next) : (p.andThen next).fault = none := by
  obtain ⟨lines, rfl⟩ := hnext
  obtain ⟨before, fault⟩ := p
  obtain rfl : fault = none := hp
  rfl

theorem summary_fault (screen : Screen) {r : CheckReport}
    (hvalues : ∀ s ∈ reportedValues r, Unstyled s)
    (htrace : ∀ state ∈ r.errorTrace,
      Unstyled state.title ∧ Unstyled (Text.join ['\n'] state.assignments)) :
    (summary screen r).fault = none := by
  have hpanel : (summaryPanel r).content.IsBare := by
    intro row hrow
    obtain ⟨entry, hentry, rfl⟩ := List.mem_map.mp hrow
    exact List.forall_mem_cons.mpr ⟨Cell.plain_isBare _, List.forall_mem_singleton.mpr
      (isBare_of_unstyled (unstyled_summaryRows_iff.mpr hvalues entry hentry))⟩
  have hlines : Succeeds (traceLines screen r.errorTrace) := by
    rw [traceLines]
    split
    next => exact succeeds_ok []
    next =>
      refine screen.titledTable_succeeds traceTitle fun row hrow => ?_
      obtain ⟨state, hstate, rfl⟩ := List.mem_map.mp hrow
      obtain ⟨htitle, hassignments⟩ := htrace state hstate
      exact List.forall_mem_cons.mpr ⟨Cell.plain_isBare _, List.forall_mem_cons.mpr
        ⟨isBare_of_unstyled htitle, List.forall_mem_singleton.mpr
          (isBare_of_unstyled hassignments)⟩⟩
  exact Printed.andThen_fault (Printed.andThen_fault
    (Printed.andThen_fault rfl (screen.panel_succeeds hpanel)) (succeeds_ok _)) hlines

/-! ## Reports -/

/-- Reports are drawn and show what they are about as it is, if and only if every text that is given
as styled text has nothing in it that styled text is read for. -/
theorem rendered_verbatim_iff (screen : Screen) (m : Mapping) (r : CheckReport) :
    (Succeeds (findingLines screen m) ∧
        (findingTable (listed m)).Shows (findingTexts (listed m)) ↔
      ∀ finding ∈ m.records, Unstyled (locationText finding) ∧ Unstyled finding.text) ∧
    ((summary screen r).fault = none ∧ (summaryPanel r).content.Shows (summaryTexts r) ∧
        (traceTable r.errorTrace).Shows (traceTexts r.errorTrace) ↔
      (∀ s ∈ reportedValues r, Unstyled s) ∧ ∀ state ∈ r.errorTrace,
        Unstyled state.title ∧ Unstyled (Text.join ['\n'] state.assignments)) := by
  have hlisted : (∀ finding ∈ listed m, Unstyled (locationText finding) ∧ Unstyled finding.text) ↔
      ∀ finding ∈ m.records, Unstyled (locationText finding) ∧ Unstyled finding.text :=
    forall_congr' fun finding => imp_congr_left List.mem_mergeSort
  constructor
  · rw [findingTable_shows_iff, hlisted]
    exact ⟨And.right, fun h => ⟨findingLines_succeeds screen h, h⟩⟩
  · rw [summaryPanel_shows_iff, traceTable_shows_iff]
    exact ⟨And.right, fun h => ⟨summary_fault screen h.1 h.2, h⟩⟩

/-- There is nothing to close at the front of a text. -/
theorem not_succeeds_closing : ¬ Succeeds (Cell.ofMarkup "[/x]".toList) := by
  rintro ⟨m, hm⟩
  have hpieces : Marked.ofMarkup "[/x]".toList = drawFrom [] [] [] 0 [.tag "/x".toList 0] := rfl
  have hsplit : splitTag "/x".toList = (['/', 'x'], none) := rfl
  have hname : Text.strip ['x'] = ['x'] := rfl
  have hnamed : ¬ List.isEmpty ['x'] = true := Bool.false_ne_true
  rw [Cell.ofMarkup, hpieces] at hm
  unfold drawFrom at hm
  simp only [hsplit, hname, bind] at hm
  rw [if_neg hnamed] at hm
  obtain ⟨style, -, hstyle⟩ := bind_eq_ok_iff.mp hm
  cases hstyle

/-- A message with a closing tag, and a value that starts a tag. -/
theorem rendered_not_verbatim :
    let finding : Record := ⟨"Spec.tla".toList, .fileStart, .error, "[/x]".toList⟩
    let trace : List TraceState :=
      [⟨1, "Initial predicate".toList, ["x = [a |-> 1]".toList]⟩]
    ¬ Succeeds (findingLines ⟨80, false⟩ [("Spec.tla".toList, [finding])]) ∧
      ¬ (traceTable trace).Shows (traceTexts trace) := by
  intro finding trace
  constructor
  · intro hdrawn
    have hlisted : listed [("Spec.tla".toList, [finding])] = [finding] :=
      List.mergeSort_singleton _
    rw [findingLines, hlisted] at hdrawn
    have hlines : Succeeds ((findingTable [finding]).lines 80) := Succeeds.of_map hdrawn
    have hcells : ∀ cell ∈ (findingTable [finding]).cells 2, Succeeds cell :=
      Table.cell_of_lines hlines (by decide) (by decide)
    have hmessage : Succeeds (Cell.ofMarkup finding.text) :=
      hcells _ (message_mem_cells (r := finding) List.mem_cons_self)
    exact not_succeeds_closing hmessage
  · intro hshows
    have huntagged := ((traceTable_shows_iff.mp hshows) _ List.mem_cons_self).2.untagged
      "[a |-> 1]".toList (by decide)
    cases huntagged

end TlaRunner.Console
