import Mathlib.Data.Char
import Mathlib.Data.List.Lex
import Mathlib.Data.Prod.Lex
import TlaRunner.Proofs.Console.Report

/-!
# The order of findings

Findings are listed by a key of severity, file and line (`LineKey`).  All of them are listed, and
those with one key as they came (`Sorts`); each is drawn in lines of its own, one finding below the
other (`Draws`).

The column at which a finding starts is drawn, too, but it has no part in the key.  So findings of
one line stand in the order of their columns if and only if they came in it
(`listing_by_column_iff`).
-/

namespace TlaRunner

/-! ## Texts in order -/

/-- Texts are in the order of the numbers of their characters. -/
theorem Text.le_iff {s t : Text} : Text.le s t = true ↔ s ≤ t := by
  rw [← not_lt]
  induction s generalizing t with
  | nil => exact iff_of_true rfl (List.not_lt_nil t)
  | cons a s ih =>
      cases t with
      | nil => exact iff_of_false Bool.false_ne_true (not_not.mpr (List.nil_lt_cons a s))
      | cons b t =>
          have hcode : a.toNat < b.toNat ↔ a < b := Iff.rfl
          rw [Text.le, List.cons_lt_cons_iff, Bool.or_eq_true, Bool.and_eq_true, decide_eq_true_eq,
            beq_iff_eq, Char.toNat_inj, ih, hcode]
          rcases lt_trichotomy a b with hlt | rfl | hgt
          · simp [hlt, hlt.not_gt, hlt.ne']
          · simp
          · simp [hgt, hgt.not_gt, hgt.ne']

namespace Console

open Diagnostic (Mapping Record)

/-! ## Sorting by a key -/

section

variable {α κ : Type} [LinearOrder κ]

/-- Whether all of some items are listed by a key, those with one key as they came. -/
structure Sorts (key : α → κ) (items rows : List α) : Prop where
  /-- Each item is listed, and only once. -/
  perm : rows.Perm items
  /-- No later row has a smaller key. -/
  sorted : rows.Pairwise fun a b => key a ≤ key b
  /-- Rows with one key are in the order of the items. -/
  stable : ∀ k, rows.filter (key · = k) = items.filter (key · = k)

/-- A list is sorted by a key if it is sorted with a comparison by that key. -/
theorem sorts_mergeSort {key : α → κ} {le : α → α → Bool}
    (hle : ∀ a b, le a b = true ↔ key a ≤ key b) (items : List α) :
    Sorts key items (items.mergeSort le) := by
  have htrans (a b c : α) (hab : le a b = true) (hbc : le b c = true) : le a c = true :=
    (hle a c).mpr (((hle a b).mp hab).trans ((hle b c).mp hbc))
  have htotal (a b : α) : (le a b || le b a) = true := by
    rw [Bool.or_eq_true, hle, hle]
    exact le_total _ _
  have hperm := List.mergeSort_perm items le
  refine ⟨hperm, (List.pairwise_mergeSort htrans htotal items).imp fun h => (hle _ _).mp h,
    fun k => ?_⟩
  -- Items with one key are in order as they stand, and the sort keeps what is.
  have hsame : (items.filter (key · = k)).Pairwise fun a b => le a b = true := by
    refine List.pairwise_filter.mpr (List.pairwise_of_forall fun a b ha hb => (hle a b).mpr ?_)
    rw [of_decide_eq_true ha, of_decide_eq_true hb]
  have hkept := (List.sublist_mergeSort htrans htotal hsame List.filter_sublist).filter (key · = k)
  simp only [List.filter_filter, Bool.and_self] at hkept
  exact (hkept.eq_of_length (hperm.filter _).length_eq.symm).symm

/-- Two rows with one key are in the order of the items. -/
theorem Sorts.pair_sublist_iff {key : α → κ} {items rows : List α} (h : Sorts key items rows)
    {a b : α} (hkey : key a = key b) : [a, b].Sublist rows ↔ [a, b].Sublist items := by
  have hfilter (l : List α) : [a, b].Sublist l ↔ [a, b].Sublist (l.filter (key · = key b)) := by
    refine ⟨fun hl => ?_, fun hl => hl.trans List.filter_sublist⟩
    have hpair : [a, b].filter (key · = key b) = [a, b] := by simp [hkey]
    rw [← hpair]
    exact hl.filter _
  rw [hfilter rows, hfilter items, h.stable]

/-- Rows that are sorted by a key are sorted by a second one besides, if and only if items with one
key came in the order of the second. -/
theorem Sorts.lex_iff {ι : Type} [LinearOrder ι] {key : α → κ} {items rows : List α}
    (h : Sorts key items rows) (next : α → ι) :
    Sorts (fun a => toLex (key a, next a)) items rows ↔
      items.Pairwise fun a b => key a = key b → next a ≤ next b := by
  constructor
  · intro hlex
    refine List.pairwise_iff_forall_sublist.mpr fun {a b} hitems hkey => ?_
    have hrows := (h.pair_sublist_iff hkey).mpr hitems
    have hle := List.pairwise_iff_forall_sublist.mp hlex.sorted hrows
    rcases Prod.Lex.toLex_le_toLex.mp hle with hlt | ⟨-, hnext⟩
    · exact absurd hkey hlt.ne
    · exact hnext
  · intro hcame
    refine ⟨h.perm, List.pairwise_iff_forall_sublist.mpr fun {a b} hrows => ?_, fun k => ?_⟩
    · rcases (List.pairwise_iff_forall_sublist.mp h.sorted hrows).lt_or_eq with hlt | hkey
      · exact Prod.Lex.toLex_le_toLex.mpr (Or.inl hlt)
      · have hitems := (h.pair_sublist_iff hkey).mp hrows
        exact Prod.Lex.toLex_le_toLex.mpr
          (Or.inr ⟨hkey, List.pairwise_iff_forall_sublist.mp hcame hitems hkey⟩)
    · have hsplit (l : List α) : l.filter (fun a => toLex (key a, next a) = k) =
          (l.filter (key · = (ofLex k).1)).filter (next · = (ofLex k).2) := by
        rw [List.filter_filter]
        refine List.filter_congr fun a _ => ?_
        rw [← Bool.decide_and, decide_eq_decide, and_comm]
        exact Prod.ext_iff
      rw [hsplit, hsplit, h.stable]

end

/-! ## Rows of a table -/

namespace Table

variable {t : Table} {widths : List Nat}

/-- A row is one line high at least, even where its cells have no room. -/
theorem rowLines_ne_nil {low : Bool} {row : List Cell} {block : List Strip}
    (h : t.rowLines widths low row = .ok block) : block ≠ [] := by
  obtain ⟨blocks, -, hlines⟩ := bind_eq_ok_iff.mp h
  cases hlines
  refine List.ne_nil_of_length_pos ?_
  rw [List.length_map, List.length_range]
  exact Nat.lt_of_lt_of_le Nat.zero_lt_one (Nat.le_max_left 1 _)

/-- A table with a header has it above a rule, and below that its rows one after the other. -/
theorem of_lines {limit : Nat} {strips : List Strip} (hheader : t.showsHeader = true)
    (h : t.lines limit = .ok strips) :
    ∃ widths header blocks, t.rowLines widths true t.headerRow = .ok header ∧
      List.Forall₂ (fun row block => t.rowLines widths false row = .ok block) t.rows blocks ∧
      strips = edge widths :: (header ++ [rule widths]) ++ blocks.flatten ++ [edge widths] := by
  obtain ⟨widths, -, h⟩ := bind_eq_ok_iff.mp h
  rw [if_pos hheader] at h
  obtain ⟨above, habove, h⟩ := bind_eq_ok_iff.mp h
  obtain ⟨header, hrow, rfl⟩ := map_eq_ok_iff.mp habove
  obtain ⟨blocks, hblocks, h⟩ := bind_eq_ok_iff.mp h
  cases h
  exact ⟨widths, header, blocks, hrow, mapM_eq_ok_iff.mp hblocks, rfl⟩

end Table

/-! ## Findings in order -/

/-- What findings are listed by: the severity, of which the larger rank comes first, the file and
the line. -/
def lineKey (r : Record) : ℕᵒᵈ ×ₗ Text ×ₗ ℕ :=
  toLex (OrderDual.toDual r.severity.rank, toLex (r.file, r.range.start.line))

/-- The same with the column behind the line. -/
def columnKey (r : Record) : (ℕᵒᵈ ×ₗ Text ×ₗ ℕ) ×ₗ ℕ :=
  toLex (lineKey r, r.range.start.column)

theorem listedBefore_iff (a b : Record) : listedBefore a b = true ↔ lineKey a ≤ lineKey b := by
  simp only [lineKey, Prod.Lex.toLex_le_toLex, OrderDual.toDual_lt_toDual, OrderDual.toDual_inj]
  rw [listedBefore]
  split
  next hrank => simp [hrank]
  next hrank =>
    obtain hrank := not_not.mp hrank
    split
    next hfile => simp [hrank, hfile, Text.le_iff, le_iff_lt_or_eq]
    next hfile => simp [hrank, not_not.mp hfile]

theorem sorts_listed (m : Mapping) : Sorts lineKey m.records (listed m) :=
  sorts_mergeSort listedBefore_iff m.records

/-- The cells of a finding. -/
def findingCells (r : Record) : List Cell :=
  [Cell.ofMarkup (locationText r), Cell.plain r.severity.name, Cell.ofMarkup r.text]

/-- How a screen shows a line. -/
def Screen.lineOf (screen : Screen) (strip : Strip) : Text :=
  (if screen.isSoft then strip else strip.crop screen.width).text

/-- Whether lines are the table of some findings: each has lines of its own below the header, one
finding after the other. -/
def Draws (screen : Screen) (findings : List Record) (lines : List Text) : Prop :=
  ∃ widths header blocks,
    (findingTable findings).rowLines widths true (findingTable findings).headerRow = .ok header ∧
    List.Forall₂ (fun r block => block ≠ [] ∧
      (findingTable findings).rowLines widths false (findingCells r) = .ok block)
      findings blocks ∧
    lines = (Table.edge widths :: (header ++ [Table.rule widths]) ++ blocks.flatten
      ++ [Table.edge widths]).map screen.lineOf

/-- What is printed of findings is their table, unless there is nothing to print or no room. -/
theorem draws_of_findingLines {screen : Screen} {m : Mapping} {lines : List Text}
    (h : findingLines screen m = .ok lines) :
    (m.records = [] ∨ screen.width = 0) ∧ lines = [] ∨ Draws screen (listed m) lines := by
  rw [findingLines] at h
  split at h
  next hempty =>
    cases h
    have hnone : m.records.length = 0 := by
      rw [← (sorts_listed m).perm.length_eq, List.isEmpty_iff.mp hempty, List.length_nil]
    exact Or.inl ⟨Or.inl (List.length_eq_zero_iff.mp hnone), rfl⟩
  next =>
    rw [Screen.table, Screen.drawn] at h
    split at h
    next hwidth =>
      cases h
      exact Or.inl ⟨Or.inr hwidth, rfl⟩
    next =>
      obtain ⟨strips, hstrips, rfl⟩ := map_eq_ok_iff.mp h
      obtain ⟨widths, header, blocks, hheader, hblocks, rfl⟩ := Table.of_lines rfl hstrips
      refine Or.inr ⟨widths, header, blocks, hheader, ?_, rfl⟩
      exact (List.forall₂_map_left_iff.mp hblocks).imp fun r block hblock =>
        ⟨Table.rowLines_ne_nil hblock, hblock⟩

/-- All findings are listed and counted, each in lines of its own, by severity, file and line, those
that agree in these as they came.  So they are listed by severity, file, line and column if and
only if those that agree in the first three came in the order of their columns. -/
theorem listing_by_column_iff (screen : Screen) (m : Mapping) :
    ((∀ r ∈ m.records, Unstyled (locationText r) ∧ Unstyled r.text) →
      Succeeds (listing screen m)) ∧
    (∀ l, listing screen m = .ok l → l.count = m.records.length ∧
      ((m.records = [] ∨ screen.width = 0) ∧ l.lines = [] ∨ Draws screen (listed m) l.lines)) ∧
    Sorts lineKey m.records (listed m) ∧
    (Sorts columnKey m.records (listed m) ↔ m.records.Pairwise fun a b =>
      lineKey a = lineKey b → a.range.start.column ≤ b.range.start.column) := by
  have hsorts := sorts_listed m
  refine ⟨fun h => (findingLines_succeeds screen h).map, fun l hl => ?_, hsorts,
    hsorts.lex_iff _⟩
  obtain ⟨lines, hlines, rfl⟩ := map_eq_ok_iff.mp hl
  exact ⟨hsorts.perm.length_eq, draws_of_findingLines hlines⟩

/-- Of two findings of one line, the one behind stays above if it came first. -/
theorem listing_not_by_column :
    let front : Record := ⟨"a.tla".toList, ⟨⟨0, 1⟩, ⟨0, 2⟩⟩, .error, "front".toList⟩
    let behind : Record := ⟨"a.tla".toList, ⟨⟨0, 4⟩, ⟨0, 5⟩⟩, .error, "behind".toList⟩
    let m : Mapping := [("a.tla".toList, [behind, front])]
    listed m = [behind, front] ∧ ¬ Sorts columnKey m.records (listed m) := by
  intro front behind m
  have hlisted : listed m = [behind, front] := List.mergeSort_of_pairwise (by decide)
  refine ⟨hlisted, fun h => ?_⟩
  have hsorted := h.sorted
  rw [hlisted, List.pairwise_pair] at hsorted
  rcases Prod.Lex.toLex_le_toLex.mp hsorted with hlt | ⟨-, hcolumn⟩
  · exact lt_irrefl _ hlt
  · exact absurd hcolumn (by decide)

end Console

end TlaRunner
