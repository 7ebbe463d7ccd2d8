import TlaRunner.Console.Screen

/-!
# Tables that are never refused

What may be refused when a table is drawn is the text of a cell, and the style of a mark in it.  So
a table is drawn on every screen if the texts of its cells are accepted and have no marks, and so
is a panel around it (`Screen.table_succeeds`, `Screen.titledTable_succeeds`,
`Screen.panel_succeeds`).

A text without marks has none in any of its lines and parts, however it is broken, cut or moved
(`Layout.arrange_isBare`).
-/

namespace TlaRunner.Console

/-! ## Results -/

/-- Whether nothing is refused. -/
def Succeeds {ε α : Type} (x : Except ε α) : Prop :=
  ∃ a, x = .ok a

section

variable {ε α β : Type} {x : Except ε α}

theorem succeeds_ok (a : α) : Succeeds (.ok a : Except ε α) :=
  ⟨a, rfl⟩

theorem Succeeds.bind {f : α → Except ε β} (hx : Succeeds x) (hf : ∀ a, Succeeds (f a)) :
    Succeeds (x >>= f) := by
  obtain ⟨a, rfl⟩ := hx
  exact hf a

theorem Succeeds.map {f : α → β} (hx : Succeeds x) : Succeeds (x.map f) := by
  obtain ⟨a, rfl⟩ := hx
  exact succeeds_ok (f a)

theorem Succeeds.of_bind {f : α → Except ε β} (h : Succeeds (x >>= f)) : Succeeds x := by
  cases x with
  | ok a => exact succeeds_ok a
  | error e =>
      obtain ⟨b, hb⟩ := h
      cases hb

theorem Succeeds.of_map {f : α → β} (h : Succeeds (x.map f)) : Succeeds x := by
  cases x with
  | ok a => exact succeeds_ok a
  | error e =>
      obtain ⟨b, hb⟩ := h
      cases hb

theorem Succeeds.of_mapM {f : α → Except ε β} {l : List α} (h : Succeeds (l.mapM f)) :
    ∀ a ∈ l, Succeeds (f a) := by
  induction l with
  | nil => exact fun _ hmem => by cases hmem
  | cons a l ih =>
      rw [List.mapM_cons] at h
      refine List.forall_mem_cons.mpr ⟨h.of_bind, ih ?_⟩
      obtain ⟨b, hb⟩ := h.of_bind
      rw [hb] at h
      exact Succeeds.of_bind (f := fun bs => pure (b :: bs)) h

theorem succeeds_mapM {f : α → Except ε β} {l : List α} (h : ∀ a ∈ l, Succeeds (f a)) :
    Succeeds (l.mapM f) := by
  induction l with
  | nil => exact succeeds_ok []
  | cons a l ih =>
      obtain ⟨hhere, hlater⟩ := List.forall_mem_cons.mp h
      rw [List.mapM_cons]
      exact hhere.bind fun b => (ih hlater).bind fun bs => succeeds_ok (b :: bs)

end

/-! ## Texts without marks -/

/-- Whether a text has no marks. -/
def Marked.IsBare (m : Marked) : Prop :=
  m.marks = []

namespace Marked

theorem plain_isBare (s : Text) : (plain s).IsBare := rfl

variable {m : Marked} {parts : List Marked}

theorem IsBare.part (h : m.IsBare) (start stop : Nat) : (m.part start stop).IsBare := by
  rw [IsBare, Marked.part, h]
  rfl

theorem IsBare.withText (h : m.IsBare) (s : Text) : (m.withText s).IsBare := by
  rw [IsBare, Marked.withText, h]
  exact ite_self _

theorem IsBare.padLeft (h : m.IsBare) (spaces : Nat) : (m.padLeft spaces).IsBare := by
  rw [IsBare, Marked.padLeft, h]
  rfl

theorem IsBare.stretch (h : m.IsBare) (spaces : Nat) : (m.stretch spaces).IsBare := by
  rw [IsBare, Marked.stretch, h]
  rfl

theorem IsBare.partsFrom (h : m.IsBare) (start : Nat) (places : List Nat) :
    ∀ part ∈ m.partsFrom start places, part.IsBare := by
  induction places generalizing start with
  | nil => exact List.forall_mem_singleton.mpr (h.part _ _)
  | cons stop places ih => exact List.forall_mem_cons.mpr ⟨h.part _ _, ih stop⟩

theorem IsBare.gapsFrom (h : m.IsBare) (start : Nat) (places : List Nat) :
    ∀ part ∈ m.gapsFrom start places, part.IsBare := by
  induction places generalizing start with
  | nil => exact List.forall_mem_singleton.mpr (h.part _ _)
  | cons stop places ih => exact List.forall_mem_cons.mpr ⟨h.part _ _, ih (stop + 1)⟩

theorem IsBare.divide (h : m.IsBare) (places : List Nat) :
    ∀ part ∈ m.divide places, part.IsBare := by
  rw [Marked.divide]
  split
  next => exact List.forall_mem_singleton.mpr h
  next => exact h.partsFrom 0 places

theorem IsBare.lines (h : m.IsBare) : ∀ line ∈ m.lines, line.IsBare := by
  rw [Marked.lines]
  split
  next => exact List.forall_mem_singleton.mpr h
  next => exact h.gapsFrom 0 _

theorem joined_isBare (h : ∀ part ∈ parts, part.IsBare) : (joined parts).IsBare := by
  have hmarks (place : Nat) : marksFrom place parts = [] := by
    induction parts generalizing place with
    | nil => rfl
    | cons part rest ih =>
        obtain ⟨hpart, hrest⟩ := List.forall_mem_cons.mp h
        rw [marksFrom, hpart, ih hrest]
        rfl
  exact hmarks 0

/-- Lines without marks are drawn, since there is no style to look into. -/
theorem strips_succeeds {lines : List Marked} (h : ∀ line ∈ lines, line.IsBare) :
    Succeeds (strips lines) := by
  have hnone : lines.findSome? (·.fault?) = none := by
    refine List.findSome?_eq_none_iff.mpr fun line hline => ?_
    rw [fault?, h line hline]
    rfl
  rw [strips, hnone]
  exact succeeds_ok _

end Marked

theorem fillTabs_isBare {parts : List Marked} (h : ∀ part ∈ parts, part.IsBare) (column : Nat) :
    ∀ part ∈ fillTabs column parts, part.IsBare := by
  induction parts generalizing column with
  | nil => exact h
  | cons part rest ih =>
      obtain ⟨hpart, hrest⟩ := List.forall_mem_cons.mp h
      rw [fillTabs]
      split
      next =>
        have hshorter : Marked.IsBare { part with text := part.text.dropLast ++ [' '] } := hpart
        exact List.forall_mem_cons.mpr ⟨hshorter.stretch _, ih hrest _⟩
      next => exact List.forall_mem_cons.mpr ⟨hpart, ih hrest _⟩

theorem expandTabs_isBare {line : Marked} (h : line.IsBare) : (expandTabs line).IsBare := by
  rw [expandTabs]
  split
  next => exact h
  next => exact Marked.joined_isBare (fillTabs_isBare (h.divide _) 0)

theorem Layout.place_isBare (l : Layout) (limit : Nat) {line : Marked} (h : line.IsBare) :
    (l.place limit line).IsBare := by
  rw [Layout.place]
  simp only
  split
  next => exact h.withText _
  next => exact h.withText _
  next => exact ((h.withText _).withText _).padLeft _
  next => exact ((h.withText _).withText _).padLeft _

/-- However a text without marks is laid out, its lines have none. -/
theorem Layout.arrange_isBare (l : Layout) (limit : Nat) {m : Marked} (h : m.IsBare) :
    ∀ line ∈ l.arrange limit m, line.IsBare := by
  intro line hline
  obtain ⟨whole, hwhole, hpart⟩ := List.mem_flatMap.mp hline
  have hbare := expandTabs_isBare (h.lines whole hwhole)
  obtain ⟨part, hparts, rfl⟩ := List.mem_map.mp hpart
  refine l.place_isBare limit ?_
  split at hparts
  next =>
    obtain ⟨cut, hcut, rfl⟩ := List.mem_map.mp hparts
    exact (hbare.divide _ cut hcut).withText _
  next =>
    rw [List.mem_singleton.mp hparts]
    exact hbare

/-! ## Tables -/

/-- Whether a cell has an accepted text without marks. -/
def Cell.IsBare (cell : Cell) : Prop :=
  ∃ m, cell = .ok m ∧ m.IsBare

theorem Cell.plain_isBare (s : Text) : (Cell.plain s).IsBare :=
  ⟨.plain (sanitize s), rfl, Marked.plain_isBare _⟩

/-- Whether all cells below the header have accepted texts without marks. -/
def Table.IsBare (t : Table) : Prop :=
  ∀ row ∈ t.rows, ∀ cell ∈ row, Cell.IsBare cell

namespace Table

variable {t : Table}

theorem cellAt_isBare {row : List Cell} (h : ∀ cell ∈ row, Cell.IsBare cell) (index : Nat) :
    Cell.IsBare (cellAt index row) := by
  rw [cellAt, List.getD]
  cases hcell : row[index]? with
  | none => exact Cell.plain_isBare []
  | some cell => exact h cell (List.mem_of_getElem? hcell)

theorem headerRow_isBare (t : Table) : ∀ cell ∈ t.headerRow, Cell.IsBare cell := by
  intro cell hcell
  obtain ⟨column, -, rfl⟩ := List.mem_map.mp hcell
  exact Cell.plain_isBare column.header

theorem IsBare.cells (h : t.IsBare) (index : Nat) : ∀ cell ∈ t.cells index, Cell.IsBare cell := by
  intro cell hcell
  obtain ⟨row, hrow, rfl⟩ := List.mem_map.mp hcell
  rcases List.mem_append.mp hrow with hheader | hrow
  · split at hheader
    next =>
      rw [List.mem_singleton.mp hheader]
      exact cellAt_isBare t.headerRow_isBare index
    next => cases hheader
  · exact cellAt_isBare (h row hrow) index

theorem IsBare.measure (h : t.IsBare) (limit index : Nat) : Succeeds (t.measure limit index) := by
  rw [Table.measure]
  split
  next => exact succeeds_ok limit
  next =>
    refine Succeeds.bind (succeeds_mapM fun cell hcell => ?_) fun needs => succeeds_ok _
    obtain ⟨m, rfl, -⟩ := h.cells index cell hcell
    exact succeeds_ok _

theorem IsBare.measureAll (h : t.IsBare) (limits : List Nat) : Succeeds (t.measureAll limits) :=
  succeeds_mapM fun entry _ => h.measure entry.1 entry.2

theorem IsBare.widths (h : t.IsBare) (limit : Nat) : Succeeds (t.widths limit) := by
  refine (h.measureAll _).bind fun natural => ?_
  dsimp only
  split
  next => exact succeeds_ok _
  next => exact h.measureAll _

theorem IsBare.span (h : t.IsBare) (limit : Nat) : Succeeds (t.span limit) :=
  (h.widths limit).bind fun _ => (h.measureAll _).bind fun _ => succeeds_ok _

theorem cellLines_succeeds (t : Table) (index width : Nat) (layout : Layout) {cell : Cell}
    (h : Cell.IsBare cell) : Succeeds (t.cellLines index width layout cell) := by
  obtain ⟨m, rfl, hbare⟩ := h
  rw [cellLines]
  split
  next => exact succeeds_ok []
  next =>
    exact (Marked.strips_succeeds (layout.arrange_isBare _ hbare)).bind fun strips => succeeds_ok _

theorem rowLines_succeeds (t : Table) (widths : List Nat) (low : Bool) {row : List Cell}
    (h : ∀ cell ∈ row, Cell.IsBare cell) : Succeeds (t.rowLines widths low row) := by
  refine Succeeds.bind (succeeds_mapM fun entry _ => ?_) fun blocks => succeeds_ok _
  exact (t.cellLines_succeeds _ _ _ (cellAt_isBare h _)).bind fun lines => succeeds_ok _

theorem IsBare.lines (h : t.IsBare) (limit : Nat) : Succeeds (t.lines limit) := by
  refine (h.widths limit).bind fun widths => ?_
  have hrows : Succeeds (t.rows.mapM (t.rowLines widths false)) :=
    succeeds_mapM fun row hrow => t.rowLines_succeeds widths false (h row hrow)
  have hheader := t.rowLines_succeeds widths true t.headerRow_isBare
  dsimp only
  split
  next => exact hheader.map.bind fun header => hrows.bind fun rows => succeeds_ok _
  next => exact (succeeds_ok []).bind fun header => hrows.bind fun rows => succeeds_ok _

/-- Where there is room for more than the spaces beside it, a column is measured, so a table is
refused with any of its cells. -/
theorem cell_of_lines {limit index : Nat} (h : Succeeds (t.lines limit)) (hindex : index < t.size)
    (hroom : t.leftPad index + t.rightPad index < limit - t.frame) :
    ∀ cell ∈ t.cells index, Succeeds cell := by
  intro cell hcell
  have hmeasured : Succeeds (t.measureAll (t.columns.map fun _ => limit - t.frame)) :=
    h.of_bind.of_bind
  have hcolumn : (limit - t.frame, index) ∈ (t.columns.map fun _ => limit - t.frame).zipIdx := by
    rw [List.mk_mem_zipIdx_iff_getElem?, List.getElem?_map, List.getElem?_eq_getElem hindex]
    rfl
  have hmeasure : Succeeds (t.measure (limit - t.frame) index) := hmeasured.of_mapM _ hcolumn
  have hnonempty : (t.cells index).isEmpty = false := by
    cases hcells : t.cells index with
    | nil =>
        rw [hcells] at hcell
        cases hcell
    | cons first rest => rfl
  have hlooked : ¬ (decide (limit - t.frame ≤ t.leftPad index + t.rightPad index) ||
      (t.cells index).isEmpty) = true := by
    rw [hnonempty, Bool.or_false, decide_eq_true_eq]
    exact Nat.not_le.mpr hroom
  rw [Table.measure, if_neg hlooked] at hmeasure
  exact (hmeasure.of_bind.of_mapM cell hcell).of_bind

end Table

/-! ## Screens -/

namespace Screen

variable (screen : Screen) {t : Table}

theorem drawn_succeeds {strips : Except MarkupFault (List Strip)} (h : Succeeds strips) :
    Succeeds (screen.drawn strips) := by
  rw [drawn]
  split
  next => exact succeeds_ok []
  next => exact h.map

theorem arranged_isBare (limit : Nat) (side : Side) {m : Marked} (h : m.IsBare) :
    ∀ line ∈ screen.arranged limit side m, line.IsBare := by
  rw [arranged]
  split
  next =>
    intro line hline
    obtain ⟨whole, hwhole, rfl⟩ := List.mem_map.mp hline
    exact expandTabs_isBare (h.lines whole hwhole)
  next => exact Layout.arrange_isBare _ limit h

theorem table_succeeds (h : t.IsBare) : Succeeds (screen.table t) :=
  screen.drawn_succeeds (h.lines screen.width)

theorem titledTable_succeeds (title : Text) (h : t.IsBare) :
    Succeeds (screen.titledTable title t) := by
  refine screen.drawn_succeeds ((h.widths screen.width).bind fun widths => ?_)
  have htitle := Marked.strips_succeeds
    (screen.arranged_isBare (Table.taken widths + t.frame) .center (Marked.plain_isBare title))
  exact htitle.bind fun above => (h.lines screen.width).bind fun lines => succeeds_ok _

theorem panel_succeeds {p : Panel} (h : p.content.IsBare) : Succeeds (screen.panel p) := by
  have hinner : Succeeds (p.inner screen.width) := by
    rw [Panel.inner]
    split
    next => exact (succeeds_ok _).bind fun needed => succeeds_ok _
    next => exact (h.span _).map.bind fun needed => succeeds_ok _
  refine screen.drawn_succeeds (hinner.bind fun inner => ?_)
  dsimp only
  split
  next => exact (succeeds_ok []).bind fun body => succeeds_ok _
  next => exact (h.lines _).bind fun body => succeeds_ok _

end Screen

end TlaRunner.Console
