import TlaRunner.Console.Markup
import TlaRunner.Console.Wrap

/-!
# Tables

A table is a column of cells beside another.  Every line starts and ends with a
space, and a space stands between two columns; a cell has a space on each side,
except that the outer sides may have none.  A header is followed by a rule over the
whole width.  An empty line stands above and below.

A column is as wide as its widest line.  If the table is too wide, the widest of the
columns that may be broken are narrowed to the next narrower ones, again and again;
if that is not enough, all columns give up equal parts.

A cell whose text was refused is a fault of the table as soon as the cell is measured or
drawn, and not before: where there is no room, nothing is looked at.
-/

namespace TlaRunner.Console

/-- A column. -/
structure Column where
  /-- What stands above it. -/
  header : Text
  /-- How its texts are laid out. -/
  layout : Layout
  deriving DecidableEq, Repr

/-- What is in a cell, or why it is refused. -/
abbrev Cell := Except MarkupFault Marked

namespace Cell

/-- A cell with plain text. -/
def plain (s : Text) : Cell :=
  .ok (.plain (sanitize s))

/-- A cell with styled text. -/
def ofMarkup (s : Text) : Cell :=
  Marked.ofMarkup s

end Cell

/-- A table. -/
structure Table where
  /-- The columns. -/
  columns : List Column
  /-- Whether the headers are shown. -/
  showsHeader : Bool
  /-- Whether the outer cells have a space at the edge. -/
  padsEdge : Bool
  /-- The cells, row by row. -/
  rows : List (List Cell)

namespace Table

/-! ## Widths -/

/-- A quotient rounded to the nearest number, a half to the even one. -/
def roundDiv (num den : Nat) : Nat :=
  let quotient := num / den
  let twice := 2 * (num % den)
  if twice < den then quotient
  else if twice = den then quotient + quotient % 2
  else quotient + 1

/-- Takes an amount away from those values that are marked, in equal parts and from
none more than its limit. -/
def reduce (total parts : Nat) : List (Bool × Nat × Nat) → List Nat
  | [] => []
  | (marked, limit, value) :: rest =>
    if marked && 0 < limit && 0 < parts then
      let part := min limit (roundDiv total parts)
      (value - part) :: reduce (total - part) (parts - 1) rest
    else value :: reduce total parts rest

/-- Takes an amount away from marked values. -/
def reduceMarked (total : Nat) (values : List (Bool × Nat × Nat)) : List Nat :=
  let parts := (values.filter fun v => v.1 && 0 < v.2.1).length
  if parts = 0 then values.map (·.2.2) else reduce total parts values

/-- The cells that widths take together. -/
def taken : List Nat → Nat
  | [] => 0
  | width :: widths => width + taken widths

/-- Narrows the widest columns that may be broken, until the widths fit or these
columns are equally wide.  Each turn of `fuel` makes one more column one of the
widest. -/
def collapse (limit : Nat) (wraps : List Bool) : (fuel : Nat) → List Nat → List Nat
  | 0, widths => widths
  | fuel + 1, widths =>
    let total := taken widths
    if total ≤ limit then widths
    else
      let free := ((widths.zip wraps).filter (·.2)).map (·.1)
      let widest := free.foldl max 0
      let second := (free.filter (· ≠ widest)).foldl max 0
      let difference := widest - second
      if free.isEmpty || difference = 0 then widths
      else
        let excess := total - limit
        collapse limit wraps fuel (reduceMarked excess ((widths.zip wraps).map fun (w, free) =>
          (free && w = widest, min excess difference, w)))

/-- The number of columns. -/
def size (t : Table) : Nat :=
  t.columns.length

/-- The space on the left of a column. -/
def leftPad (t : Table) (index : Nat) : Nat :=
  if index = 0 && !t.padsEdge then 0 else 1

/-- The space on the right of a column. -/
def rightPad (t : Table) (index : Nat) : Nat :=
  if index + 1 = t.size && !t.padsEdge then 0 else 1

/-- The headers in a row. -/
def headerRow (t : Table) : List Cell :=
  t.columns.map fun column => Cell.plain column.header

/-- The cell of a row in a column. -/
def cellAt (index : Nat) (row : List Cell) : Cell :=
  row.getD index (Cell.plain [])

/-- The cells of a column, the header first. -/
def cells (t : Table) (index : Nat) : List Cell :=
  ((if t.showsHeader then [t.headerRow] else []) ++ t.rows).map (cellAt index)

/-- The width a column needs, at most a limit. -/
def measure (t : Table) (limit index : Nat) : Except MarkupFault Nat := do
  let pad := t.leftPad index + t.rightPad index
  let cells := t.cells index
  if limit ≤ pad || cells.isEmpty then return limit
  let needs ← cells.mapM fun cell => do
    return min limit (naturalWidth (← cell).text + pad)
  return needs.foldl max 0

/-- The widths the columns need, each at most a limit of its own. -/
def measureAll (t : Table) (limits : List Nat) : Except MarkupFault (List Nat) :=
  limits.zipIdx.mapM fun (limit, index) => t.measure limit index

/-- The number of columns that belong to no cell. -/
def frame (t : Table) : Nat :=
  t.size + 1

/-- The widths of the columns, if the whole table has a limit. -/
def widths (t : Table) (limit : Nat) : Except MarkupFault (List Nat) := do
  let room := limit - t.frame
  let natural := (← t.measureAll (t.columns.map fun _ => room)).map (max 1)
  if taken natural ≤ room then return natural
  let collapsed := collapse room (t.columns.map (·.layout.wraps)) (2 * t.size + 2) natural
  let fitted :=
    if taken collapsed ≤ room then collapsed
    else reduceMarked (taken collapsed - room) (collapsed.map fun w => (true, w, w))
  t.measureAll fitted

/-- The width of the whole table, as it is asked for by what surrounds it. -/
def span (t : Table) (limit : Nat) : Except MarkupFault Nat := do
  let total := taken (← t.widths limit)
  let needed := taken (← t.measureAll (t.columns.map fun _ => total))
  return min limit (needed + t.frame)

/-! ## Lines -/

/-- The lines of a cell with the spaces beside it. -/
def cellLines (t : Table) (index width : Nat) (layout : Layout) (cell : Cell) :
    Except MarkupFault (List Strip) := do
  let left := t.leftPad index
  let right := t.rightPad index
  let inner := width - left - right
  if inner = 0 then return []
  let strips ← Marked.strips (layout.arrange inner (← cell))
  return strips.map fun strip =>
    Strip.fill width (Text.repeated left ' ' :: Strip.fill inner strip
      ++ [Text.repeated right ' '])

/-- Lines filled up to a height with empty ones, above them where they are to stand at
the bottom. -/
def stretch (height width : Nat) (low : Bool) (lines : List Strip) : List Strip :=
  let lines := lines.map (Strip.fill width)
  let empty := List.replicate (height - lines.length) [Text.repeated width ' ']
  if low then empty ++ lines else lines ++ empty

/-- The lines of a row, whose cells stand at its top or, in a header, at its bottom. -/
def rowLines (t : Table) (widths : List Nat) (low : Bool) (row : List Cell) :
    Except MarkupFault (List Strip) := do
  let blocks ← (t.columns.zip widths).zipIdx.mapM fun ((column, width), index) => do
    return (width, ← t.cellLines index width column.layout (cellAt index row))
  let height := max 1 ((blocks.map (·.2.length)).foldl max 0)
  let stretched := blocks.map fun (width, lines) => stretch height width low lines
  return (List.range height).map fun number =>
    [' '] :: List.flatten ((stretched.map (·.getD number [])).intersperse [[' ']]) ++ [[' ']]

/-- The rule below the header. -/
def rule (widths : List Nat) : Strip :=
  [' ' :: Text.repeated (taken widths + (widths.length - 1)) '─' ++ [' ']]

/-- The empty line above and below. -/
def edge (widths : List Nat) : Strip :=
  [Text.repeated (taken widths + (widths.length - 1) + 2) ' ']

/-- The lines of a table within a limit. -/
def lines (t : Table) (limit : Nat) : Except MarkupFault (List Strip) := do
  let widths ← t.widths limit
  let header ←
    if t.showsHeader then
      (t.rowLines widths true t.headerRow).map (· ++ [rule widths])
    else .ok []
  let rows ← t.rows.mapM (t.rowLines widths false)
  return edge widths :: header ++ rows.flatten ++ [edge widths]

end Table

/-! ## Panels -/

/-- A table in a frame with a title. -/
structure Panel where
  /-- The title. -/
  title : Text
  /-- What is in the frame. -/
  content : Table

namespace Panel

/-- The title with a space on each side. -/
def paddedTitle (p : Panel) : Text :=
  ' ' :: p.title ++ [' ']

/-- The width inside the frame. -/
def inner (p : Panel) (limit : Nat) : Except MarkupFault Nat := do
  let room := limit - 2
  let needed ← if room < 3 then .ok room else (p.content.span room).map (min room <| · + 2)
  return min room (max needed (width p.paddedTitle + 2))

/-- The border above. -/
def top (p : Panel) (inner : Nat) : Strip :=
  if inner ≤ 2 then ['╭' :: Text.repeated inner '─' ++ ['╮']]
  else
    let title := cut (inner - 2) .fold p.paddedTitle
    let space := inner - 2 - width title
    ["╭─".toList, Text.repeated (space / 2) '─' ++ title
      ++ Text.repeated (space - space / 2) '─', "─╮".toList]

/-- The lines of a panel within a limit. -/
def lines (p : Panel) (limit : Nat) : Except MarkupFault (List Strip) := do
  let inner ← p.inner limit
  let body ← if inner ≤ 2 then .ok [] else p.content.lines (inner - 2)
  return p.top inner :: (body.map fun line =>
      ['│'] :: Strip.fill inner ([' '] :: Strip.fill (inner - 2) line ++ [[' ']]) ++ [['│']])
    ++ [['╰' :: Text.repeated inner '─' ++ ['╯']]]

end Panel

end TlaRunner.Console
