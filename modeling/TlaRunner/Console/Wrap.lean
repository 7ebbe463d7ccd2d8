import TlaRunner.Console.Strip
import TlaRunner.Text.Blank
import TlaRunner.Text.Lines

/-!
# Breaking lines

A text is broken into lines of a width at its words, where a word keeps the blanks
around it.  A word that is wider than a line is folded where lines may be folded,
and stands on a line of its own otherwise.  Blanks that reach over the end of a
broken line are dropped.  `Layout.arrange` gives the lines of a text: broken or not,
cut to a width, and filled up to it on one side.
-/

namespace TlaRunner.Console

/-! ## Tabs -/

/-- The number of columns from one tab stop to the next. -/
def tabSize : Nat := 8

/-- Replaces the tab at the end of each part of a line by spaces up to the next tab
stop. -/
def fillTabs (column : Nat) : List Marked → List Marked
  | [] => []
  | part :: rest =>
    if Text.endsWith ['\t'] part.text then
      let part := { part with text := part.text.dropLast ++ [' '] }
      let column := column + width part.text
      let spaces := (tabSize - column % tabSize) % tabSize
      part.stretch spaces :: fillTabs (column + spaces) rest
    else part :: fillTabs (column + width part.text) rest

/-- A line without tabs. -/
def expandTabs (line : Marked) : Marked :=
  let places := (Marked.placesFrom '\t' 0 line.text).map (· + 1)
  if places.isEmpty then line else .joined (fillTabs 0 (line.divide places))

/-! ## Words -/

/-- The front of a line up to behind the blanks that follow its first word. -/
def firstWord (line : Text) : Text :=
  let lead := line.takeWhile Text.isBlank
  let word := (line.drop lead.length).takeWhile (!Text.isBlank ·)
  let tail := (line.drop (lead.length + word.length)).takeWhile Text.isBlank
  if word.isEmpty then [] else lead ++ word ++ tail

/-- The words of a line with the blanks around them.  `fuel` is at least the length
of the line. -/
def wordsOf : (fuel : Nat) → Text → List Text
  | 0, _ => []
  | fuel + 1, line =>
    let word := firstWord line
    if word.isEmpty then [] else word :: wordsOf fuel (line.drop word.length)

/-- A text without the blanks at its end. -/
def stripEnd (s : Text) : Text :=
  (s.reverse.dropWhile Text.isBlank).reverse

/-! ## Breaks -/

/-- A line is not broken before its first character. -/
def breakAt (place : Nat) : List Nat :=
  if place = 0 then [] else [place]

/-- The breaks before the pieces of a folded word that starts at a place, and the cells
of the last piece. -/
def foldBreaks (place cells : Nat) : List Text → List Nat × Nat
  | [] => ([], cells)
  | piece :: rest =>
    let (breaks, cells) := foldBreaks (place + piece.length) (width piece) rest
    (breakAt place ++ breaks, cells)

/-- The breaks before and in the rest of the words of a line, whose first word starts at
a place, behind a number of cells in the current line. -/
def breaksFrom (limit : Nat) (folds : Bool) (place cells : Nat) : List Text → List Nat
  | [] => []
  | word :: rest =>
    let next := place + word.length
    let size := width (stripEnd word)
    if cells + size ≤ limit then breaksFrom limit folds next (cells + width word) rest
    else if limit < size && folds then
      let (breaks, cells) := foldBreaks place cells (chop limit word)
      breaks ++ breaksFrom limit folds next cells rest
    else breakAt place ++ breaksFrom limit folds next (width word) rest

/-- The places where a line is broken. -/
def breaks (limit : Nat) (folds : Bool) (line : Text) : List Nat :=
  breaksFrom limit folds 0 0 (wordsOf line.length line)

/-- A line without those blanks at its end that reach over a number of characters. -/
def trimEnd (limit : Nat) (line : Marked) : Marked :=
  let size := line.text.length
  let blanks := size - (stripEnd line.text).length
  line.withText (line.text.take (size - min blanks (size - limit)))

/-! ## Layouts -/

/-- What happens to a line that is too wide. -/
inductive Overflow
  /-- Words are folded. -/
  | fold
  /-- The line is cut and ends in dots. -/
  | ellipsis
  deriving DecidableEq, Repr

/-- On which side of its place a text stands. -/
inductive Side
  /-- On the left, and the rest is left free. -/
  | free
  | left
  | right
  | center
  deriving DecidableEq, Repr

/-- How a text is laid out. -/
structure Layout where
  /-- Whether its lines may be broken. -/
  wraps : Bool
  /-- What happens to lines that are too wide. -/
  overflow : Overflow
  /-- On which side the text stands. -/
  side : Side
  deriving DecidableEq, Repr

/-- A text cut to a width. -/
def cut (limit : Nat) (overflow : Overflow) (s : Text) : Text :=
  if width s ≤ limit then s
  else
    match overflow with
    | .fold => fit limit s
    | .ellipsis => fit (limit - 1) s ++ ['…']

namespace Layout

/-- A line cut to a width and moved to its side. -/
def place (l : Layout) (limit : Nat) (line : Marked) : Marked :=
  let cutTo (line : Marked) : Marked := line.withText (cut limit l.overflow line.text)
  match l.side with
  | .free => cutTo line
  | .left =>
    let shown := cutTo line
    { shown with text := shown.text ++ Text.repeated (limit - width line.text) ' ' }
  | .right =>
    let shown := cutTo (line.withText (stripEnd line.text))
    shown.padLeft (limit - width shown.text)
  | .center =>
    let shown := cutTo (line.withText (stripEnd line.text))
    let placed := shown.padLeft ((limit - width shown.text) / 2)
    { placed with text := padTo limit placed.text }

/-- The lines of a text in a width. -/
def arrange (l : Layout) (limit : Nat) (m : Marked) : List Marked :=
  m.lines.flatMap fun line =>
    let line := expandTabs line
    let parts :=
      if l.wraps then
        (line.divide (breaks limit (l.overflow = .fold) line.text)).map (trimEnd limit)
      else [line]
    parts.map (l.place limit)

end Layout

/-- The width of the widest line of a text. -/
def naturalWidth (s : Text) : Nat :=
  ((Text.lines s).map width).foldl max 0

end TlaRunner.Console
