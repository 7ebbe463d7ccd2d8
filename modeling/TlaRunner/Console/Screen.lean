import TlaRunner.Console.Table
import TlaRunner.Text.Numeral

/-!
# Printing

A `Screen` has a width, and either breaks text at that width or leaves it as it is.
Printing gives lines.  What is printed as plain text loses only the characters that are
shown by nothing, and its tabs.
-/

namespace TlaRunner.Console

/-- Where lines are printed. -/
structure Screen where
  /-- The number of cells of a line. -/
  width : Nat
  /-- Whether text is left as it is, however long its lines are. -/
  isSoft : Bool
  deriving DecidableEq, Repr

namespace Screen

/-- The variable that names the width of a screen. -/
def widthName : Text := "COLUMNS".toList

/-- The variable that names the height of a screen. -/
def heightName : Text := "LINES".toList

/-- The number that an environment gives a name.  A value that has other characters than
figures is not meant for a number. -/
def sizeIn (environment : List (Text × Text)) (name : Text) :
    Except Text.NumeralError (Option Nat) :=
  match environment.find? (·.1 = name) with
  | some (_, s) =>
    if s.isEmpty || !s.all Text.isFigure then .ok none else (Text.readNat s).map some
  | none => .ok none

/-- The screen as an environment shows it, which may name another width.  The height does
not matter, but it has to be a number as well. -/
def under (screen : Screen) (environment : List (Text × Text)) :
    Except Text.NumeralError Screen := do
  let width ← sizeIn environment widthName
  let _ ← sizeIn environment heightName
  return { screen with width := width.getD screen.width }

/-- The lines of strips, each cut to the screen unless that is soft.  A screen without
cells shows nothing and refuses nothing. -/
def drawn (screen : Screen) (strips : Except MarkupFault (List Strip)) :
    Except MarkupFault (List Text) :=
  if screen.width = 0 then .ok []
  else strips.map fun lines => lines.map fun strip =>
    (if screen.isSoft then strip else strip.crop screen.width).text

/-- The lines of a text in a width, unless the screen is soft. -/
def arranged (screen : Screen) (limit : Nat) (side : Side) (m : Marked) : List Marked :=
  if screen.isSoft then m.lines.map expandTabs
  else (Layout.mk true .fold side).arrange limit m

/-- The lines of plain text. -/
def text (screen : Screen) (s : Text) : List Text :=
  if screen.width = 0 then []
  else (screen.arranged screen.width .free (.plain (sanitize s))).map (·.text)

/-- The lines of styled text. -/
def markup (screen : Screen) (s : Text) : Except MarkupFault (List Text) :=
  screen.drawn do Marked.strips (screen.arranged screen.width .free (← Marked.ofMarkup s))

/-- The lines of a table. -/
def table (screen : Screen) (t : Table) : Except MarkupFault (List Text) :=
  screen.drawn (t.lines screen.width)

/-- The lines of a table below a title. -/
def titledTable (screen : Screen) (title : Text) (t : Table) : Except MarkupFault (List Text) :=
  screen.drawn do
    let width := Table.taken (← t.widths screen.width) + t.frame
    let above ← Marked.strips (screen.arranged width .center (.plain title))
    return above ++ (← t.lines screen.width)

/-- The lines of a panel. -/
def panel (screen : Screen) (p : Panel) : Except MarkupFault (List Text) :=
  screen.drawn (p.lines screen.width)

/-- A rule over the whole width. -/
def rule (screen : Screen) : Text :=
  Text.repeated screen.width '─'

/-- A rule over the whole width with a title in its middle. -/
def titledRule (screen : Screen) (title : Marked) : Except MarkupFault Text :=
  let room := screen.width - 4
  if room = 0 then .ok screen.rule
  else
    let title := expandTabs { title with text := title.text.map fun c => if c = '\n' then ' ' else c }
    let title := title.withText (cut room .ellipsis title.text)
    match title.fault? with
    | some fault => .error fault
    | none =>
      let size := Console.width title.text
      let side := (screen.width - size) / 2
      let right := min (side + 1) (screen.width - (side - 1) - size)
      .ok (fit screen.width (Text.repeated (side - 1) '─' ++ ' ' :: title.text ++ ' ' ::
        Text.repeated right '─'))

end Screen

end TlaRunner.Console
