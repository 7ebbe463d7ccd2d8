import TlaRunner.Text.Basic

/-!
# Marked text

A marked text has marks on some of its parts, each with the name of a style.  Marks
may overlap and may be empty.  The text is drawn in the pieces between the ends of its
marks.

`divide` cuts a marked text at places.  A part keeps the marks that cover some of it,
so cutting drops the empty ones, unless there is no place to cut at.  A text that
becomes shorter loses the marks that start behind its end.
-/

namespace TlaRunner.Console

/-- A mark on a part of a text. -/
structure Mark where
  /-- The place where it starts. -/
  start : Nat
  /-- The place behind its end. -/
  stop : Nat
  /-- The words that name its style. -/
  style : Text
  deriving DecidableEq, Repr

/-- A text with marks. -/
structure Marked where
  /-- The text. -/
  text : Text
  /-- The marks. -/
  marks : List Mark
  deriving DecidableEq, Repr

/-- Moves a mark to the right. -/
def Mark.shift (distance : Nat) (m : Mark) : Mark :=
  ⟨m.start + distance, m.stop + distance, m.style⟩

/-- What is left of a mark in a shorter text. -/
def Mark.crop (size : Nat) (m : Mark) : Option Mark :=
  if m.start < size then some ⟨m.start, min size m.stop, m.style⟩ else none

/-- What a part of the text keeps of a mark. -/
def Mark.part (start stop : Nat) (m : Mark) : Option Mark :=
  let first := m.start - start
  let last := min m.stop stop - start
  if first < last then some ⟨first, last, m.style⟩ else none

/-- A mark that reaches the end of a text, when the text is made longer there. -/
def Mark.stretch (size spaces : Nat) (m : Mark) : Mark :=
  if size ≤ m.stop then ⟨m.start, m.stop + spaces, m.style⟩ else m

namespace Marked

/-- A text without marks. -/
def plain (s : Text) : Marked :=
  ⟨s, []⟩

/-- A marked text with another text, in which the marks keep their places. -/
def withText (m : Marked) (s : Text) : Marked :=
  ⟨s, if s.length < m.text.length then m.marks.filterMap (·.crop s.length) else m.marks⟩

/-- The part of a marked text between two places. -/
def part (m : Marked) (start stop : Nat) : Marked :=
  ⟨(m.text.drop start).take (stop - start), m.marks.filterMap (·.part start stop)⟩

/-- The parts of a marked text behind a place. -/
def partsFrom (m : Marked) (start : Nat) : List Nat → List Marked
  | [] => [m.part start m.text.length]
  | stop :: rest => m.part start stop :: m.partsFrom stop rest

/-- Cuts a marked text at places. -/
def divide (m : Marked) (places : List Nat) : List Marked :=
  if places.isEmpty then [m] else m.partsFrom 0 places

/-- The places of a character in a text that starts at a place. -/
def placesFrom (c : Char) (place : Nat) : Text → List Nat
  | [] => []
  | d :: s => if d = c then place :: placesFrom c (place + 1) s else placesFrom c (place + 1) s

/-- The parts between places, whose characters belong to no part. -/
def gapsFrom (m : Marked) (start : Nat) : List Nat → List Marked
  | [] => [m.part start m.text.length]
  | stop :: rest => m.part start stop :: m.gapsFrom (stop + 1) rest

/-- The lines of a marked text. -/
def lines (m : Marked) : List Marked :=
  let places := placesFrom '\n' 0 m.text
  if places.isEmpty then [m] else m.gapsFrom 0 places

/-- The marks of parts that are put one behind the other, from a place on. -/
def marksFrom (place : Nat) : List Marked → List Mark
  | [] => []
  | m :: rest => m.marks.map (·.shift place) ++ marksFrom (place + m.text.length) rest

/-- Puts parts one behind the other. -/
def joined (parts : List Marked) : Marked :=
  ⟨parts.flatMap (·.text), marksFrom 0 parts⟩

/-- A marked text with spaces before it. -/
def padLeft (spaces : Nat) (m : Marked) : Marked :=
  ⟨Text.repeated spaces ' ' ++ m.text, m.marks.map (·.shift spaces)⟩

/-- A marked text with spaces behind it, which belong to the marks that reach its end. -/
def stretch (spaces : Nat) (m : Marked) : Marked :=
  ⟨m.text ++ Text.repeated spaces ' ', m.marks.map (·.stretch m.text.length spaces)⟩

/-- Whether a mark starts or ends at a place. -/
def isEdge (m : Marked) (place : Nat) : Bool :=
  m.marks.any fun mark => mark.start = place || mark.stop = place

/-- The pieces of the rest of the text, which starts at a place.  `held` is the current
piece, last character first. -/
def piecesFrom (m : Marked) (place : Nat) (held : Text) : Text → List Text
  | [] => if held.isEmpty then [] else [held.reverse]
  | c :: s =>
    if m.isEdge place && !held.isEmpty then held.reverse :: m.piecesFrom (place + 1) [c] s
    else m.piecesFrom (place + 1) (c :: held) s

/-- The pieces in which a marked text is drawn. -/
def pieces (m : Marked) : List Text :=
  if m.marks.isEmpty then [m.text] else m.piecesFrom 0 [] m.text

end Marked

end TlaRunner.Console
