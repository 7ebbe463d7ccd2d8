import TlaRunner.Console.Cluster
import TlaRunner.Console.Marked

/-!
# Strips

A strip is a line of pieces that are drawn one after the other.  Each piece is
measured for itself, so a strip is as wide as its pieces together, whatever a joiner
at the end of one would do to the next.
-/

namespace TlaRunner.Console

/-- A line of pieces. -/
abbrev Strip := List Text

namespace Strip

/-- The text of a strip. -/
def text (strip : Strip) : Text :=
  strip.flatten

/-- The cells the pieces of a strip take together. -/
def cells : Strip → Nat
  | [] => 0
  | piece :: rest => width piece + cells rest

/-- The front of a strip that is wider than a limit. -/
def front (limit : Nat) : Strip → Strip
  | [] => []
  | piece :: rest =>
    if width piece < limit then piece :: front (limit - width piece) rest else [fit limit piece]

/-- A strip cut to a width. -/
def crop (limit : Nat) (strip : Strip) : Strip :=
  if strip.cells > limit then strip.front limit else strip

/-- A strip cut to a width, or filled up to it. -/
def fill (limit : Nat) (strip : Strip) : Strip :=
  if strip.cells < limit then strip ++ [Text.repeated (limit - strip.cells) ' ']
  else strip.crop limit

end Strip

end TlaRunner.Console
