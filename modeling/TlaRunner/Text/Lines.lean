import TlaRunner.Text.Basic

/-!
# Lines of a finished text

A finished text is cut at every line break of Unicode: line feed, carriage
return, the two together as one, vertical tab, form feed, the separators U+001C
to U+001E, U+0085, U+2028 and U+2029.  A break at the very end starts no further
line.
-/

namespace TlaRunner.Text

/-- Whether a character ends a line. -/
def isLineBreak (c : Char) : Bool :=
  (0x0A ≤ c.toNat && c.toNat ≤ 0x0D) || (0x1C ≤ c.toNat && c.toNat ≤ 0x1E)
    || c.toNat == 0x85 || c.toNat == 0x2028 || c.toNat == 0x2029

/-- The lines of a text behind the characters already read of the first one,
which are given last first.  The flag says that the last character read was a
carriage return, whose line feed belongs to the break. -/
def linesFrom (held : Text) (afterReturn : Bool) : Text → List Text
  | [] => if held.isEmpty then [] else [held.reverse]
  | c :: s =>
    if afterReturn && c = '\n' then linesFrom [] false s
    else if isLineBreak c then held.reverse :: linesFrom [] (c = '\r') s
    else linesFrom (c :: held) false s

/-- The lines of a text. -/
def lines (s : Text) : List Text :=
  linesFrom [] false s

example : lines "a\r\nb\rc\n\nd" = ["a".toList, "b".toList, "c".toList, [], "d".toList] := by
  decide

example : lines "a\n" = ["a".toList] := by decide

end TlaRunner.Text
