import TlaRunner.Text.Basic

/-!
# Blank characters

A blank is a character with the Unicode property of white space, or one of the
four information separators U+001C to U+001F.  Zero-width spaces are not blank.
-/

namespace TlaRunner.Text

/-- The ranges of blank characters. -/
def blankRanges : List (Nat × Nat) := [
  (0x0009, 0x000D), (0x001C, 0x0020), (0x0085, 0x0085), (0x00A0, 0x00A0), (0x1680, 0x1680),
  (0x2000, 0x200A), (0x2028, 0x2029), (0x202F, 0x202F), (0x205F, 0x205F), (0x3000, 0x3000)]

/-- Whether a character is white space. -/
def isBlank (c : Char) : Bool :=
  blankRanges.any fun range => range.1 ≤ c.toNat && c.toNat ≤ range.2

/-- A text without the blanks at its front. -/
def stripFront (s : Text) : Text :=
  s.dropWhile isBlank

/-- A text without the blanks at either end. -/
def strip (s : Text) : Text :=
  (stripFront (stripFront s).reverse).reverse

/-- Whether a text has nothing but blanks. -/
def allBlank (s : Text) : Bool :=
  s.all isBlank

end TlaRunner.Text
