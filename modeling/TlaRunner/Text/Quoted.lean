import TlaRunner.Text.Printable

/-!
# Quoted text

Messages show a text between quotes.  The quotes are single, unless the text
holds a single quote and no double one.  A backslash, the quote in use and every
character that is not printable is written as an escape: `\t`, `\n` and `\r` by
name, the rest by the shortest of `\xhh`, `\uhhhh` and `\Uhhhhhhhh`.
-/

namespace TlaRunner.Text

/-- The quote that surrounds a text. -/
def quoteFor (s : Text) : Char :=
  if s.contains '\'' && !s.contains '"' then '"' else '\''

/-- A code point in lower-case hexadecimal of a fixed width. -/
def hex (width code : Nat) : Text :=
  padLeft width '0' (Nat.toDigits 16 code)

/-- One character of quoted text. -/
def quoteChar (quote c : Char) : Text :=
  if c = quote ∨ c = '\\' then ['\\', c]
  else if c = '\t' then ['\\', 't']
  else if c = '\n' then ['\\', 'n']
  else if c = '\r' then ['\\', 'r']
  else if isPrintable c then [c]
  else if c.toNat < 0x100 then '\\' :: 'x' :: hex 2 c.toNat
  else if c.toNat < 0x10000 then '\\' :: 'u' :: hex 4 c.toNat
  else '\\' :: 'U' :: hex 8 c.toNat

/-- A text between quotes. -/
def quoted (s : Text) : Text :=
  quoteFor s :: s.flatMap (quoteChar (quoteFor s)) ++ [quoteFor s]

example : quoted "it's" = "\"it's\"".toList := by decide

example : quoted "a\n'\"" = "'a\\n\\'\"'".toList := by decide

end TlaRunner.Text
