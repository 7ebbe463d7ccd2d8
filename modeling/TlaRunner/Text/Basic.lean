/-!
# Text

A text is a list of characters.  Everything the program reads, compares and
writes is a text, so every definition on it is a recursion on a list and a
closed question about one is settled by evaluation.

This module holds the few operations that are not already operations on lists:
search, replacement, and cutting at a separator.
-/

namespace TlaRunner

/-- A sequence of characters. -/
abbrev Text := List Char

/-- A sequence of bytes. -/
abbrev Bytes := List UInt8

instance : Coe String Text := ⟨String.toList⟩

namespace Text

/-- The texts of a list, with a separator between neighbours. -/
def join (separator : Text) (parts : List Text) : Text :=
  separator.intercalate parts

/-- Whether a text begins with the first argument. -/
def startsWith (start s : Text) : Bool :=
  start.isPrefixOf s

/-- Whether a text ends with the first argument. -/
def endsWith (ending s : Text) : Bool :=
  ending.isSuffixOf s

/-- Whether the first argument occurs in the second. -/
def occursIn (part : Text) : Text → Bool
  | [] => part.isEmpty
  | c :: s => startsWith part (c :: s) || occursIn part s

/-- A text without one given ending, if it has that ending. -/
def dropEnding (ending s : Text) : Text :=
  if endsWith ending s then s.take (s.length - ending.length) else s

/-- The pieces between the occurrences of a character.  There is always one piece. -/
def cutAt (separator : Char) : Text → List Text
  | [] => [[]]
  | c :: s =>
    if c = separator then [] :: cutAt separator s
    else
      match cutAt separator s with
      | [] => [[c]]
      | piece :: rest => (c :: piece) :: rest

/-- Replaces the occurrences of a part from the left.  `skip` counts the
characters of a replaced occurrence that are still to be passed over. -/
def replaceFrom (part replacement : Text) (skip : Nat) : Text → Text
  | [] => []
  | c :: s =>
    match skip with
    | n + 1 => replaceFrom part replacement n s
    | 0 =>
      if startsWith part (c :: s) then
        replacement ++ replaceFrom part replacement (part.length - 1) s
      else c :: replaceFrom part replacement 0 s

/-- Replaces every occurrence of a nonempty part. -/
def replace (part replacement s : Text) : Text :=
  replaceFrom part replacement 0 s

/-- The text after the last occurrence of a character, or the whole text. -/
def afterLast (mark : Char) (s : Text) : Text :=
  (s.reverse.takeWhile (· ≠ mark)).reverse

/-- The decimal numeral of a natural number. -/
def ofNat (n : Nat) : Text :=
  Nat.toDigits 10 n

/-- The decimal numeral of an integer. -/
def ofInt : Int → Text
  | .ofNat n => ofNat n
  | .negSucc n => '-' :: ofNat (n + 1)

/-- A text repeated. -/
def repeated (n : Nat) (c : Char) : Text :=
  List.replicate n c

/-- Fills a text up to a width on its left. -/
def padLeft (width : Nat) (fill : Char) (s : Text) : Text :=
  List.replicate (width - s.length) fill ++ s

/-- The lower-case form of an ASCII letter; every other character is kept. -/
def lower (s : Text) : Text :=
  s.map Char.toLower

/-- The order of texts by code points. -/
def le : Text → Text → Bool
  | [], _ => true
  | _ :: _, [] => false
  | a :: s, b :: t => a.toNat < b.toNat || (a.toNat == b.toNat && le s t)

end Text

end TlaRunner
