import TlaRunner.Text.Blank
import TlaRunner.Text.Digit
import TlaRunner.Text.Word

/-!
# Scanning

A scanner reads from the front of a text and either yields a value and the rest,
or fails.  Scanners compose as a state monad over `Option`.  Runs of characters
are read as far as they go, which loses nothing where the next thing expected
lies outside the run.  Where it does not, `shortest` and `longest` try every
length of a run on one line, in that order, and keep the first one after which
the given scanner succeeds.

`find` looks for the first place where a scanner succeeds, `findAll` goes on
behind each match, and `eraseAll` keeps what lies between the matches.
-/

namespace TlaRunner.Text

/-- A reader of the front of a text. -/
abbrev Scan := StateT Text Option

namespace Scan

/-- Reads one given text. -/
def literal (part : Text) : Scan Unit := fun s =>
  if startsWith part s then some ((), s.drop part.length) else none

/-- Reads characters of a class as far as they go. -/
def many (member : Char → Bool) : Scan Text := fun s =>
  some (s.takeWhile member, s.dropWhile member)

/-- Reads at least one character of a class. -/
def some1 (member : Char → Bool) : Scan Text := fun s =>
  let run := s.takeWhile member
  if run.isEmpty then none else some (run, s.dropWhile member)

/-- Reads a run of decimal digits. -/
def digits : Scan Text := some1 isDigit

/-- Tries a scanner, and reads nothing where it fails. -/
def optional {α : Type} (p : Scan α) : Scan (Option α) := fun s =>
  match p s with
  | some (a, rest) => some (some a, rest)
  | none => some (none, s)

/-- Succeeds at the end of the text, or before one last line feed. -/
def atEnd : Scan Unit := fun s =>
  if s = [] ∨ s = ['\n'] then some ((), s) else none

/-- A scanner behind an empty run, which is no match where a run is asked for. -/
def afterNone {α : Type} (least : Nat) (p : Scan α) (s : Text) : Option ((Text × α) × Text) :=
  if least = 0 then (p s).map fun found => (([], found.1), found.2) else none

/-- A match whose run has one more character in front. -/
def longer {α : Type} (c : Char) (found : (Text × α) × Text) : (Text × α) × Text :=
  ((c :: found.1.1, found.1.2), found.2)

/-- Reads the shortest run of at least `least` characters without a line feed
after which a scanner succeeds, and what that scanner reads. -/
def shortest {α : Type} (p : Scan α) : (least : Nat) → Scan (Text × α)
  | least, [] => afterNone least p []
  | least, c :: s =>
    match afterNone least p (c :: s) with
    | some found => some found
    | none => if c = '\n' then none else (shortest p (least - 1) s).map (longer c)

/-- Reads the longest run of at least `least` characters without a line feed
after which a scanner succeeds, and what that scanner reads. -/
def longest {α : Type} (p : Scan α) : (least : Nat) → Scan (Text × α)
  | least, [] => afterNone least p []
  | least, c :: s =>
    match (if c = '\n' then none else (longest p (least - 1) s).map (longer c)) with
    | some found => some found
    | none => afterNone least p (c :: s)

/-- The first match of a scanner anywhere in a text, and the text behind it. -/
def find {α : Type} (p : Scan α) : Text → Option (α × Text)
  | [] => p []
  | c :: s =>
    match p (c :: s) with
    | some found => some found
    | none => find p s

/-- The value of the first match of a scanner anywhere in a text. -/
def search {α : Type} (p : Scan α) (s : Text) : Option α :=
  (find p s).map (·.1)

/-- The value of a match at the front of a text. -/
def front {α : Type} (p : Scan α) (s : Text) : Option α :=
  (p s).map (·.1)

/-- The values of the matches of a scanner from left to right, none of which
overlap.  `skip` counts the characters of the last match still to be passed. -/
def findAllFrom {α : Type} (p : Scan α) (skip : Nat) : Text → List α
  | [] => []
  | c :: s =>
    match skip with
    | n + 1 => findAllFrom p n s
    | 0 =>
      match p (c :: s) with
      | some (a, rest) => a :: findAllFrom p (s.length - rest.length) s
      | none => findAllFrom p 0 s

/-- The values of the matches of a scanner that reads at least one character. -/
def findAll {α : Type} (p : Scan α) (s : Text) : List α :=
  findAllFrom p 0 s

/-- The characters outside the matches of a scanner. -/
def eraseAllFrom {α : Type} (p : Scan α) (skip : Nat) : Text → Text
  | [] => []
  | c :: s =>
    match skip with
    | n + 1 => eraseAllFrom p n s
    | 0 =>
      match p (c :: s) with
      | some (_, rest) => eraseAllFrom p (s.length - rest.length) s
      | none => c :: eraseAllFrom p 0 s

/-- A text without the matches of a scanner that reads at least one character. -/
def eraseAll {α : Type} (p : Scan α) (s : Text) : Text :=
  eraseAllFrom p 0 s

end Scan

end TlaRunner.Text
