import TlaRunner.Text.Numeral
import TlaRunner.Text.Scan

/-!
# Java versions

A Java runtime tells its version between double quotes behind the word `version`.
Up to version eight the first number was a one and the second one counted, so the
major version of `1.8.0` is eight.  Versions below `leastMajor` are not supported.
-/

namespace TlaRunner.Java

open Text (Scan)

/-- The text that stands for a version that was not told. -/
def unknownVersion : Text := ['?']

/-- The least major version that is supported. -/
def leastMajor : Nat := 8

/-- Reads a version. -/
def versionPhrase : Scan Text := do
  Scan.literal "version \"".toList
  let version ← Scan.some1 (· ≠ '"')
  Scan.literal ['"']
  return version

/-- The version of a runtime and what the runtime printed. -/
structure Version where
  /-- The version. -/
  text : Text
  /-- The lines. -/
  output : List Text
  deriving DecidableEq, Repr

namespace Version

/-- The version that lines tell. -/
def ofLines (lines : List Text) : Version :=
  ⟨(lines.findSome? (Scan.search versionPhrase)).getD unknownVersion, lines⟩

/-- The major version, if the version starts with a number. -/
def major (v : Version) : Except Text.NumeralError (Option Nat) :=
  let number := if Text.startsWith "1.".toList v.text then v.text.drop 2 else v.text
  let digits := number.takeWhile Text.isDigit
  if digits.isEmpty then .ok none else (Text.readNat digits).map some

/-- Whether the version is supported. -/
def supported (v : Version) : Except Text.NumeralError Bool :=
  v.major.map fun major => match major with
    | some n => decide (leastMajor ≤ n)
    | none => false

/-- Whether no version was told. -/
def isUnknown (v : Version) : Bool :=
  v.text = unknownVersion

end Version

end TlaRunner.Java
