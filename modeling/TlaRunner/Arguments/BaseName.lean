import TlaRunner.Text.Basic

/-!
# Final names in command-line paths

Options hold paths of any system.  A path with a backslash is cut as on
Windows: both slashes separate, and a drive letter, a server share or a device
name in front is no part of any name.  Every other path is cut at `/` alone.
-/

namespace TlaRunner.Arguments

/-- Whether a character separates the names of a Windows path. -/
def isEitherSlash (c : Char) : Bool :=
  c = '\\' || c = '/'

/-- The index of the first slash at or behind an index. -/
def slashFrom (s : Text) (start : Nat) : Option Nat :=
  ((s.drop start).findIdx? isEitherSlash).map (· + start)

/-- Whether a path begins with the mark of an extended server path. -/
def startsExtendedShare (s : Text) : Bool :=
  (s.take 8).map (fun c => if c = '/' then '\\' else c.toUpper) = "\\\\?\\UNC\\".toList

/-- A Windows path behind its drive letter, share or device name. -/
def afterDrive (s : Text) : Text :=
  match s with
  | a :: b :: _ =>
    if isEitherSlash a && isEitherSlash b then
      match slashFrom s (if startsExtendedShare s then 8 else 2) with
      | none => []
      | some server =>
        match slashFrom s (server + 1) with
        | none => []
        | some share => s.drop share
    else if b = ':' then s.drop 2
    else s
  | _ => s

/-- The final name of a path, empty behind a trailing slash. -/
def baseName (s : Text) : Text :=
  if s.contains '\\' then ((afterDrive s).reverse.takeWhile (!isEitherSlash ·)).reverse
  else Text.afterLast '/' s

/-- A name without its suffix.  Leading dots start no suffix. -/
def dropSuffix (name : Text) : Text :=
  let ending := Text.afterLast '.' name
  let stemLength := name.length - ending.length - 1
  if ending.length = name.length || (name.take stemLength).all (· = '.') then name
  else name.take stemLength

/-- The final name of a path without its suffix. -/
def stem (s : Text) : Text :=
  dropSuffix (baseName s)

example : baseName "C:\\specs\\a.b.tla" = "a.b.tla".toList := by decide

example : stem "/specs/...a.b" = "...a".toList := by decide

end TlaRunner.Arguments
