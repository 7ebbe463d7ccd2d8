import TlaRunner.Text.Quoted

/-!
# Paths

A path is a sequence of names, possibly below the root.  Reading a path drops
empty names and the name `.`, so doubled and trailing slashes leave no trace,
while `..` is kept, because its meaning depends on links.  Exactly two leading
slashes form a root of their own; three or more are the plain root.

The suffix of a name starts at its last dot, unless that is its first or last
character.  `withSuffix` and `withName` need a path with a name.
-/

namespace TlaRunner

/-- Where a path starts. -/
inductive Anchor
  /-- At a working directory. -/
  | relative
  /-- At the root. -/
  | root
  /-- At the root written with two slashes. -/
  | doubleRoot
  deriving DecidableEq, Repr

/-- The names of a path and the place it starts from. -/
structure Path where
  /-- The start. -/
  anchor : Anchor
  /-- The names, outermost first. -/
  names : List Text
  deriving DecidableEq, Repr

/-- A path without a final name was asked for a sibling. -/
structure NamelessPath where
  /-- The path. -/
  path : Path
  deriving DecidableEq, Repr

namespace Path

/-- The start that the leading slashes of a text stand for. -/
def anchorOf (s : Text) : Anchor :=
  match (s.takeWhile (· = '/')).length with
  | 0 => .relative
  | 2 => .doubleRoot
  | _ => .root

/-- Whether a piece between slashes is a name. -/
def isName (piece : Text) : Bool :=
  !piece.isEmpty && piece ≠ ['.']

/-- Reads a path. -/
def ofText (s : Text) : Path :=
  ⟨anchorOf s, (Text.cutAt '/' s).filter isName⟩

/-- The slashes a path starts with. -/
def slashes : Anchor → Text
  | .relative => []
  | .root => ['/']
  | .doubleRoot => ['/', '/']

/-- The text of a path; the empty relative path is written `.`. -/
def toText (p : Path) : Text :=
  match p.anchor, p.names with
  | .relative, [] => ['.']
  | anchor, names => slashes anchor ++ Text.join ['/'] names

/-- Whether a path starts at a root. -/
def isAbsolute (p : Path) : Bool :=
  p.anchor ≠ .relative

/-- Whether a path holds the character that ends the texts of the system. -/
def hasZero (p : Path) : Bool :=
  p.names.any (·.contains '\x00')

/-- The final name, empty if there is none. -/
def name (p : Path) : Text :=
  p.names.getLastD []

/-- The path without its final name. -/
def parent (p : Path) : Path :=
  ⟨p.anchor, p.names.dropLast⟩

/-- A path below a directory; an absolute path stays as it is. -/
def join (dir p : Path) : Path :=
  if p.isAbsolute then p else ⟨dir.anchor, dir.names ++ p.names⟩

/-- A name cut before its last dot, if that is neither the first nor the last
character. -/
def splitName (name : Text) : Text × Text :=
  let ending := (name.reverse.takeWhile (· ≠ '.')).reverse
  let stemLength := name.length - ending.length - 1
  if ending.isEmpty || name.length ≤ ending.length + 1 then (name, [])
  else (name.take stemLength, name.drop stemLength)

/-- The final name without its suffix. -/
def stem (p : Path) : Text :=
  (splitName p.name).1

/-- The suffix of the final name, with its dot, or nothing. -/
def suffix (p : Path) : Text :=
  (splitName p.name).2

/-- The path with another final name. -/
def withName (p : Path) (name : Text) : Except NamelessPath Path :=
  if p.names.isEmpty then .error ⟨p⟩ else .ok ⟨p.anchor, p.names.dropLast ++ [name]⟩

/-- The path with another suffix on its final name. -/
def withSuffix (p : Path) (suffix : Text) : Except NamelessPath Path :=
  p.withName (p.stem ++ suffix)

end Path

/-- The wording of a missing name. -/
def NamelessPath.message (e : NamelessPath) : Text :=
  "PosixPath(".toList ++ Text.quoted e.path.toText ++ ") has an empty name".toList

example : (Path.ofText "a//b/./c.tla/").toText = "a/b/c.tla".toList := by decide

example : (Path.ofText ".tla").suffix = [] ∧ (Path.ofText "a.b.").suffix = [] := by decide

end TlaRunner
