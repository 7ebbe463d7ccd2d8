import TlaRunner.Path
import TlaRunner.Text.Utf8

/-!
# File trees

A `Tree` is what a machine keeps on its disk: files, directories and symbolic
links, each under its absolute name.  A directory is there as soon as something
lies below it.

`walk` follows a path the way an operating system does.  Every name before the
last must lead to a directory; `..` leads to the directory above the one that was
reached, which differs from the one written before it when that was a link; a
link is replaced by its target, at most `linkLimit` times.  Names and paths have a
greatest size, and a path with a zero byte leads nowhere.  `resolve` computes the
absolute name of a path without links.  It does not ask whether anything is there:
missing names are kept, and a link that leads back to itself ends the work with
the rest of the path kept as it is.
-/

namespace TlaRunner.Files

/-- The names below the root, outermost first. -/
abbrev Names := List Text

/-- Something in a tree. -/
inductive Node
  /-- A file, and whether it may be executed. -/
  | file (content : Bytes) (executable : Bool)
  | directory
  /-- A symbolic link. -/
  | link (target : Path)
  deriving DecidableEq, Repr

/-- Nodes under their absolute names.  The first of two entries of one name counts. -/
abbrev Tree := List (Names × Node)

/-- Why a path leads nowhere. -/
inductive Obstacle
  /-- A name is missing. -/
  | missing
  /-- A name before the last is no directory. -/
  | notDirectory
  /-- There are too many links. -/
  | tooManyLinks
  /-- A directory stands where a file is needed. -/
  | isDirectory
  /-- A name or the path is too long. -/
  | nameTooLong
  deriving DecidableEq, Repr

namespace Obstacle

/-- The number of an obstacle among the errors of the system. -/
def number : Obstacle → Nat
  | missing => 2
  | notDirectory => 20
  | isDirectory => 21
  | nameTooLong => 36
  | tooManyLinks => 40

/-- The wording of an obstacle. -/
def description : Obstacle → Text
  | missing => "No such file or directory".toList
  | notDirectory => "Not a directory".toList
  | isDirectory => "Is a directory".toList
  | nameTooLong => "File name too long".toList
  | tooManyLinks => "Too many levels of symbolic links".toList

/-- The wording of an obstacle on a path. -/
def message (obstacle : Obstacle) (p : Path) : Text :=
  "[Errno ".toList ++ Text.ofNat obstacle.number ++ "] ".toList ++ obstacle.description
    ++ ": ".toList ++ Text.quoted p.toText

end Obstacle

namespace Tree

/-- What an absolute name stands for. -/
def node? (t : Tree) (names : Names) : Option Node :=
  match t.find? (·.1 = names) with
  | some entry => some entry.2
  | none => if names.isEmpty || t.any (fun e => names.isPrefixOf e.1) then some .directory else none

/-- Sets a node. -/
def set (t : Tree) (names : Names) (node : Node) : Tree :=
  match t with
  | [] => [(names, node)]
  | (n, old) :: rest => if n = names then (n, node) :: rest else (n, old) :: set rest names node

/-! ## Following a path -/

/-- How many bytes a name may take. -/
def nameLimit : Nat := 255

/-- How many bytes a path may take. -/
def pathLimit : Nat := 4095

/-- How many links are followed for one path. -/
def linkLimit : Nat := 40

/-- Where a walk stands after names without a link to follow. -/
inductive Stop
  /-- At a node. -/
  | there (names : Names) (node : Node)
  /-- At a name that is free, in a directory that is there. -/
  | vacant (names : Names)
  /-- At a link, with the directory it lies in and the names behind it. -/
  | atLink (dir : Names) (target : Path) (rest : Names)
  /-- At a name that leads no further. -/
  | blocked (obstacle : Obstacle)
  deriving DecidableEq, Repr

/-- Follows names from a directory, up to the first link. -/
def advance (t : Tree) (current : Names) : Names → Stop
  | [] => .there current .directory
  | name :: rest =>
    if name = "..".toList then advance t current.dropLast rest
    else
      let here := current ++ [name]
      if (Text.encode name).length > nameLimit then .blocked .nameTooLong
      else match t.node? here with
      | none => if rest.isEmpty then .vacant here else .blocked .missing
      | some (.link target) => .atLink current target rest
      | some .directory => advance t here rest
      | some (.file content executable) =>
        if rest.isEmpty then .there here (.file content executable) else .blocked .notDirectory

/-- The directory a path starts from. -/
def startOf (cwd : Names) (p : Path) : Names :=
  if p.isAbsolute then [] else cwd

/-- Follows names from a directory, and links while the limit allows. -/
def walkFrom (t : Tree) : (links : Nat) → (current names : Names) → Stop
  | 0, current, names =>
    match advance t current names with
    | .atLink .. => .blocked .tooManyLinks
    | stop => stop
  | links + 1, current, names =>
    match advance t current names with
    | .atLink dir target rest => walkFrom t links (startOf dir target) (target.names ++ rest)
    | stop => stop

/-- Follows a path from a working directory. -/
def walk (t : Tree) (cwd : Names) (p : Path) : Stop :=
  if p.hasZero then .blocked .missing
  else if (Text.encode p.toText).length > pathLimit then .blocked .nameTooLong
  else walkFrom t linkLimit (startOf cwd p) p.names

/-- The node a path leads to. -/
def find (t : Tree) (cwd : Names) (p : Path) : Except Obstacle Node :=
  match t.walk cwd p with
  | .there _ node => .ok node
  | .blocked obstacle => .error obstacle
  | _ => .error .missing

/-- Whether a path leads to a file that may be executed. -/
def isExecutable (t : Tree) (cwd : Names) (p : Path) : Bool :=
  match t.find cwd p with
  | .ok (.file _ executable) => executable
  | _ => false

/-- Empties the file a path leads to, or makes one: its absolute name and the tree
with it. -/
def openForWriting (t : Tree) (cwd : Names) (p : Path) : Except Obstacle (Names × Tree) :=
  match t.walk cwd p with
  | .there names (.file _ executable) => .ok (names, t.set names (.file [] executable))
  | .there .. => .error .isDirectory
  | .vacant names => .ok (names, t.set names (.file [] false))
  | .blocked obstacle => .error obstacle
  | .atLink .. => .error .tooManyLinks

/-- Writes bytes into a file from an offset on, over what is there; a gap is filled
with zeros.  A file that is given no bytes stays as it is: the gap is not filled. -/
def writeAt (t : Tree) (names : Names) (offset : Nat) (bytes : Bytes) : Tree :=
  match bytes, t.node? names with
  | [], _ => t
  | _, some (.file old executable) =>
    let front := old.take offset ++ List.replicate (offset - old.length) 0
    t.set names (.file (front ++ bytes ++ old.drop (offset + bytes.length)) executable)
  | _, _ => t

/-! ## Names without links -/

/-- Names that start at the root or at a working directory.  In the second case some
`..` may stand in front. -/
structure Place where
  /-- Whether they start at the root. -/
  rooted : Bool
  /-- The names. -/
  names : Names
  deriving DecidableEq, Repr

/-- Names with every `..` taken together with the name before it. -/
def collapse (names : Names) : Names :=
  names.foldl (fun done name => if name = "..".toList then done.dropLast else done ++ [name]) []

namespace Place

/-- The absolute names of a place. -/
def absolute (cwd : Names) (p : Place) : Names :=
  collapse (if p.rooted then p.names else cwd ++ p.names)

/-- The place above. -/
def parent (p : Place) : Place :=
  if p.rooted || (p.names.getLast?.any (· ≠ "..".toList)) then { p with names := p.names.dropLast }
  else { p with names := p.names ++ ["..".toList] }

/-- A place below. -/
def below (p : Place) (names : Names) : Place :=
  { p with names := p.names ++ names }

end Place

/-- A path while its links are replaced. -/
structure Resolving where
  /-- What was reached. -/
  place : Place
  /-- The links met so far with what they stand for, unless they are being replaced. -/
  met : List (Place × Option Place)
  /-- Whether a link led back to itself.  From then on names are kept as they are. -/
  looped : Bool
  deriving DecidableEq, Repr

/-- Appends names and replaces links.  `depth` bounds how deep links of links are
followed; every link in the tree has at most two places. -/
def resolveFrom (t : Tree) (cwd : Names) : (depth : Nat) → Resolving → Names → Resolving
  | 0, r, names => { r with place := r.place.below names, looped := true }
  | depth + 1, r, names =>
    names.foldl (fun r name =>
      if r.looped then { r with place := r.place.below [name] }
      else if name = "..".toList then { r with place := r.place.parent }
      else
        let here := r.place.below [name]
        match t.node? (here.absolute cwd) with
        | some (.link target) =>
          match r.met.find? (·.1 = here) with
          | some (_, some known) => { r with place := known }
          | some (_, none) => { r with place := here, looped := true }
          | none =>
            let start := if target.isAbsolute then ⟨true, []⟩ else r.place
            let inner := resolveFrom t cwd depth
              { r with place := start, met := (here, none) :: r.met } target.names
            { inner with met := (here, some inner.place) :: inner.met }
        | _ => { r with place := here }) r

/-- How many links a tree has. -/
def linkCount (t : Tree) : Nat :=
  (t.filter fun e => match e.2 with
    | .link _ => true
    | _ => false).length

/-- The absolute name of a path without links, as far as there are any. -/
def resolve (t : Tree) (cwd : Names) (p : Path) : Names :=
  (t.resolveFrom cwd (2 * t.linkCount + 1) ⟨⟨p.isAbsolute, []⟩, [], false⟩ p.names).place.absolute
    cwd

end Tree

end TlaRunner.Files
