import TlaRunner.Toml.Scalar

/-!
# Documents of the settings format

A document is a sequence of lines, each with a key and its value, or the header
of a table or of an array of tables.  Keys may be dotted.

Three rules keep a document from saying a thing twice.  A key is set once.  A
table has one header, and a table that a dotted key opened gets none later.  An
inline table or an array is complete where it is written, so nothing below it is
ever added.  `Marks` remembers what the last two rules need.
-/

namespace TlaRunner.Toml

open Text (Scan)
open Value (Table)

/-! ## Keys -/

/-- Whether a character can stand in a key without quotes. -/
def isKeyChar (c : Char) : Bool :=
  ('a' ≤ c && c ≤ 'z') || ('A' ≤ c && c ≤ 'Z') || c.isDigit || c = '-' || c = '_'

/-- Reads one part of a key. -/
def keyPart : Read Text := do
  if ← accept (Scan.literal ['\'']) then literalString
  else if ← accept (Scan.literal ['"']) then basicString false
  else expect (Scan.some1 isKeyChar)

/-- Reads the parts of a key behind the first. -/
def moreParts : (fuel : Nat) → Read (List Text)
  | 0 => refuse
  | fuel + 1 => do
    skipSpace
    if ← accept (Scan.literal ['.']) then
      skipSpace
      let part ← keyPart
      return part :: (← moreParts fuel)
    else return []

/-- Reads a key. -/
def key : Read (List Text) := do
  let first ← keyPart
  let rest ← moreParts ((← get).length + 1)
  return first :: rest

/-! ## Tables -/

/-- Changes the table at the end of a path, which is opened where it is missing.
The last element of an array of tables stands for the array, if `intoArrays`. -/
def modifyAt (intoArrays : Bool) (f : Table → Option Table) : List Text → Table → Option Table
  | [], t => f t
  | k :: path, t =>
    match Table.get? t k with
    | none => (modifyAt intoArrays f path []).map fun inner => Table.set t k (.table inner)
    | some (.table inner) =>
      (modifyAt intoArrays f path inner).map fun inner => Table.set t k (.table inner)
    | some (.list items) =>
      match intoArrays, items.reverse with
      | true, .table inner :: before =>
        (modifyAt intoArrays f path inner).map fun inner =>
          Table.set t k (.list (Value.table inner :: before).reverse)
      | _, _ => none
    | some _ => none

/-- Sets a new key. -/
def insertNew (k : Text) (value : Value) (t : Table) : Option Table :=
  if (Table.get? t k).isSome then none else some (Table.set t k value)

/-- Appends an empty table to an array of tables, which is opened if missing. -/
def appendTable (k : Text) (t : Table) : Option Table :=
  match Table.get? t k with
  | none => some (Table.set t k (.list [.table []]))
  | some (.list items) => some (Table.set t k (.list (items ++ [.table []])))
  | some _ => none

/-- What may no longer be opened or changed. -/
structure Marks where
  /-- The tables that have a header or were opened by a dotted key. -/
  opened : List (List Text)
  /-- The inline tables and arrays. -/
  complete : List (List Text)
  /-- The tables opened by dotted keys since the last header. -/
  pending : List (List Text)
  deriving DecidableEq, Repr

namespace Marks

/-- Nothing is marked. -/
def none : Marks := ⟨[], [], []⟩

/-- Whether a table was opened for good. -/
def isOpened (m : Marks) (path : List Text) : Bool :=
  m.opened.contains path

/-- Whether a path lies at or below something complete. -/
def isComplete (m : Marks) (path : List Text) : Bool :=
  m.complete.any (·.isPrefixOf path)

/-- Marks a table as opened. -/
def openAt (m : Marks) (path : List Text) : Marks :=
  { m with opened := path :: m.opened }

/-- Marks a path as complete. -/
def finish (m : Marks) (path : List Text) : Marks :=
  { m with complete := path :: m.complete }

/-- Marks the tables that dotted keys opened before a header. -/
def settle (m : Marks) : Marks :=
  { m with opened := m.pending ++ m.opened, pending := [] }

/-- Forgets everything at or below a path, which names a new table from now on. -/
def forget (m : Marks) (path : List Text) : Marks :=
  { m with
    opened := m.opened.filter (!path.isPrefixOf ·)
    complete := m.complete.filter (!path.isPrefixOf ·) }

end Marks

/-! ## Values -/

/-- Passes over a comment. -/
def skipComment : Read Unit := fun s =>
  match s with
  | '#' :: rest =>
    if (rest.takeWhile (· ≠ '\n')).any isControl then .error .malformed
    else .ok ((), rest.dropWhile (· ≠ '\n'))
  | _ => .ok ((), s)

/-- Passes over blanks, line breaks and comments. -/
def skipFiller : (fuel : Nat) → Read Unit
  | 0 => refuse
  | fuel + 1 => do
    modify (·.dropWhile fun c => isSpace c || c = '\n')
    match ← get with
    | '#' :: _ =>
      skipComment
      skipFiller fuel
    | _ => return ()

/-- Passes over blanks, line breaks and comments. -/
def skipAll : Read Unit := do
  skipFiller ((← get).length + 1)

/-- Whether a value is complete where it is written. -/
def isContainer : Value → Bool
  | .list _ => true
  | .table _ => true
  | _ => false

/-- An inline table while it is read. -/
structure Inline where
  /-- Its entries. -/
  entries : Table
  /-- The complete paths in it. -/
  marks : Marks

/-- Adds a key to an inline table. -/
def Inline.add (t : Inline) (path : List Text) (value : Value) : Option Inline :=
  if t.marks.isComplete path then none
  else
    (modifyAt false (insertNew (path.getLastD []) value) path.dropLast t.entries).map
      fun entries => ⟨entries, if isContainer value then t.marks.finish path else t.marks⟩

mutual

/-- Reads a value. -/
def value : (fuel : Nat) → Read Value
  | 0 => refuse
  | fuel + 1 => do
    match ← string? with
    | some s => return .text s
    | none =>
      if ← accept (Scan.literal "true".toList) then return .bool true
      else if ← accept (Scan.literal "false".toList) then return .bool false
      else if ← accept (Scan.literal ['[']) then
        skipAll
        if ← accept (Scan.literal [']']) then return .list []
        else return .list (← elements fuel)
      else if ← accept (Scan.literal ['\x7b']) then
        skipSpace
        if ← accept (Scan.literal ['\x7d']) then return .table []
        else return .table (← entries fuel ⟨[], .none⟩)
      else momentOrNumber

/-- Reads the elements of an array up to its end. -/
def elements : (fuel : Nat) → Read (List Value)
  | 0 => refuse
  | fuel + 1 => do
    let first ← value fuel
    skipAll
    if ← accept (Scan.literal [']']) then return [first]
    else
      expect (Scan.literal [','])
      skipAll
      if ← accept (Scan.literal [']']) then return [first]
      else return first :: (← elements fuel)

/-- Reads the entries of an inline table up to its end. -/
def entries : (fuel : Nat) → Inline → Read Table
  | 0, _ => refuse
  | fuel + 1, t => do
    let path ← key
    expect (Scan.literal ['='])
    skipSpace
    let v ← value fuel
    match t.add path v with
    | none => refuse
    | some t =>
      skipSpace
      if ← accept (Scan.literal ['\x7d']) then return t.entries
      else
        expect (Scan.literal [','])
        skipSpace
        entries fuel t

end

/-! ## Lines -/

/-- A document while it is read. -/
structure Document where
  /-- The tables and values read so far. -/
  root : Table
  /-- What may no longer be opened or changed. -/
  marks : Marks
  /-- The table of the last header. -/
  header : List Text

/-- The document without lines. -/
def Document.empty : Document := ⟨[], .none, []⟩

/-- Takes a change, and refuses the document if it was refused. -/
def require {α : Type} : Option α → Read α
  | some a => return a
  | none => refuse

/-- The tables a dotted key passes through below a header. -/
def openedBy (header path : List Text) : List (List Text) :=
  (List.range (path.length - 1)).map fun n => header ++ path.take (n + 1)

/-- Sets a key of the current table. -/
def Document.set (d : Document) (path : List Text) (v : Value) : Option Document :=
  let parents := openedBy d.header path
  let parent := d.header ++ path.dropLast
  if parents.any d.marks.isOpened then none
  else if d.marks.isComplete parent then none
  else
    (modifyAt true (insertNew (path.getLastD []) v) parent d.root).map fun root =>
      let marks := { d.marks with pending := parents ++ d.marks.pending }
      { d with root, marks := if isContainer v then marks.finish (d.header ++ path) else marks }

/-- Opens a table. -/
def Document.openTable (d : Document) (path : List Text) : Option Document :=
  let marks := d.marks.settle
  if marks.isOpened path || marks.isComplete path then none
  else
    (modifyAt true some path d.root).map fun root => ⟨root, marks.openAt path, path⟩

/-- Opens the next table of an array of tables. -/
def Document.openElement (d : Document) (path : List Text) : Option Document :=
  let marks := d.marks.settle
  if marks.isComplete path then none
  else
    (modifyAt true (appendTable (path.getLastD [])) path.dropLast d.root).map fun root =>
      ⟨root, (marks.forget path).openAt path, path⟩

/-- Reads what stands on a line before its comment. -/
def statement (d : Document) : Read Document := do
  match ← get with
  | '[' :: '[' :: rest =>
    set rest
    skipSpace
    let path ← key
    let d ← require (d.openElement path)
    expect (Scan.literal [']', ']'])
    return d
  | '[' :: rest =>
    set rest
    skipSpace
    let path ← key
    let d ← require (d.openTable path)
    expect (Scan.literal [']'])
    return d
  | '#' :: _ => return d
  | _ =>
    let path ← key
    expect (Scan.literal ['='])
    skipSpace
    let v ← value ((← get).length + 1)
    require (d.set path v)

/-- Reads lines up to the end. -/
def statements : (fuel : Nat) → Document → Read Document
  | 0, _ => refuse
  | fuel + 1, d => do
    skipSpace
    match ← get with
    | [] => return d
    | '\n' :: rest =>
      set rest
      statements fuel d
    | _ =>
      let d ← statement d
      skipSpace
      skipComment
      match ← get with
      | [] => return d
      | '\n' :: rest =>
        set rest
        statements fuel d
      | _ => refuse

/-- Replaces each carriage return with a line feed behind it by the line feed. -/
def joinBreaks : Text → Text
  | [] => []
  | [c] => [c]
  | c :: d :: s => if c = '\r' ∧ d = '\n' then joinBreaks (d :: s) else c :: joinBreaks (d :: s)

/-- Reads a document. -/
def parse (s : Text) : Except Fault Table :=
  let s := joinBreaks s
  (statements (s.length + 1) .empty s).map (·.1.root)

end TlaRunner.Toml
