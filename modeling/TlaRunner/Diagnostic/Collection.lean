import TlaRunner.Diagnostic.Record

/-!
# Collections of findings

A collection lists files in the order in which they were first named, and for
each file its records in the order in which they came.  A file may have no
records: publishing it then clears what was reported for it before.

`add` refuses a record whose identity is known.  `extend`, `merge` and
`ofMapping` keep duplicates, since they join findings of independent runs.  The
known identities are kept beside the records, so that `add` asks one list.
-/

namespace TlaRunner.Diagnostic

/-- Files with their records, in order. -/
abbrev Mapping := List (Text × List Record)

namespace Mapping

/-- Puts a record last under a file, which is entered last if it is new. -/
def append (m : Mapping) (file : Text) (r : Record) : Mapping :=
  match m with
  | [] => [(file, [r])]
  | (f, rs) :: rest =>
    if f = file then (f, rs ++ [r]) :: rest else (f, rs) :: append rest file r

/-- Enters a file last unless it is there. -/
def enter (m : Mapping) (file : Text) : Mapping :=
  if m.any (·.1 = file) then m else m ++ [(file, [])]

/-- The records of a file. -/
def recordsOf (m : Mapping) (file : Text) : List Record :=
  ((m.find? (·.1 = file)).map (·.2)).getD []

/-- All records, file by file. -/
def records (m : Mapping) : List Record :=
  m.flatMap (·.2)

/-- The files in order. -/
def files (m : Mapping) : List Text :=
  m.map (·.1)

end Mapping

/-- Findings by file, with the identities already seen. -/
structure Collection where
  /-- The files and their records. -/
  mapping : Mapping
  /-- The identities of the records, latest first. -/
  seen : List Identity
  deriving DecidableEq, Repr

namespace Collection

/-- The collection without files. -/
def empty : Collection := ⟨[], []⟩

/-- Enters a file, with no records if it is new. -/
def addFile (c : Collection) (file : Text) : Collection :=
  { c with mapping := c.mapping.enter file }

/-- Puts a record last under its file. -/
def append (c : Collection) (r : Record) : Collection :=
  ⟨c.mapping.append r.file r, r.identity :: c.seen⟩

/-- Whether a record with the identity of this one is known. -/
def knows (c : Collection) (r : Record) : Bool :=
  c.seen.contains r.identity

/-- Adds a record unless it is known, and says whether it was new. -/
def add (c : Collection) (r : Record) : Bool × Collection :=
  if c.knows r then (false, c) else (true, c.append r)

/-- Appends the files and records of a mapping, duplicates included. -/
def extendBy (c : Collection) (m : Mapping) : Collection :=
  m.foldl (fun c entry => entry.2.foldl append (c.addFile entry.1)) c

/-- Appends another collection. -/
def extend (c other : Collection) : Collection :=
  c.extendBy other.mapping

/-- The collection of a mapping. -/
def ofMapping (m : Mapping) : Collection :=
  empty.extendBy m

/-- Joins collections in order. -/
def merge (cs : List Collection) : Collection :=
  cs.foldl extend empty

/-- Whether some record is an error. -/
def hasErrors (c : Collection) : Bool :=
  c.mapping.records.any (·.severity = .error)

end Collection

/-- Where finished findings are shown.  It holds the latest mapping only. -/
structure Sink where
  /-- What is shown. -/
  mapping : Mapping
  /-- How often it was replaced. -/
  updates : Nat
  deriving DecidableEq, Repr

namespace Sink

/-- The sink nothing was published to. -/
def empty : Sink := ⟨[], 0⟩

/-- Replaces everything that is shown. -/
def publish (sink : Sink) (c : Collection) : Sink :=
  ⟨c.mapping, sink.updates + 1⟩

end Sink

end TlaRunner.Diagnostic
