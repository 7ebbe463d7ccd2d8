import TlaRunner.Files.Host

/-!
# Saving output

A `Saver` writes the output of a run into one file.  Opening empties the file.
What is written is held back until it would not fit into `capacity` bytes, so the
file holds a part of the output until the saver is closed.  A saver that is opened
twice gives up its first file as if it were closed then, after the file was
emptied again.
-/

namespace TlaRunner.Files

/-- The suffix of saved output. -/
def outputSuffix : Text := ".out".toList

/-- The file for the output of a check, beside the module. -/
def outputFile (modulePath : Path) : Except NamelessPath Path :=
  modulePath.withSuffix outputSuffix

/-- A file that is written. -/
structure OpenFile where
  /-- Its absolute name. -/
  names : Names
  /-- How many bytes were written. -/
  offset : Nat
  /-- The bytes held back. -/
  held : Bytes
  deriving DecidableEq, Repr

namespace OpenFile

/-- How many bytes are held back. -/
def capacity : Nat := 4096

/-- Writes the bytes held back. -/
def flush (f : OpenFile) (t : Tree) : OpenFile × Tree :=
  (⟨f.names, f.offset + f.held.length, []⟩, t.writeAt f.names f.offset f.held)

/-- Takes more bytes. -/
def write (f : OpenFile) (t : Tree) (bytes : Bytes) : OpenFile × Tree :=
  if f.held.length + bytes.length ≤ capacity then ({ f with held := f.held ++ bytes }, t)
  else
    let (f, t) := f.flush t
    let f := { f with held := bytes }
    if bytes.length ≤ capacity then (f, t) else f.flush t

end OpenFile

/-- Why output was not saved. -/
inductive SaverFault
  /-- The saver is not open. -/
  | notOpen (path : Path)
  /-- The file cannot be written. -/
  | unwritable (path : Path) (obstacle : Obstacle)
  /-- The path holds a zero byte. -/
  | zeroByte
  deriving DecidableEq, Repr

/-- The wording of output that was not saved. -/
def SaverFault.message : SaverFault → Text
  | notOpen path => path.toText ++ " is not open for writing".toList
  | unwritable path obstacle => obstacle.message path
  | zeroByte => PathFault.zeroByte.message

/-- Writes output into a file while it is open. -/
structure Saver where
  /-- The path of the file. -/
  path : Path
  /-- The file, while the saver is open. -/
  file : Option OpenFile
  deriving DecidableEq, Repr

namespace Saver

/-- A saver that was not opened yet. -/
def of (path : Path) : Saver := ⟨path, none⟩

/-- Closes the saver: the file holds everything that was written. -/
def close (s : Saver) (t : Tree) : Saver × Tree :=
  (⟨s.path, none⟩, ((s.file.map fun f => (f.flush t).2)).getD t)

/-- Opens the saver and empties the file. -/
def «open» (s : Saver) (h : Host) : Except SaverFault (Saver × Tree) :=
  if s.path.hasZero then .error .zeroByte
  else match h.tree.openForWriting h.cwd s.path with
  | .error obstacle => .error (.unwritable s.path obstacle)
  | .ok (names, t) => .ok (⟨s.path, some ⟨names, 0, []⟩⟩, (s.close t).2)

/-- Writes bytes. -/
def write (s : Saver) (t : Tree) (bytes : Bytes) : Except SaverFault (Saver × Tree) :=
  match s.file with
  | none => .error (.notOpen s.path)
  | some f =>
    let (f, t) := f.write t bytes
    .ok (⟨s.path, some f⟩, t)

end Saver

end TlaRunner.Files
