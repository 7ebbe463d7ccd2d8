import TlaRunner.Files.Host
import TlaRunner.Java.Version

/-!
# Finding Java

Java is started from below a Java home, or from the search path if no home is set.
Before it is used it is asked for its version once; the answer is kept for the home
it was found for.  Asking takes a process, so a search has two halves: `search`
says where to ask, and `learn` takes the answer.

The cache holds one entry.  A search for another home empties it at once, and only
an answer fills it.
-/

namespace TlaRunner.Java

open Files (Host LongPath PathFault)

/-- Why Java cannot be used. -/
inductive Fault
  /-- There is no executable below the Java home. -/
  | noneAtHome
  /-- There is no executable on the search path. -/
  | noneOnSearchPath
  /-- The Java home cannot be made absolute. -/
  | path (fault : PathFault)
  /-- The path of the executable is too long. -/
  | long (error : LongPath)
  /-- The runtime did not tell its version. -/
  | versionUntold
  /-- The version cannot be read. -/
  | numeral (error : Text.NumeralError)
  deriving DecidableEq, Repr

/-- The name of the executable. -/
def executableName : Text := "java".toList

/-- The wording of an unusable Java. -/
def Fault.message : Fault → Text
  | noneAtHome =>
    "Java executable not found. Check the Java Home configuration property.".toList
  | noneOnSearchPath =>
    "'java' was not found on PATH. Install Java or configure Java Home.".toList
  | path fault => fault.message
  | long error => error.message
  | versionUntold =>
    "Error while obtaining Java version. Check the Java Home configuration property.".toList
  | numeral error => error.message

/-- The executable for a Java home. -/
def executable (h : Host) : (javaHome : Option Path) → Except Fault Path
  | some home => do
    let home ← (h.expandHome home).mapError .path
    let found := home.join (.ofText "bin/java".toList)
    if ← (h.has found).mapError .long then return found else throw .noneAtHome
  | none =>
    match h.which? executableName with
    | some found => .ok found
    | none => .error .noneOnSearchPath

/-- The arguments that ask for the version. -/
def versionQuery : List Text := ["-version".toList]

/-- An executable whose version is known. -/
structure Entry where
  /-- The Java home it was found for. -/
  javaHome : Option Path
  /-- The executable. -/
  executable : Path
  /-- Its version. -/
  version : Version
  deriving DecidableEq, Repr

/-- What was found last. -/
structure Cache where
  /-- The entry, if there is one. -/
  entry : Option Entry
  deriving DecidableEq, Repr

/-- Where a search stands. -/
inductive Search
  /-- The executable is known. -/
  | known (executable : Path)
  /-- The executable has to be asked for its version. -/
  | ask (executable : Path)
  | failed (fault : Fault)
  deriving DecidableEq, Repr

/-- The warning about a version that is not supported. -/
def unsupportedWarning (v : Version) : Text :=
  "Unexpected Java version: ".toList ++ v.text

namespace Cache

/-- The cache without an entry. -/
def empty : Cache := ⟨none⟩

/-- The executable for a Java home, if it is known. -/
def find? (c : Cache) (javaHome : Option Path) : Option Path :=
  c.entry.bind fun e => if e.javaHome = javaHome then some e.executable else none

/-- Starts a search. -/
def search (c : Cache) (h : Host) (javaHome : Option Path) : Cache × Search :=
  match c.find? javaHome with
  | some found => (c, .known found)
  | none =>
    match Java.executable h javaHome with
    | .ok found => (empty, .ask found)
    | .error fault => (empty, .failed fault)

/-- Takes the lines an executable answered with: the entry, and a warning if the
version is not supported. -/
def learn (javaHome : Option Path) (executable : Path) (lines : List Text) :
    Except Fault (Cache × Option Text) := do
  let version := Version.ofLines lines
  if version.isUnknown then throw .versionUntold
  let supported ← version.supported.mapError .numeral
  return (⟨some ⟨javaHome, executable, version⟩⟩,
    if supported then none else some (unsupportedWarning version))

end Cache

end TlaRunner.Java
