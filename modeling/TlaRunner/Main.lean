import TlaRunner.Command.Run

/-!
# The program

The program looks up the files that a request may need, carries the request out on
them, and writes what was printed and saved.  It starts no tool itself: what the
first tool prints is read from the standard input, and the version of Java is the one
that the environment names.
-/

namespace TlaRunner.Main

open Command (Machine Request Conclusion)
open Files (Host Names Node Tree)
open Supervision (Behavior Program)

/-- The place a path leads to from a working directory. -/
def absolute (cwd : Names) (p : Path) : Names :=
  Tree.collapse (if p.isAbsolute then p.names else cwd ++ p.names)

/-- What is at a place of this machine.  Every file counts as executable. -/
def nodeAt (names : Names) : IO (Option Node) := do
  try
    let real ← IO.FS.realPath (String.ofList (Path.toText ⟨.root, names⟩))
    if ← real.isDir then return some .directory
    let content ← IO.FS.readBinFile real
    return some (.file content.toList true)
  catch _ => return none

/-- Adds to a host what this machine has at some paths. -/
def lookUp (h : Host) (paths : List Path) : IO Host := do
  let found ← paths.filterMapM fun p => do
    let names := absolute h.cwd p
    return (← nodeAt names).map (names, ·)
  return { h with tree := h.tree ++ found }

/-- A path and the files that may belong to it. -/
def relatives (p : Path) : List Path :=
  p :: [Files.moduleSuffix, Files.modelSuffix, Files.outputSuffix].filterMap fun suffix =>
    (p.withSuffix suffix).toOption

/-- The paths that the words of a command line may name, and the settings in the
working directory. -/
def namedPaths (words : List Text) : List Path :=
  [Settings.projectFile, Settings.configurationFile] ++ words.flatMap fun word =>
    (Text.cutAt '=' word).flatMap fun part => relatives (.ofText part)

/-- The paths that settings lead to. -/
def settledPaths (h : Host) (c : Config) : List Path :=
  let java := Path.ofText Java.executableName
  let homes := c.javaHome.toList.filterMap fun home =>
    (h.expandHome home).toOption.map (·.join (.ofText "bin/java".toList))
  let searched := (Text.cutAt ':' h.searchPath).map fun dir => (Path.ofText dir).join java
  c.toolsArchive :: homes ++ searched

/-- Reads the standard input to its end. -/
partial def readInput (input : IO.FS.Stream) (held : ByteArray) : IO ByteArray := do
  let chunk ← input.read 65536
  if chunk.isEmpty then return held else readInput input (held ++ chunk)

/-- The value of a variable of the environment. -/
def valueOf? (name : Text) : IO (Option Text) := do
  return (← IO.getEnv (String.ofList name)).map String.toList

/-- The program that prints some bytes and ends well. -/
def printing (bytes : Bytes) : Behavior :=
  .runs { Program.quiet with output := some bytes }

/-- This machine before any file was looked up. -/
def machine : IO Machine := do
  let cwd := (Path.ofText ((← valueOf? "PWD".toList).getD ['/'])).names
  let version := (← valueOf? "JAVA_VERSION".toList).getD []
  let names := [Console.Screen.widthName, Console.Screen.heightName, Host.homeName,
    Host.searchName] ++ Settings.environmentNames.map (·.2)
  let environment ← names.filterMapM fun name => do
    return (← valueOf? name).map (name, ·)
  let bounds := Workflow.Floor.portBounds
  let port ← IO.rand bounds.1.toNat bounds.2.toNat
  let host : Host := ⟨[(cwd, .directory)], cwd, none, []⟩
  let program := Path.ofText (toString (← IO.appPath)).toList
  let java := printing (Text.encode ("version \"".toList ++ version ++ ['"']))
  return ⟨program.parent, ⟨80, true⟩, host.under environment, environment, java, [], port⟩

/-- Writes the files that a command has changed. -/
def writeFiles (before after : Tree) : IO Unit :=
  after.forM fun (names, node) => do
    match node with
    | .file content _ =>
      if before.node? names ≠ some node then
        IO.FS.writeBinFile (String.ofList (Path.toText ⟨.root, names⟩)) ⟨content.toArray⟩
    | _ => return

/-- Prints what a command has printed, and tells its exit status. -/
def conclude (m : Machine) (c : Conclusion) : IO UInt32 := do
  c.lines.forM fun line => IO.println (String.ofList line)
  writeFiles m.host.tree c.bench.host.tree
  return UInt32.ofNat c.status

end TlaRunner.Main

open TlaRunner TlaRunner.Main in
/-- Carries out what the command line asks for. -/
def main (arguments : List String) : IO UInt32 := do
  let words := arguments.map String.toList
  let m ← machine
  let m := { m with host := ← lookUp m.host (namedPaths words) }
  match Command.read m.host words with
  | .error misuse =>
    IO.eprintln (String.ofList misuse.message)
    conclude m (m.run words)
  | .ok .help => conclude m (m.run words)
  | .ok (.request r) =>
    let paths := ((m.settings r).toOption.map (settledPaths m.host)).getD []
    let m := { m with host := ← lookUp m.host paths }
    let input ← match r.command with
      | .java => pure ByteArray.empty
      | _ => readInput (← IO.getStdin) ByteArray.empty
    conclude m ({ m with behaviors := [printing input.toList] }.run words)
