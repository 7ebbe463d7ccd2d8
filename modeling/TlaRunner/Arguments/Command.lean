import TlaRunner.Arguments.Java
import TlaRunner.Arguments.Quoting
import TlaRunner.Arguments.Tool
import TlaRunner.Files.Spec
import TlaRunner.Settings.Config

/-!
# Command lines

The arguments a tool is started with: the options of the Java runtime, the class of
the tool, and the tool's own arguments.  The tools archive has to be there, unless
an entry of the user's classpath has its name.
-/

namespace TlaRunner.Arguments

open Files (Host SpecFiles)

/-- Why there is no command line. -/
inductive CommandFault
  /-- A quote is never closed. -/
  | openQuote (error : OpenQuote)
  /-- The tools archive is not there. -/
  | noArchive (archive : Path)
  /-- The path of the tools archive is too long. -/
  | long (error : Files.LongPath)
  /-- The classpath cannot be cut. -/
  | separator (error : EmptySeparator)
  deriving DecidableEq, Repr

/-- The wording of a missing command line. -/
def CommandFault.message : CommandFault → Text
  | openQuote error => error.message
  | noArchive archive => "TLA+ tools archive not found: ".toList ++ archive.toText
  | long error => error.message
  | separator error => error.message

/-- What separates the entries of a classpath. -/
def classpathSeparator : Text := [':']

/-- The user's options of a tool. -/
def userOptions (c : Config) : Tool → Except OpenQuote (List Text)
  | .transpiler => split c.transpilerOptions
  | .modelChecker => split c.checkerOptions
  | .analyzer => .ok []

/-- Whether some classpath among the options has an entry with the archive's name. -/
def providesArchive (archive : Text) : List Text → Except EmptySeparator Bool
  | flag :: value :: rest => do
    if isClasspathFlag flag then
      if ← references classpathSeparator archive value then return true
    providesArchive archive (value :: rest)
  | _ => .ok false

/-- The options of the Java runtime under some settings. -/
def javaOptions (h : Host) (c : Config) : Except CommandFault (List Text) := do
  let options ← (split c.javaOptions).mapError .openQuote
  let archive := c.toolsArchive.toText
  unless ← (h.has c.toolsArchive).mapError .long do
    unless ← (providesArchive archive options).mapError .separator do
      throw (.noArchive c.toolsArchive)
  (java classpathSeparator archive options).mapError .separator

/-- The arguments behind the executable. -/
def command (h : Host) (c : Config) (tool : Tool) (spec : SpecFiles) (extra : List Text) :
    Except CommandFault (List Text) := do
  let options ← (userOptions c tool).mapError .openQuote
  let arguments := ofTool tool spec.modulePath.toText spec.modelPath.toText (options ++ extra)
  return (← javaOptions h c) ++ tool.mainClass :: arguments

end TlaRunner.Arguments
