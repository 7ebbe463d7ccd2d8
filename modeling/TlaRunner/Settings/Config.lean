import TlaRunner.Settings.Field

/-!
# Settings

The settings of the program, their defaults, and the check of a table of values.
A table may leave settings out, and may not have other keys.  A blank Java home
is none.  The tools come with the program, so where they lie depends on where the
program is installed.
-/

namespace TlaRunner

open Decimal (Double)

/-- The settings. -/
structure Config where
  /-- Where Java is installed; without it Java is looked up on the search path. -/
  javaHome : Option Path
  /-- Options of the Java runtime, as the user typed them. -/
  javaOptions : Text
  /-- Options of the transpiler. -/
  transpilerOptions : Text
  /-- Options of the model checker. -/
  checkerOptions : Text
  /-- Whether the model checker's output is kept in a file. -/
  createOutFiles : Bool
  /-- The archive with the tools. -/
  toolsArchive : Path
  /-- How many seconds to wait before a debugger is attached. -/
  debuggerDelay : Double
  deriving DecidableEq, Repr

namespace Config

/-- Where the tools archive lies unless the settings say otherwise, given the directory that
the program is installed in. -/
def defaultArchive (package : Path) : Path :=
  package.join (.ofText "tools/tla2tools.jar".toList)

/-- The settings when nothing is set. -/
def default (package : Path) : Config :=
  ⟨none, [], [], [], true, defaultArchive package, .ofInt 2⟩

/-- The keys of the settings. -/
def keys : List Text :=
  ["java_home".toList, "java_options".toList, "pluscal_options".toList, "tlc_options".toList,
    "create_out_files".toList, "tools_archive".toList, "debugger_delay".toList]

/-- A value for the Java home as it is checked: a blank text is no value. -/
def unsetBlank : Value → Value
  | .text s => if Text.allBlank s then .null else .text s
  | v => v

/-- Checks a Java home. -/
def asJavaHome (v : Value) : Checked (Option Path) :=
  (unsetBlank v).asOption Value.asPath

/-- The issues of the keys that are no settings. -/
def unknownKeys (t : Value.Table) : Checked Unit :=
  match t.filter (fun entry => !keys.contains entry.1) with
  | [] => .ok ()
  | unknown => .error (unknown.map fun entry => ⟨[entry.1], .extraForbidden⟩)

/-- Checks a table of settings. -/
def ofTable (package : Path) (t : Value.Table) : Checked Config :=
  let c := default package
  let checked :=
    (t.fieldOr "java_home".toList asJavaHome c.javaHome).both <|
    (t.fieldOr "java_options".toList Value.asText c.javaOptions).both <|
    (t.fieldOr "pluscal_options".toList Value.asText c.transpilerOptions).both <|
    (t.fieldOr "tlc_options".toList Value.asText c.checkerOptions).both <|
    (t.fieldOr "create_out_files".toList Value.asBool c.createOutFiles).both <|
    (t.fieldOr "tools_archive".toList Value.asPath c.toolsArchive).both <|
    (t.fieldOr "debugger_delay".toList Value.asNonnegative c.debuggerDelay).both <|
    unknownKeys t
  checked.map fun (javaHome, javaOptions, transpilerOptions, checkerOptions, createOutFiles,
      toolsArchive, debuggerDelay, _) =>
    ⟨javaHome, javaOptions, transpilerOptions, checkerOptions, createOutFiles, toolsArchive,
      debuggerDelay⟩

/-- Checks a value for settings. -/
def ofValue (package : Path) (v : Value) : Checked Config :=
  v.asTable.bind (ofTable package)

/-! ## Settings as values -/

/-- A path as a value of a table. -/
def pathValue (p : Path) : Value :=
  .text p.toText

/-- The settings as a table. -/
def toTable (c : Config) : Value.Table :=
  keys.zip [(c.javaHome.map pathValue).getD .null, .text c.javaOptions,
    .text c.transpilerOptions, .text c.checkerOptions, .bool c.createOutFiles,
    pathValue c.toolsArchive, .float c.debuggerDelay]

/-- Checks a value for the setting of a key, if it is one: the value as the setting keeps it. -/
def checkSetting (key : Text) (v : Value) : Checked Value :=
  Checked.below key <|
    if key = "java_home".toList then (asJavaHome v).map fun x => (x.map pathValue).getD .null
    else if key = "java_options".toList then v.asText.map .text
    else if key = "pluscal_options".toList then v.asText.map .text
    else if key = "tlc_options".toList then v.asText.map .text
    else if key = "create_out_files".toList then v.asBool.map .bool
    else if key = "tools_archive".toList then v.asPath.map pathValue
    else if key = "debugger_delay".toList then v.asNonnegative.map .float
    else Checked.complain .noSuchAttribute

end Config

end TlaRunner
