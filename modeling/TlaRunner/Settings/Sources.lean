import TlaRunner.Files.Host
import TlaRunner.Settings.Config
import TlaRunner.Text.Utf8Fault
import TlaRunner.Toml.Document

/-!
# Where settings come from

Settings are taken from four places, each later one overriding the earlier ones: a
section of the project file, the configuration file, the environment, and overrides
that are given directly.  A file that is not there sets nothing.  A key in a file
may be written with dashes.  Before all of these come the defaults.

Every place is checked on its own, so that a complaint names the place it comes
from.  How a table is checked is up to a library, and so is how the defaults are
written as a table.  The library is a part of the installation, and so are the
defaults, because the tools come with the program.
-/

namespace TlaRunner

open Files (Host)

/-- A place settings come from. -/
inductive Origin
  | defaults
  /-- The section of a project file. -/
  | project (name : Text)
  /-- A configuration file. -/
  | file (name : Text)
  | environment
  | overrides
  deriving DecidableEq, Repr

/-- What a place is called in complaints. -/
def Origin.describe : Origin → Text
  | defaults => "Built-in defaults".toList
  | project name => "pyproject.toml (".toList ++ name ++ [')']
  | file name => "TOML configuration at ".toList ++ name
  | environment => "environment variables".toList
  | overrides => "command line overrides".toList

/-- Why there are no settings. -/
inductive SettingsFault
  /-- The settings of a place are not valid. -/
  | invalid (origin : Origin) (issues : List Issue)
  /-- A file is not written as its format demands. -/
  | malformed (origin : Origin)
  /-- The path of a file is too long. -/
  | long (error : Files.LongPath)
  /-- A file is no text. -/
  | undecodable (fault : Text.Utf8Fault)
  /-- A file has a numeral that cannot be read. -/
  | numeral (error : Text.NumeralError)
  deriving DecidableEq, Repr

/-- The wording of missing settings, without the single issues. -/
def SettingsFault.message : SettingsFault → Text
  | invalid origin _ => "Invalid configuration in ".toList ++ origin.describe
  | malformed origin => origin.describe ++ " is not valid TOML".toList
  | long error => error.message
  | undecodable fault => fault.message
  | numeral error => error.message

namespace Settings

open Value (Table)

/-- The name of the project file. -/
def projectFile : Path := .ofText "pyproject.toml".toList

/-- The name of the configuration file. -/
def configurationFile : Path := .ofText "tlaqa.toml".toList

/-- The keys that lead to the section of the project file. -/
def sectionKeys : Text × Text := ("tool".toList, "tlaqa".toList)

/-- A key with underscores for dashes. -/
def plainKey (key : Text) : Text :=
  key.map fun c => if c = '-' then '_' else c

/-- A table with plain keys.  Of keys that become one, the last gives the value. -/
def plainKeys (t : Table) : Table :=
  Table.update [] (t.map fun entry => (plainKey entry.1, entry.2))

/-- Reads a file.  One that is not there is empty. -/
def readDocument (h : Host) (p : Path) (origin : Origin) : Except SettingsFault Table := do
  match ← (h.read? p).mapError .long with
  | none => return []
  | some bytes =>
    let s ← (Text.decodeOrFault bytes).mapError .undecodable
    match Toml.parse s with
    | .ok t => return t
    | .error .malformed => throw (.malformed origin)
    | .error (.numeral error) => throw (.numeral error)

/-- The settings of a configuration file, which is called by its path unless it has a
name. -/
def ofFile (h : Host) (p : Path) (name : Option Text) : Origin × Except SettingsFault Table :=
  let origin := Origin.file ((name.filter (!·.isEmpty)).getD p.toText)
  (origin, (readDocument h p origin).map plainKeys)

/-- The section of a project file. -/
def sectionOf (t : Table) : Table :=
  match (t.get? sectionKeys.1).bind (Value.get? · sectionKeys.2) with
  | some (.table entries) => entries
  | _ => []

/-- The settings of a project file, which is called by its path unless it has a
name. -/
def ofProject (h : Host) (p : Path) (name : Option Text) : Origin × Except SettingsFault Table :=
  let origin := Origin.project ((name.filter (!·.isEmpty)).getD p.toText)
  (origin, (readDocument h p origin).map fun t => plainKeys (sectionOf t))

/-- The settings that may come from the environment, with their variables. -/
def environmentNames : List (Text × Text) :=
  [("java_home".toList, "TLAQA_JAVA_HOME".toList),
    ("java_options".toList, "TLAQA_JAVA_OPTIONS".toList),
    ("tools_archive".toList, "TLAQA_TOOLS_ARCHIVE".toList)]

/-- The settings of an environment. -/
def ofEnvironment (environment : List (Text × Text)) : Table :=
  environmentNames.filterMap fun (key, name) =>
    (environment.find? (·.1 = name)).map fun entry => (key, .text entry.2)

/-- What the program is installed with. -/
structure Installation where
  /-- The directory of the program. -/
  package : Path
  /-- The check of a table of settings. -/
  validate : Table → Checked Config
  /-- Writes settings as a table. -/
  dump : Config → Table

namespace Installation

/-- The program in a directory. -/
def ofPackage (package : Path) : Installation :=
  ⟨package, Config.ofTable package, Config.toTable⟩

/-- The settings when nothing is set. -/
def default (i : Installation) : Config :=
  .default i.package

/-- Checks the settings of a place. -/
def check (i : Installation) (origin : Origin) (t : Table) : Except SettingsFault Config :=
  (i.validate t).mapError (.invalid origin)

/-- Takes fragments over, each checked on its own. -/
def mergeAll (i : Installation) (t : Table) :
    List (Origin × Except SettingsFault Table) → Except SettingsFault Table
  | [] => .ok t
  | (origin, fragment) :: rest => do
    let fragment ← fragment
    let _ ← i.check origin fragment
    i.mergeAll (t.update fragment) rest

end Installation

/-- The places settings come from. -/
structure Sources where
  /-- The directory of the project. -/
  root : Path
  /-- A configuration file instead of the one in the root. -/
  configFile : Option Path
  /-- The environment. -/
  environment : List (Text × Text)
  /-- The overrides. -/
  overrides : Table

namespace Sources

/-- The places besides the overrides, in order, with what each sets. -/
def fragments (s : Sources) (i : Installation) (h : Host) :
    List (Origin × Except SettingsFault Table) :=
  [(.defaults, .ok (i.dump i.default)),
    ofProject h (s.root.join projectFile) none,
    ofFile h (s.configFile.getD (s.root.join configurationFile)) none,
    (.environment, .ok (ofEnvironment s.environment))]

/-- Whether a value is missing. -/
def isNull : Value → Bool
  | .null => true
  | _ => false

/-- The settings of all places. -/
def load (s : Sources) (i : Installation) (h : Host) : Except SettingsFault Config := do
  let merged ← i.mergeAll [] (s.fragments i h)
  i.check .overrides (merged.update (s.overrides.filter fun entry => !isNull entry.2))

end Sources

end Settings

end TlaRunner
