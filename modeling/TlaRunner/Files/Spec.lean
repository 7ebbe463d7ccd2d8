import TlaRunner.Files.Host

/-!
# Module and model files

A check needs a module and a model file.  Given one of them, the other is looked
for beside it under the same stem; given both, each must exist.  The pair keeps
absolute paths without links.
-/

namespace TlaRunner.Files

/-- The suffix of modules. -/
def moduleSuffix : Text := ".tla".toList

/-- The suffix of model files. -/
def modelSuffix : Text := ".cfg".toList

/-- A module and its model file. -/
structure SpecFiles where
  /-- The module. -/
  modulePath : Path
  /-- The model file. -/
  modelPath : Path
  deriving DecidableEq, Repr

/-- Why there is no pair of files. -/
inductive SpecFault
  /-- The file is neither a module nor a model file. -/
  | foreign (name : Text)
  /-- There is no model file beside the module. -/
  | noModel (name : Text)
  /-- There is no module beside the model file. -/
  | noModule (name : Text)
  /-- A file that was named is not there. -/
  | absent (name : Text)
  /-- A path cannot be made absolute. -/
  | path (fault : PathFault)
  /-- A path has no name. -/
  | nameless (error : NamelessPath)
  /-- A path is too long. -/
  | long (error : LongPath)
  /-- The path of the module or that of the model file holds a zero byte. -/
  | zeroByte (inModule inModel : Bool)
  deriving DecidableEq, Repr

/-- The wording of a missing pair. -/
def SpecFault.message : SpecFault → Text
  | foreign name =>
    name ++ " is not a .tla or .cfg file, it cannot be checked as a model".toList
  | noModel name =>
    "Model file ".toList ++ name ++ " doesn't exist. Cannot check model.".toList
  | noModule name =>
    "TLA+ module file ".toList ++ name ++ " doesn't exist. Cannot check model.".toList
  | absent name => "File ".toList ++ name ++ " doesn't exist. Cannot check model.".toList
  | path fault => fault.message
  | nameless error => error.message
  | long error => error.message
  | zeroByte .. => PathFault.zeroByte.message

namespace SpecFiles

/-- The directory the tools are started in. -/
def directory (s : SpecFiles) : Path :=
  s.modulePath.parent

/-- The absolute path without links, unless it holds a zero byte. -/
def locate? (h : Host) (p : Path) : Except SpecFault (Option Path) :=
  match h.locate p with
  | .ok p => .ok (some p)
  | .error .zeroByte => .ok none
  | .error fault => .error (.path fault)

/-- The pair of two paths, made absolute. -/
def of (h : Host) (modulePath modelPath : Path) : Except SpecFault SpecFiles := do
  match ← locate? h modulePath, ← locate? h modelPath with
  | some modulePath, some modelPath => return ⟨modulePath, modelPath⟩
  | modulePath, modelPath => throw (.zeroByte modulePath.isNone modelPath.isNone)

/-- Whether a path leads to something. -/
def has (h : Host) (p : Path) : Except SpecFault Bool :=
  (h.has p).mapError .long

/-- The pair of a module and the model file beside it, which need not exist. -/
def ofModule (h : Host) (modulePath : Path) : Except SpecFault SpecFiles := do
  of h modulePath (← (modulePath.withSuffix modelSuffix).mapError .nameless)

/-- The pair that a module or a model file belongs to. -/
def ofPath (h : Host) (p : Path) : Except SpecFault SpecFiles := do
  if p.suffix = moduleSuffix then
    let modelPath ← (p.withSuffix modelSuffix).mapError .nameless
    if ← has h modelPath then of h p modelPath else throw (.noModel modelPath.name)
  else if p.suffix = modelSuffix then
    let modulePath ← (p.withSuffix moduleSuffix).mapError .nameless
    if ← has h modulePath then of h modulePath p else throw (.noModule modulePath.name)
  else throw (.foreign p.name)

/-- The pair of two files that exist. -/
def ofFiles (h : Host) (modulePath modelPath : Path) : Except SpecFault SpecFiles := do
  if !(← has h modulePath) then throw (.absent modulePath.name)
  if !(← has h modelPath) then throw (.absent modelPath.name)
  of h modulePath modelPath

end SpecFiles

end TlaRunner.Files
