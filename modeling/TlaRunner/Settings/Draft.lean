import TlaRunner.Settings.Config

/-!
# Drafts

A draft is settings that are changed one at a time.  It has an entry for every setting
and one for every note.  A note has a name that starts with an underscore, and its value
is not checked.  A new value for a setting is checked under the rules for a table of
settings.  Whatever is refused leaves the draft as it was.

Not all names are free.  A draft has parts that do its work, and each part is looked up
among the entries first.  So a note with the name of a part stands in for that part, and
as it is only a value it fails at the work.

* The register knows how the settings are changed.  Only a table can stand in for it.
* The clerk is asked about all names the register does not know.
* The checker checks new values.
* The printer shows the settings.

Other names lead to what the draft keeps beside its entries: the names of the settings
that were changed, which only a set can stand in for, and a surplus of entries, which the
next change takes in.
-/

namespace TlaRunner

/-- The name that messages give to the kind of a value. -/
def Value.kindName : Value → Text
  | .null => "NoneType".toList
  | .bool _ => "bool".toList
  | .int _ => "int".toList
  | .float _ => "float".toList
  | .text _ => "str".toList
  | .moment _ => "datetime".toList
  | .path _ => "PosixPath".toList
  | .list _ => "list".toList
  | .table _ => "dict".toList

namespace Settings

/-! ## Refusals -/

/-- Why a draft is not changed or not shown. -/
inductive Refusal
  /-- The value or the name of a setting is not valid. -/
  | invalid (issues : List Issue)
  /-- What has the name is computed. -/
  | computed (name : Text)
  /-- What has the name never changes. -/
  | fixed (name : Text)
  /-- A draft stays a draft. -/
  | unlikeKind (value : Value)
  /-- Only a table can replace the entries. -/
  | unlikeEntries (value : Value)
  /-- A value stands where one of another kind is needed. -/
  | unlike (value : Value) (kind : Text)
  /-- A value stands in for a part that can do something. -/
  | unable (value : Value) (skill : Text)
  /-- A value stands where an action is needed. -/
  | inactive (value : Value)
  deriving Repr

namespace Refusal

/-- A value as the subject of a message. -/
def subject (v : Value) : Text :=
  '\'' :: v.kindName ++ "' object".toList

/-- The wording of a refusal; issues have none. -/
def message : Refusal → Text
  | invalid _ => []
  | computed name => "property '".toList ++ name ++ "' of 'Config' object has no setter".toList
  | fixed name => "attribute '".toList ++ name ++ "' of 'Config' objects is not writable".toList
  | unlikeKind v => "__class__ must be set to a class, not ".toList ++ subject v
  | unlikeEntries v =>
    "__dict__ must be set to a dictionary, not a '".toList ++ v.kindName ++ ['\'']
  | unlike v kind =>
    (match v with
      | .null => "'None'".toList
      | v => subject v) ++ " is not an instance of '".toList ++ kind ++ ['\'']
  | unable v skill => subject v ++ " has no attribute '".toList ++ skill ++ ['\'']
  | inactive v => subject v ++ " is not callable".toList

end Refusal

/-! ## Parts -/

/-- A part of a draft that does work. -/
inductive Part
  | register
  | clerk
  | checker
  | printer
  deriving DecidableEq, Repr

/-- The name of a note that stands in for a part. -/
def Part.name : Part → Text
  | register => "__pydantic_setattr_handlers__".toList
  | clerk => "_setattr_handler".toList
  | checker => "__pydantic_validator__".toList
  | printer => "__pydantic_serializer__".toList

/-- Whether a name is computed from a draft. -/
def isComputed (name : Text) : Bool :=
  ["model_extra".toList, "model_fields_set".toList, "__fields_set__".toList].contains name

/-! ## Drafts -/

/-- Settings that are changed one at a time. -/
structure Draft where
  /-- The settings and the notes. -/
  entries : Value.Table
  /-- What stands in for the names of the changed settings. -/
  changed : Option Value
  /-- Entries that the next change takes in. -/
  surplus : Value
  deriving Repr

namespace Draft

/-- A draft of settings, without notes. -/
def ofConfig (c : Config) : Draft :=
  ⟨c.toTable, none, .null⟩

/-- What stands in for a part. -/
def standIn? (d : Draft) (p : Part) : Option Value :=
  d.entries.get? p.name

/-- Asks the clerk about a name. -/
def askClerk (d : Draft) : Except Refusal Unit :=
  match d.standIn? .clerk with
  | none => .ok ()
  | some v => .error (.inactive v)

/-- Looks a name up in the register, and asks the clerk if the name is not there. -/
def enroll (d : Draft) (name : Text) : Except Refusal Unit :=
  match d.standIn? .register with
  | none => if Config.keys.contains name then .ok () else d.askClerk
  | some (.table known) =>
    match Value.Table.get? known name with
    | none | some .null => d.askClerk
    | some v => .error (.inactive v)
  | some v => .error (.unable v "get".toList)

/-- Keeps a note. -/
def note (d : Draft) (name : Text) (v : Value) : Except Refusal Draft :=
  if name = "__class__".toList then .error (.unlikeKind v)
  else if name = "__weakref__".toList then .error (.fixed name)
  else if name = "__dict__".toList then
    match v with
    | .table entries => .ok { d with entries }
    | v => .error (.unlikeEntries v)
  else if name = "__pydantic_fields_set__".toList then .ok { d with changed := some v }
  else if name = "__pydantic_extra__".toList then .ok { d with surplus := v }
  else if name = "__pydantic_private__".toList then .ok d
  else .ok { d with entries := d.entries.set name v }

/-- The entries of a draft together with its surplus. -/
def taken (d : Draft) : Except Refusal Value.Table :=
  match d.surplus with
  | .null => .ok d.entries
  | .table more => .ok (d.entries.update more)
  | v => .error (.unlike v "dict".toList)

/-- Changes a setting. -/
def change (d : Draft) (name : Text) (v : Value) : Except Refusal Draft :=
  match d.standIn? .checker with
  | some checker => .error (.unable checker "validate_assignment".toList)
  | none => do
    let entries ← d.taken
    let v ← (Config.checkSetting name v).mapError .invalid
    match d.changed with
    | some names => .error (.unlike names "set".toList)
    | none => .ok { d with entries := entries.set name v, surplus := .null }

/-- Sets what has a name. -/
def set (d : Draft) (name : Text) (v : Value) : Except Refusal Draft := do
  d.enroll name
  if isComputed name then .error (.computed name)
  else if Text.startsWith ['_'] name then d.note name v
  else d.change name v

/-- The settings of a draft. -/
def shown (d : Draft) : Except Refusal Value.Table :=
  match d.standIn? .printer with
  | some printer => .error (.unable printer "to_python".toList)
  | none => .ok (d.entries.filter fun entry => Config.keys.contains entry.1)

/-- Sets one name after the other.  After each the settings are shown, with the refusal if
there was one. -/
def edited (d : Draft) : List (Text × Value) → Except Refusal (List (Option Refusal × Value.Table))
  | [] => .ok []
  | (name, v) :: rest => do
    let (d, refusal) := match d.set name v with
      | .ok d => (d, none)
      | .error refusal => (d, some refusal)
    let settings ← d.shown
    return (refusal, settings) :: (← d.edited rest)

end Draft

end Settings

end TlaRunner
