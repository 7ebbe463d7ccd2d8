import TlaRunner.Files.Tree

/-!
# Hosts

A host is the machine a run takes place on: its files, the working directory, the
home directory, and the search path for executables.
-/

namespace TlaRunner.Files

/-- A machine. -/
structure Host where
  /-- The files. -/
  tree : Tree
  /-- The working directory. -/
  cwd : Names
  /-- The home directory, if it is known. -/
  home : Option Path
  /-- The directories with executables, separated by colons. -/
  searchPath : Text
  deriving DecidableEq, Repr

/-- Why a path cannot be made absolute. -/
inductive PathFault
  /-- The home directory that a path starts at is not known. -/
  | homeless
  /-- A link leads back to itself. -/
  | looped (path : Path)
  /-- It holds a zero byte. -/
  | zeroByte
  deriving DecidableEq, Repr

/-- The wording of a path that cannot be made absolute. -/
def PathFault.message : PathFault → Text
  | homeless => "Could not determine home directory.".toList
  | looped path => "Symlink loop from ".toList ++ Text.quoted path.toText
  | zeroByte => "embedded null byte".toList

/-- A path is too long to ask the system about it. -/
structure LongPath where
  /-- The path. -/
  path : Path
  deriving DecidableEq, Repr

/-- The wording of a path that is too long. -/
def LongPath.message (e : LongPath) : Text :=
  Obstacle.nameTooLong.message e.path

namespace Host

/-- The variable that names the home directory. -/
def homeName : Text := "HOME".toList

/-- The variable that names the search path. -/
def searchName : Text := "PATH".toList

/-- The host as an environment shows it, which may name another home directory and
another search path.  A home directory that starts at a home directory itself is not known. -/
def under (h : Host) (environment : List (Text × Text)) : Host :=
  let value? (name : Text) := (environment.find? (·.1 = name)).map (·.2)
  let homeOf (s : Text) : Option Path :=
    if s.all (· = '/') then some ⟨.root, []⟩
    else if Text.startsWith ['~'] s then none
    else some (.ofText s)
  { h with home := ((value? homeName).map homeOf).getD h.home
           searchPath := (value? searchName).getD h.searchPath }

/-- What a path leads to. -/
def find? (h : Host) (p : Path) : Except LongPath (Option Node) :=
  match h.tree.find h.cwd p with
  | .ok node => .ok (some node)
  | .error .nameTooLong => .error ⟨p⟩
  | .error _ => .ok none

/-- Whether a path leads to something. -/
def has (h : Host) (p : Path) : Except LongPath Bool :=
  (h.find? p).map (·.isSome)

/-- The content of the file a path leads to. -/
def read? (h : Host) (p : Path) : Except LongPath (Option Bytes) := do
  match ← h.find? p with
  | some (.file content _) => return some content
  | _ => return none

/-- The home directories of the accounts that every system comes with. -/
def accounts : List (Text × Path) :=
  [("root", "/root"), ("daemon", "/usr/sbin"), ("bin", "/bin"), ("sys", "/dev"), ("sync", "/bin"),
    ("games", "/usr/games"), ("man", "/var/cache/man"), ("lp", "/var/spool/lpd"),
    ("mail", "/var/mail"), ("news", "/var/spool/news"), ("uucp", "/var/spool/uucp"),
    ("proxy", "/bin"), ("www-data", "/var/www"), ("backup", "/var/backups"),
    ("list", "/var/list"), ("irc", "/run/ircd"), ("_apt", "/nonexistent"),
    ("nobody", "/nonexistent")].map fun (user, home) =>
      (String.toList user, Path.ofText (String.toList home))

/-- The home directory of the user with a name, or of the one who runs this without a name. -/
def homeOf (h : Host) (user : Text) : Except PathFault Path :=
  if user.contains '\x00' then .error .zeroByte
  else
    let home := if user.isEmpty then h.home else (accounts.find? (·.1 = user)).map (·.2)
    match home with
    | some home => .ok home
    | none => .error .homeless

/-- Replaces a leading `~`, which the name of a user may follow, by a home directory. -/
def expandHome (h : Host) (p : Path) : Except PathFault Path :=
  match p.anchor, p.names with
  | .relative, ('~' :: user) :: rest =>
    (h.homeOf user).map fun home => ⟨home.anchor, home.names ++ rest⟩
  | _, _ => .ok p

/-- The absolute path without links. -/
def resolve (h : Host) (p : Path) : Except PathFault Path :=
  let resolved : Path := ⟨.root, h.tree.resolve h.cwd p⟩
  if p.hasZero then .error .zeroByte
  else match h.tree.find h.cwd resolved with
  | .error .tooManyLinks => .error (.looped resolved)
  | _ => .ok resolved

/-- The absolute path without links, home directory included. -/
def locate (h : Host) (p : Path) : Except PathFault Path := do
  h.resolve (← h.expandHome p)

/-- The first executable of a name on the search path. -/
def which? (h : Host) (name : Text) : Option Path :=
  if h.searchPath.isEmpty then none
  else
    ((Text.cutAt ':' h.searchPath).map fun dir =>
      (Path.ofText dir).join (Path.ofText name)).find? (h.tree.isExecutable h.cwd)

end Host

end TlaRunner.Files
