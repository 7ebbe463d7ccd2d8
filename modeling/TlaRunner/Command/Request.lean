import TlaRunner.Command.Words
import TlaRunner.Files.Host
import TlaRunner.Settings.Field

/-!
# Requests

A request is what a command line asks for: a command with its arguments, and the
options that all commands share, which stand before its name.

A file that is named may be missing, unless a command can do nothing without it,
but it may not be a directory; where a directory is named, it may not be a file.
-/

namespace TlaRunner.Command

open Decimal (Double)
open Files (Host)

/-- The files a check is asked for. -/
structure Target where
  /-- A module, or the model file of one. -/
  file : Path
  /-- The model file, if it is not the one beside the module. -/
  model : Option Path
  deriving DecidableEq, Repr

/-- A command with its arguments. -/
inductive Subcommand
  /-- Parse a module. -/
  | parse (module : Path) (echoes : Bool)
  /-- Check a model, with more options of the model checker. -/
  | check (target : Target) (options : List Text) (echoes : Bool)
  /-- Check a model with a debugger. -/
  | debug (target : Target) (delay : Option Double) (echoes : Bool)
  /-- Tell which Java is used. -/
  | java
  deriving DecidableEq, Repr

/-- What a command line asks for. -/
structure Request where
  /-- The configuration file, if it is not the one in the working directory. -/
  configFile : Option Path
  /-- The Java home, if it is not the one in the settings. -/
  javaHome : Option Path
  /-- Whether messages have marks. -/
  marked : Bool
  /-- The command. -/
  command : Subcommand
  deriving DecidableEq, Repr

/-- What a request sets. -/
def Request.overrides (r : Request) : Value.Table :=
  [("java_home".toList, (r.javaHome.map .path).getD .null)]

/-! ## Files that are named -/

/-- What a path names.  A path that is too long names nothing. -/
inductive Named
  | nothing
  | file
  | directory
  deriving DecidableEq, Repr

/-- What a path names on a host. -/
def named (h : Host) (p : Path) : Named :=
  match h.find? p with
  | .ok (some .directory) => .directory
  | .ok (some _) => .file
  | _ => .nothing

/-- Takes the name of something that is of a kind that is wanted.  The path of a name is
looked at, so slashes at its end say nothing. -/
def asPath (wanted : Named → Bool) (h : Host) (label : String) (s : Text) : Except Misuse Path :=
  let p := Path.ofText s
  if p.hasZero || !wanted (named h p) then .error (.badValue label.toList s) else .ok p

/-- Takes the name of a file that may be missing. -/
def asFile : Host → String → Text → Except Misuse Path :=
  asPath (· ≠ .directory)

/-- Takes the name of a file that has to be there. -/
def asPresentFile : Host → String → Text → Except Misuse Path :=
  asPath (· = .file)

/-- Takes the name of a directory that may be missing. -/
def asDirectory : Host → String → Text → Except Misuse Path :=
  asPath (· ≠ .file)

/-- Takes a value that may be missing. -/
def asOptional {α : Type} (take : Text → Except Misuse α) :
    Option Text → Except Misuse (Option α)
  | none => .ok none
  | some s => (take s).map some

/-! ## Options -/

/-- The switch that asks for help. -/
def helpName : Text := "help".toList

/-- The switch that shows the output of the tools. -/
def echoName : Text := "show-output".toList

/-- The option with the configuration file. -/
def configFileName : Text := "config-file".toList

/-- The option with the Java home. -/
def javaHomeName : Text := "java-home".toList

/-- The switch that leaves marks out. -/
def unmarkedName : Text := "no-emoji".toList

/-- The option with the model file. -/
def modelName : Text := "config".toList

/-- The option with options of the model checker. -/
def extraName : Text := "option".toList

/-- The option with the delay. -/
def delayName : Text := "delay".toList

/-- The options before the name of a command. -/
def sharedOptions : List Spelling :=
  [.valued configFileName none, .valued javaHomeName none, .switch unmarkedName,
    .switch helpName]

/-- The options of a command, if there is one of that name. -/
def optionsOf (command : Text) : Option (List Spelling) :=
  let common := [Spelling.switch echoName, .switch helpName]
  if command = "parse".toList then some common
  else if command = "check".toList then
    some (.valued modelName (some 'c') :: .valued extraName (some 'o') :: common)
  else if command = "debug".toList then
    some (.valued modelName (some 'c') :: .valued delayName none :: common)
  else if command = "java".toList then some [.switch helpName]
  else none

/-! ## Reading -/

/-- The only argument of a command. -/
def onlyArgument (label : String) (w : Words) : Except Misuse Text :=
  match w.arguments with
  | [] => .error (.noArgument label.toList)
  | [s] => .ok s
  | _ :: s :: _ => .error (.unwantedArgument s)

/-- The files of a check. -/
def targetOf (h : Host) (w : Words) : Except Misuse Target := do
  let file ← asFile h "SPEC" (← onlyArgument "SPEC" w)
  return ⟨file, ← asOptional (asFile h "--config") (w.value? modelName)⟩

/-- Takes a delay, under the rules for the one in the settings. -/
def asDelay (s : Text) : Except Misuse Double :=
  (Value.asNonnegative (.text s)).mapError fun _ => .badValue "--delay".toList s

/-- The command of a name, with the words behind it. -/
def commandOf (h : Host) (name : Text) (w : Words) : Except Misuse Subcommand := do
  let echoes := w.has echoName
  if name = "parse".toList then
    return .parse (← asPresentFile h "MODULE" (← onlyArgument "MODULE" w)) echoes
  else if name = "check".toList then
    return .check (← targetOf h w) (w.valuesOf extraName) echoes
  else if name = "debug".toList then
    return .debug (← targetOf h w) (← asOptional asDelay (w.value? delayName)) echoes
  else
    match w.arguments with
    | [] => return .java
    | s :: _ => throw (.unwantedArgument s)

/-- What words ask for: a request, or help. -/
inductive Asked
  | help
  | request (request : Request)
  deriving DecidableEq, Repr

/-- Reads a command line. -/
def read (h : Host) (words : List Text) : Except Misuse Asked := do
  let shared ← readWords sharedOptions false words
  if shared.has helpName then return .help
  let configFile ← asOptional (asFile h "--config-file") (shared.value? configFileName)
  let javaHome ← asOptional (asDirectory h "--java-home") (shared.value? javaHomeName)
  match shared.arguments with
  | [] => throw .noCommand
  | name :: rest =>
    match optionsOf name with
    | none => throw (.unknownCommand name)
    | some known =>
      let own ← readWords known true rest
      if own.has helpName then return .help
      return .request ⟨configFile, javaHome, !shared.has unmarkedName, ← commandOf h name own⟩

end TlaRunner.Command
