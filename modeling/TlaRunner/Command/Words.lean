import TlaRunner.Text.Quoted

/-!
# Words of a command line

A command line is a sequence of words.  A word that starts with a dash is an option,
unless it is the dash alone.  An option has a name behind two dashes, and one that
takes a value may have a letter behind one dash too.  The value is joined to the name
by an equals sign, or to the letter by nothing, or it is the next word, whatever that
looks like.  Every other word is an argument.

Two dashes alone end the options: all words behind them are arguments.  Where
options may not follow arguments, the first argument ends them as well.
-/

namespace TlaRunner.Command

/-- How an option is written. -/
inductive Spelling
  /-- A name without a value. -/
  | switch (name : Text)
  /-- A name, and perhaps a letter, with a value. -/
  | valued (name : Text) (letter : Option Char)
  deriving DecidableEq, Repr

/-- The name of an option. -/
def Spelling.name : Spelling → Text
  | switch name => name
  | valued name _ => name

/-- The letter of an option. -/
def Spelling.letter? : Spelling → Option Char
  | switch _ => none
  | valued _ letter => letter

/-- Why words are no command line. -/
inductive Misuse
  | unknownOption (word : Text)
  /-- An option that takes a value has none. -/
  | noValue (name : Text)
  /-- An option that takes no value has one. -/
  | unwantedValue (name : Text)
  /-- There is no command. -/
  | noCommand
  | unknownCommand (word : Text)
  /-- An argument is missing. -/
  | noArgument (label : Text)
  /-- There are too many arguments. -/
  | unwantedArgument (word : Text)
  /-- A value cannot be used. -/
  | badValue (label value : Text)
  deriving DecidableEq, Repr

/-- The wording of a misuse. -/
def Misuse.message : Misuse → Text
  | unknownOption word => "No such option: ".toList ++ word
  | noValue name => "Option --".toList ++ name ++ " requires an argument.".toList
  | unwantedValue name => "Option --".toList ++ name ++ " does not take a value.".toList
  | noCommand => "Missing command.".toList
  | unknownCommand word => "No such command ".toList ++ Text.quoted word
  | noArgument label => "Missing argument ".toList ++ label
  | unwantedArgument word => "Got unexpected extra argument ".toList ++ word
  | badValue label value => "Invalid value for ".toList ++ label ++ ": ".toList ++ value

/-- Words that were read. -/
structure Words where
  /-- The names of the switches. -/
  switches : List Text
  /-- The names of the options with a value, and the values. -/
  values : List (Text × Text)
  /-- The arguments. -/
  arguments : List Text
  deriving DecidableEq, Repr

namespace Words

/-- Whether a switch was given. -/
def has (w : Words) (name : Text) : Bool :=
  w.switches.contains name

/-- The values of an option, in order. -/
def valuesOf (w : Words) (name : Text) : List Text :=
  (w.values.filter (·.1 = name)).map (·.2)

/-- The value of an option: the last one that was given. -/
def value? (w : Words) (name : Text) : Option Text :=
  (w.valuesOf name).getLast?

end Words

/-- What a word is. -/
inductive Word
  | argument
  /-- Two dashes alone. -/
  | endOfOptions
  | switch (name : Text)
  /-- An option with the value that is joined to it. -/
  | value (name value : Text)
  /-- An option whose value is the next word. -/
  | awaiting (name : Text)
  | refused (misuse : Misuse)
  deriving DecidableEq, Repr

/-- A word with two dashes in front, cut at its first equals sign. -/
def longOption (known : List Spelling) (word : Text) : Option Word :=
  let front := word.takeWhile (· ≠ '=')
  (known.find? fun s => "--".toList ++ s.name = front).map fun s =>
    match s, word.drop front.length with
    | .switch name, [] => .switch name
    | .switch name, _ => .refused (.unwantedValue name)
    | .valued name _, [] => .awaiting name
    | .valued name _, _ :: value => .value name value

/-- A word with one dash in front. -/
def shortOption (known : List Spelling) (letter : Char) (value word : Text) : Word :=
  match known.find? (·.letter? = some letter) with
  | none => .refused (.unknownOption word)
  | some s => if value.isEmpty then .awaiting s.name else .value s.name value

/-- What a word is where some options are known. -/
def Word.of (known : List Spelling) (word : Text) : Word :=
  match word with
  | ['-', '-'] => .endOfOptions
  | '-' :: c :: s =>
    match longOption known word with
    | some found => found
    | none => if c = '-' then .refused (.unknownOption word) else shortOption known c s word
  | _ => .argument

/-- Reads words where some options are known. -/
def readWords (known : List Spelling) (mixed : Bool) : List Text → Except Misuse Words
  | [] => .ok ⟨[], [], []⟩
  | word :: rest =>
    match Word.of known word with
    | .argument =>
      if mixed then
        (readWords known mixed rest).map fun w => { w with arguments := word :: w.arguments }
      else .ok ⟨[], [], word :: rest⟩
    | .endOfOptions => .ok ⟨[], [], rest⟩
    | .switch name =>
      (readWords known mixed rest).map fun w => { w with switches := name :: w.switches }
    | .value name value =>
      (readWords known mixed rest).map fun w => { w with values := (name, value) :: w.values }
    | .awaiting name =>
      match rest with
      | [] => .error (.noValue name)
      | value :: rest =>
        (readWords known mixed rest).map fun w => { w with values := (name, value) :: w.values }
    | .refused misuse => .error misuse

end TlaRunner.Command
