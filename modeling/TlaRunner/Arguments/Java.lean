import TlaRunner.Arguments.BaseName

/-!
# Options of the Java runtime

The user's options are extended by what the tools need: the tools archive on the
classpath and a garbage collector.  The value of the first classpath flag gets
the archive appended, unless one of its entries has the archive's final name; if
there is no flag, or it is the last token, a new flag follows the options.  The
default collector is added when no option selects one.
-/

namespace TlaRunner.Arguments

/-- The collector used when the user selects none. -/
def defaultCollector : Text := "-XX:+UseParallelGC".toList

/-- Whether a token names the classpath. -/
def isClasspathFlag (token : Text) : Bool :=
  token = "-cp".toList || token = "-classpath".toList

/-- Whether a token selects a garbage collector. -/
def selectsCollector (token : Text) : Bool :=
  Text.startsWith "-XX:+Use" token && Text.endsWith "GC" token

/-- The pieces between the occurrences of a nonempty separator.  `held` is the
current piece, last character first, and `skip` counts the characters of a
separator still to be passed. -/
def piecesFrom (separator : Text) (held : Text) (skip : Nat) : Text → List Text
  | [] => [held.reverse]
  | c :: s =>
    match skip with
    | n + 1 => piecesFrom separator held n s
    | 0 =>
      if Text.startsWith separator (c :: s) then
        held.reverse :: piecesFrom separator [] (separator.length - 1) s
      else piecesFrom separator (c :: held) 0 s

/-- The classpath separator was empty where it was needed. -/
structure EmptySeparator where
  deriving DecidableEq, Repr

/-- The wording of an empty separator. -/
def EmptySeparator.message (_ : EmptySeparator) : Text :=
  "empty separator".toList

/-- Whether a classpath has an entry with the archive's final name. -/
def references (separator archive classpath : Text) : Except EmptySeparator Bool :=
  if separator.isEmpty then .error {}
  else .ok ((piecesFrom separator [] 0 classpath).any
    fun entry => !entry.isEmpty && baseName entry = baseName archive)

/-- The options with the archive on the classpath. -/
def withArchive (separator archive : Text) : List Text → Except EmptySeparator (List Text)
  | [] => .ok ["-cp".toList, archive]
  | token :: rest =>
    if isClasspathFlag token then
      match rest with
      | [] => .ok [token, "-cp".toList, archive]
      | value :: rest' => do
        if ← references separator archive value then return token :: value :: rest'
        else return token :: (value ++ separator ++ archive) :: rest'
    else do return token :: (← withArchive separator archive rest)

/-- The options with a collector selected. -/
def withCollector (options : List Text) : List Text :=
  if options.any selectsCollector then options else options ++ [defaultCollector]

/-- The options of the Java runtime. -/
def java (separator archive : Text) (options : List Text) : Except EmptySeparator (List Text) :=
  (withArchive separator archive options).map withCollector

end TlaRunner.Arguments
