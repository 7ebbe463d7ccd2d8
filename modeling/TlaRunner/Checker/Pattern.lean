import TlaRunner.Text.Scan

/-!
# Lines of the model checker

Each scanner reads one kind of line from the text of a message and yields the
digits and names in it; numbers are read later.  Counters may have commas between
groups of digits.
-/

namespace TlaRunner.Checker

open Text (Scan)

/-- Whether a character can stand in a counter. -/
def isCounter (c : Char) : Bool :=
  Text.isDigit c || c = ','

/-- Reads a time in parentheses at the end of the text. -/
def timeStamp : Scan Text := do
  Scan.literal ['(']
  let stamp ← Scan.some1 fun c => c ≠ '(' && c ≠ ')'
  Scan.literal [')']
  let _ ← Scan.many Text.isBlank
  Scan.atEnd
  return stamp

/-- Reads the duration and the time of the end. -/
def finishedLine : Scan (Text × Text) := do
  Scan.literal "Finished in ".toList
  let duration ← Scan.some1 (!Text.isBlank ·)
  Scan.literal " at (".toList
  let time ← Scan.some1 (· ≠ ')')
  Scan.literal [')']
  return (duration, time)

/-- The digits of the three counters. -/
structure Counters where
  /-- The states generated. -/
  generated : Text
  /-- The distinct states. -/
  distinct : Text
  /-- The states left. -/
  left : Text
  deriving DecidableEq, Repr

/-- The digits of a progress line. -/
structure ProgressDigits where
  /-- The depth. -/
  diameter : Text
  /-- When it was printed. -/
  timeStamp : Text
  /-- The counters. -/
  counters : Counters
  deriving DecidableEq, Repr

/-- Reads the last counter of a progress line. -/
def progressLeft : Scan Text := do
  Scan.literal ", ".toList
  let left ← Scan.some1 isCounter
  Scan.literal " states left on queue".toList
  return left

/-- Reads the last two counters of a progress line, which something may separate. -/
def progressDistinct : Scan (Text × Text) := do
  Scan.literal ", ".toList
  let distinct ← Scan.some1 isCounter
  Scan.literal " distinct states found".toList
  let (_, left) ← Scan.shortest progressLeft 0
  return (distinct, left)

/-- Reads the counters of a progress line behind the time. -/
def progressCounters : Scan Counters := do
  Scan.literal ": ".toList
  let generated ← Scan.some1 isCounter
  Scan.literal " states generated".toList
  let (_, distinct, left) ← Scan.shortest progressDistinct 0
  return ⟨generated, distinct, left⟩

/-- Reads a progress line. -/
def progressLine : Scan ProgressDigits := do
  Scan.literal "Progress(".toList
  let diameter ← Scan.digits
  Scan.literal ") at ".toList
  let (timeStamp, counters) ← Scan.shortest progressCounters 1
  return ⟨diameter, timeStamp, counters⟩

/-- Reads a statistics line. -/
def statsLine : Scan Counters := do
  let generated ← Scan.some1 isCounter
  Scan.literal " states generated, ".toList
  let distinct ← Scan.some1 isCounter
  Scan.literal " distinct states found, ".toList
  let left ← Scan.some1 isCounter
  Scan.literal " states left on queue".toList
  return ⟨generated, distinct, left⟩

/-- Reads the depth of the search. -/
def depthLine : Scan Text := do
  Scan.literal "depth of the complete state graph search is ".toList
  Scan.digits

/-- The parts of a coverage line. -/
structure CoverageDigits where
  /-- The action. -/
  action : Text
  /-- The place, from its line to its module. -/
  location : Text
  /-- The module. -/
  moduleName : Text
  /-- The digits of the first counter. -/
  first : Text
  /-- The digits of the second counter. -/
  second : Text
  deriving DecidableEq, Repr

/-- Reads the end of a coverage line, from the module on. -/
def coverageTail : Scan (Text × Text × Text) := do
  Scan.literal " of module ".toList
  let moduleName ← Scan.some1 Text.isWord
  Scan.literal ">: ".toList
  let first ← Scan.digits
  Scan.literal [':']
  let second ← Scan.digits
  return (moduleName, first, second)

/-- Reads a coverage line. -/
def coverageLine : Scan CoverageDigits := do
  Scan.literal ['<']
  let action ← Scan.some1 Text.isWord
  Scan.literal " line ".toList
  let (place, moduleName, first, second) ← Scan.longest coverageTail 1
  return ⟨action, "line ".toList ++ place ++ " of module ".toList ++ moduleName, moduleName,
    first, second⟩

/-- Reads the probability of a collision. -/
def collisionLine : Scan Text := do
  Scan.literal "val = ".toList
  Scan.some1 (!Text.isBlank ·)

/-- The digits and the module of a location. -/
structure LocationDigits where
  /-- The first line. -/
  line : Text
  /-- The first column. -/
  column : Text
  /-- The last line. -/
  endLine : Text
  /-- The last column. -/
  endColumn : Text
  /-- The module. -/
  moduleName : Text
  deriving DecidableEq, Repr

/-- Reads the digits of a column, whose name may be cut short. -/
def column : Scan Text := do
  Scan.literal ", col".toList
  let _ ← Scan.optional (Scan.literal "umn".toList)
  Scan.literal [' ']
  Scan.digits

/-- Reads a location. -/
def location : Scan LocationDigits := do
  Scan.literal "line ".toList
  let line ← Scan.digits
  let first ← column
  Scan.literal " to line ".toList
  let endLine ← Scan.digits
  let last ← column
  Scan.literal " of module ".toList
  let moduleName ← Scan.some1 Text.isWord
  return ⟨line, first, endLine, last, moduleName⟩

/-- Reads the number and the title of a trace state. -/
def traceTitle : Scan (Text × Text) := do
  let number ← Scan.digits
  Scan.literal ": ".toList
  let title ← Scan.many (· ≠ '\n')
  Scan.atEnd
  return (number, title)

end TlaRunner.Checker
