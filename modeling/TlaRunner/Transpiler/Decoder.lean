import TlaRunner.Protocol.Session

/-!
# Output of the transpiler

An error is announced by a line of its own, and its text follows on a line that
starts with two dashes.  The place is read from the text or, where the text has
none, from a later line; blank lines are passed over, and any other line gives
the error up with the front of the file as its place.  A text that says that the
module has no algorithm is progress and no error.  Warnings have no place.  All
findings are about the module that is translated.
-/

namespace TlaRunner.Transpiler

open Text (Scan)
open Protocol (Gathered Step Event Fault Message Decoder)

/-- The line that announces an error. -/
def errorHeader : Text := "Unrecoverable error:".toList

/-- What the text of an error starts with. -/
def errorLead : Text := " -- ".toList

/-- What a warning starts with. -/
def warningLead : Text := "Warning:".toList

/-- The texts that say that there is nothing to translate. -/
def noAlgorithm : List Text :=
  ["Beginning of algorithm string --algorithm not found".toList,
    "Beginning of algorithm string --fair algorithm not found".toList]

/-- The lines that report progress. -/
def progressLines : List Text :=
  ["Parsing completed.".toList, "Translation completed.".toList]

/-- Reads a place. -/
def place : Scan (Text × Text) := do
  Scan.literal "line ".toList
  let line ← Scan.digits
  Scan.literal ", column ".toList
  let column ← Scan.digits
  return (line, column)

/-- Whether a line says that a file was written. -/
def saysWritten (line : Text) : Bool :=
  (Scan.front (do
    Scan.literal "New file ".toList
    Scan.longest (do Scan.literal " written.".toList; Scan.atEnd) 1) line).isSome

/-- What the transpiler's grammar knows between two lines. -/
structure State where
  /-- The module that is translated. -/
  file : Text
  /-- Whether an error was announced whose text is still to come. -/
  awaitingText : Bool
  /-- The text of an error whose place is still to come. -/
  pending : Option Text
  deriving DecidableEq, Repr

/-- The tool. -/
def tool : Tool := .transpiler

/-- Adds a finding about the module. -/
def report (g : Gathered State) (text : Text) (range : Range) (severity : Severity) :
    Step State :=
  let (g, events) := g.addRecord tool ⟨g.grammar.file, range, severity, text⟩
  ⟨g, .ok events⟩

/-- Adds an error at the place whose digits were read. -/
def reportAt (g : Gathered State) (text : Text) (digits : Text × Text) : Step State :=
  match Protocol.readNumber digits.1, Protocol.readNumber digits.2 with
  | .ok line, .ok column => report g text (.ofToolPoint line column) .error
  | .error fault, _ => ⟨g, .error fault⟩
  | _, .error fault => ⟨g, .error fault⟩

/-- Changes the state of the grammar. -/
def set (g : Gathered State) (state : State) : Gathered State :=
  { g with grammar := state }

/-- Gives up the error whose place did not come. -/
def flush (g : Gathered State) : Step State :=
  match g.grammar.pending with
  | none => ⟨g, .ok []⟩
  | some text =>
    report (set g { g.grammar with pending := none }) text .fileStart .error

/-- An event without a snapshot. -/
def progress (detail : Text) : List Event :=
  [.progress tool detail none]

/-- Reads the text of an error. -/
def onErrorText (g : Gathered State) (text : Text) : Step State :=
  if noAlgorithm.any (Text.occursIn · text) then
    ⟨g, .ok (progress "No PlusCal algorithm found".toList)⟩
  else
    match Scan.search place text with
    | some digits => reportAt g text digits
    | none => ⟨set g { g.grammar with pending := some text }, .ok []⟩

/-- Reads a line while the place of an error is awaited. -/
def onPending (g : Gathered State) (text line : Text) : Step State :=
  match Scan.search place line with
  | some digits => reportAt (set g { g.grammar with pending := none }) text digits
  | none => if (Text.strip line).isEmpty then ⟨g, .ok []⟩ else flush g

/-- Reads a line that belongs to no error. -/
def onOther (g : Gathered State) (line : Text) : Step State :=
  if Text.startsWith warningLead line then
    report g (Text.strip (line.drop warningLead.length)) .fileStart .warning
  else
    let stripped := Text.strip line
    if progressLines.contains stripped || saysWritten stripped then
      ⟨g, .ok (progress stripped)⟩
    else ⟨g, .ok []⟩

/-- Reads a line. -/
def onLine (g : Gathered State) (line : Text) : Step State :=
  if Text.startsWith errorHeader line then
    let step := flush g
    { step with gathered := set step.gathered { step.gathered.grammar with awaitingText := true } }
  else if g.grammar.awaitingText && Text.startsWith errorLead line then
    onErrorText (set g { g.grammar with awaitingText := false })
      (Text.strip (line.drop errorLead.length))
  else
    match g.grammar.pending with
    | some text => onPending g text line
    | none => onOther g line

/-- Reads a message.  The transpiler has none with a meaning; each is progress. -/
def onMessage (g : Gathered State) (m : Message) : Step State :=
  ⟨g, .ok (progress m.text)⟩

/-- Gives up the error whose place did not come before the end. -/
def onEnd (g : Gathered State) : Gathered State × List Event :=
  match g.grammar.pending with
  | none => (g, [])
  | some text =>
    (set g { g.grammar with pending := none }).addRecord tool
      ⟨g.grammar.file, .fileStart, .error, text⟩

/-- The decoder of the transpiler's output. -/
def decoder : Decoder State ParseReport where
  tool := tool
  onLine := onLine
  onMessage := onMessage
  onEnd := onEnd
  report g _ := ⟨tool, g.diagnostics.mapping, [], g.conditions⟩
  wrap := .parse

/-- A session for a module, which counts as read from the start. -/
def session (file : Text) : Protocol.Session State ParseReport :=
  .start ⟨⟨file, false, none⟩, Diagnostic.Collection.empty.addFile file, []⟩

end TlaRunner.Transpiler
