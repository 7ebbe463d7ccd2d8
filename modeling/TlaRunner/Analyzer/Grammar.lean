import TlaRunner.Diagnostic.Record
import TlaRunner.Path
import TlaRunner.Protocol.Event
import TlaRunner.Text.Scan

/-!
# The analyzer's report

The analyzer prints plain text.  A line with a location starts a finding, and the
lines up to the next blank one are its text; blank lines before the text are
passed over.  Section headers say whether the findings below are errors or
warnings.  A parse error is announced by a line of its own, and the next line
with something on it names the place.  A lexical error names its place itself.
Lines that name a parsed file make it the current one, to which parse errors and
lexical errors belong.

The grammar stands on its own, since the model checker prints such a report too
before it starts.
-/

namespace TlaRunner.Analyzer

open Text (Scan)
open Protocol (Fault)
open Diagnostic (Record)

/-- The digits and the module of a location line. -/
structure LocationDigits where
  /-- The first line. -/
  line : Text
  /-- The first column. -/
  column : Text
  /-- The last line. -/
  endLine : Text
  /-- The last column. -/
  endColumn : Text
  /-- The module. -/
  moduleName : Text
  deriving DecidableEq, Repr

/-- Reads a location at the front of a line. -/
def location : Scan LocationDigits := do
  Scan.literal "line ".toList
  let line ← Scan.digits
  Scan.literal ", col ".toList
  let column ← Scan.digits
  Scan.literal " to line ".toList
  let endLine ← Scan.digits
  Scan.literal ", col ".toList
  let endColumn ← Scan.digits
  Scan.literal " of module ".toList
  let moduleName ← Scan.some1 (!Text.isBlank ·)
  return ⟨line, column, endLine, endColumn, moduleName⟩

/-- Reads the place of a parse error or a lexical error behind a lead. -/
def point (lead : Text) : Scan (Text × Text) := do
  Scan.literal lead
  let line ← Scan.digits
  Scan.literal ", column ".toList
  let column ← Scan.digits
  return (line, column)

/-- Reads a section header up to its first digit. -/
def header (lead : Text) : Scan Unit := do
  Scan.literal lead
  let _ ← Scan.digits

/-- The header of the errors. -/
def errorsHeader : Text := "*** Errors: ".toList

/-- The header of the warnings. -/
def warningsHeader : Text := "*** Warnings: ".toList

/-- The line that announces a parse error. -/
def parseErrorLine : Text := "***Parse Error***".toList

/-- What a parse error's place starts with. -/
def encounteredLead : Text := "at line ".toList

/-- What a lexical error starts with. -/
def lexicalLead : Text := "Lexical error at line ".toList

/-- Reads an origin in parentheses up to the end of the line. -/
def origin : Scan Unit := do
  Scan.literal " (".toList
  let _ ← Scan.longest (do Scan.literal [')']; Scan.atEnd) 0

/-- Reads the name of a parsed file, without an origin behind it. -/
def parsedFile : Scan Text := do
  Scan.literal "Parsing file ".toList
  let (path, _) ← Scan.shortest (origin <|> Scan.atEnd) 1
  return path

/-- Reads the line that names a module being processed. -/
def semanticLine : Scan Unit := do
  Scan.literal "Semantic processing of module ".toList
  let _ ← Scan.some1 (!Text.isBlank ·)

/-- A finding whose text is still being read. -/
structure Pending where
  /-- The file. -/
  file : Text
  /-- The range. -/
  range : Range
  /-- The severity of the section. -/
  severity : Severity
  /-- The lines of the text read so far. -/
  lines : List Text
  deriving DecidableEq, Repr

/-- The record of a finding. -/
def Pending.record (p : Pending) : Record :=
  let text := Text.join ['\n'] p.lines
  ⟨p.file, p.range, p.severity, if text.isEmpty then "Unknown error".toList else text⟩

/-- What the grammar knows between two lines. -/
structure Grammar where
  /-- The modules and their files, in order of first mention. -/
  modules : List (Text × Text)
  /-- The file parsed last. -/
  currentFile : Option Text
  /-- The severity of the section. -/
  severity : Severity
  /-- The finding that is being read. -/
  pending : Option Pending
  /-- Whether the place of a parse error is awaited. -/
  awaitingPlace : Bool
  deriving DecidableEq, Repr

/-- What a line gave. -/
structure LineResult where
  /-- The findings it completed. -/
  records : List Record
  /-- The progress it reports. -/
  progress : Option Text
  /-- The file it names. -/
  file : Option Text
  deriving DecidableEq, Repr

/-- A line that gave nothing. -/
def LineResult.nothing : LineResult := ⟨[], none, none⟩

/-- A line that gave one finding. -/
def LineResult.record (r : Record) : LineResult := ⟨[r], none, none⟩

namespace Grammar

/-- The grammar before any line. -/
def start : Grammar := ⟨[], none, .error, none, false⟩

/-- Sets the file of a module, which keeps its place in the order. -/
def enterModule (moduleName file : Text) : List (Text × Text) → List (Text × Text)
  | [] => [(moduleName, file)]
  | (m, f) :: rest =>
    if m = moduleName then (m, file) :: rest else (m, f) :: enterModule moduleName file rest

/-- The file of a module that was named. -/
def fileOf? (g : Grammar) (moduleName : Text) : Option Text :=
  (g.modules.find? (·.1 = moduleName)).map (·.2)

/-- The file of a module; one that was not named lies in a file of its name. -/
def fileOf (g : Grammar) (moduleName : Text) : Text :=
  (g.fileOf? moduleName).getD (moduleName ++ ".tla".toList)

/-- The finding that is being read, and a grammar without it. -/
def flush (g : Grammar) : List Record × Grammar :=
  ((g.pending.map Pending.record).toList, { g with pending := none })

/-- The range of a location. -/
def readRange (d : LocationDigits) : Except Fault Range := do
  let line ← Protocol.readNumber d.line
  let column ← Protocol.readNumber d.column
  let endLine ← Protocol.readNumber d.endLine
  let endColumn ← Protocol.readNumber d.endColumn
  return .ofToolSpan line column endLine endColumn

/-- The range of a place. -/
def readPoint (digits : Text × Text) : Except Fault Range := do
  let line ← Protocol.readNumber digits.1
  let column ← Protocol.readNumber digits.2
  return .ofToolPoint line column

/-- Reads a location line.  The finding before it is complete. -/
def onLocation (g : Grammar) (d : LocationDigits) : Grammar × Except Fault LineResult :=
  let (records, g) := g.flush
  match readRange d with
  | .error fault => (g, .error fault)
  | .ok range =>
    ({ g with pending := some ⟨g.fileOf d.moduleName, range, g.severity, []⟩ },
      .ok ⟨records, none, none⟩)

/-- Reads another line while a finding is being read. -/
def onText (g : Grammar) (p : Pending) (stripped : Text) : Grammar × LineResult :=
  if !stripped.isEmpty then
    ({ g with pending := some { p with lines := p.lines ++ [stripped] } }, .nothing)
  else if !p.lines.isEmpty then
    let (records, g) := g.flush
    (g, ⟨records, none, none⟩)
  else (g, .nothing)

/-- Adds an error of the current file at a place that a line names. -/
def onPlace (g : Grammar) (file : Text) (digits : Text × Text) (stripped : Text) :
    Grammar × Except Fault LineResult :=
  (g, (readPoint digits).map fun range => .record ⟨file, range, .error, stripped⟩)

/-- Reads a line that names a file. -/
def onFile (g : Grammar) (path stripped : Text) : Grammar × LineResult :=
  ({ g with
      currentFile := some path
      modules := enterModule (Path.ofText path).stem path g.modules },
    ⟨[], some stripped, some path⟩)

/-- Reads a line that belongs to no finding. -/
def onOther (g : Grammar) (stripped : Text) : Grammar × Except Fault LineResult :=
  if stripped = parseErrorLine then ({ g with awaitingPlace := true }, .ok .nothing)
  else
    match Scan.front (point lexicalLead) stripped, g.currentFile with
    | some digits, some file => g.onPlace file digits stripped
    | _, _ =>
      if (Scan.front (header errorsHeader) stripped).isSome then
        ({ g with severity := .error }, .ok .nothing)
      else if (Scan.front (header warningsHeader) stripped).isSome then
        ({ g with severity := .warning }, .ok .nothing)
      else
        match Scan.front parsedFile stripped with
        | some path =>
          let (g, result) := g.onFile path stripped
          (g, .ok result)
        | none =>
          if (Scan.front semanticLine stripped).isSome then (g, .ok ⟨[], some stripped, none⟩)
          else (g, .ok .nothing)

/-- Reads one line. -/
def feed (g : Grammar) (line : Text) : Grammar × Except Fault LineResult :=
  let stripped := Text.strip line
  match Scan.front location stripped with
  | some digits => g.onLocation digits
  | none =>
    match g.pending with
    | some p =>
      let (g, result) := g.onText p stripped
      (g, .ok result)
    | none =>
      if g.awaitingPlace && !stripped.isEmpty then
        let g := { g with awaitingPlace := false }
        match Scan.search (point encounteredLead) stripped, g.currentFile with
        | some digits, some file => g.onPlace file digits stripped
        | _, _ => (g, .ok .nothing)
      else g.onOther stripped

end Grammar

end TlaRunner.Analyzer
