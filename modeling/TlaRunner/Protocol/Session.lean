import TlaRunner.Protocol.Event
import TlaRunner.Protocol.LineSplitter
import TlaRunner.Protocol.Marker

/-!
# The message protocol

A `Session` reads one run of one tool, line by line.  A start marker opens a
message and an end marker with the same code closes it; the lines between them
are its body, and the message goes to the decoder of the tool.  Every other line
goes to the decoder as it is.  A message that is interrupted by another start
marker, closed by a foreign end marker, or cut off by the end of the output is
dropped, and a condition says so.  An end marker outside messages means nothing.

A `Decoder` is the grammar of one tool.  It changes a state of its own and the
findings and conditions, which every tool has.  It may fail on a line or message
with part of the change done; the change then stays and the events are lost.

A session ends once.  `close` makes the report, and from then on every line is
refused.
-/

namespace TlaRunner.Protocol

open Diagnostic (Record Collection)

/-- What was gathered from the output: the state of the grammar, the findings,
and the anomalies of the stream. -/
structure Gathered (σ : Type) where
  /-- The state of the grammar. -/
  grammar : σ
  /-- The findings. -/
  diagnostics : Collection
  /-- The anomalies, in order. -/
  conditions : List Condition
  deriving Repr

/-- What reading a line or a message led to. -/
structure Step (σ : Type) where
  /-- What is gathered now. -/
  gathered : Gathered σ
  /-- The events, or why there are none. -/
  events : Except Fault (List Event)

/-- The grammar of one tool. -/
structure Decoder (σ ρ : Type) where
  /-- The tool. -/
  tool : Tool
  /-- Reads a line outside messages. -/
  onLine : Gathered σ → Text → Step σ
  /-- Reads a finished message. -/
  onMessage : Gathered σ → Message → Step σ
  /-- Gives up what was held back when the output ends. -/
  onEnd : Gathered σ → Gathered σ × List Event
  /-- Makes the report, given whether the run was stopped. -/
  report : Gathered σ → (stopped : Bool) → ρ
  /-- The report as an event carries it. -/
  wrap : ρ → ToolReport

namespace Gathered

/-- Adds a finding; one that is new is announced. -/
def addRecord {σ : Type} (tool : Tool) (g : Gathered σ) (r : Record) :
    Gathered σ × List Event :=
  let (isNew, diagnostics) := g.diagnostics.add r
  ({ g with diagnostics }, if isNew then [.diagnostic tool r] else [])

/-- Adds findings in order. -/
def addRecords {σ : Type} (tool : Tool) (g : Gathered σ) : List Record →
    Gathered σ × List Event
  | [] => (g, [])
  | r :: rest =>
    let (g, first) := g.addRecord tool r
    let (g, later) := g.addRecords tool rest
    (g, first ++ later)

/-- Enters a file among the findings. -/
def addFile {σ : Type} (g : Gathered σ) (file : Text) : Gathered σ :=
  { g with diagnostics := g.diagnostics.addFile file }

/-- Notes an anomaly. -/
def note {σ : Type} (g : Gathered σ) (kind : Anomaly) (detail : Text) : Gathered σ :=
  { g with conditions := g.conditions ++ [⟨kind, detail⟩] }

end Gathered

/-- A message whose end marker was not read yet. -/
structure OpenMessage where
  /-- Its code. -/
  code : Nat
  /-- Its class. -/
  subCode : Option Nat
  /-- The lines read so far. -/
  lines : List Text
  deriving DecidableEq, Repr

/-- A run of a tool while it is read. -/
structure Session (σ ρ : Type) where
  /-- The message that is open. -/
  message : Option OpenMessage
  /-- What was gathered. -/
  gathered : Gathered σ
  /-- The report, once the output has ended. -/
  result : Option ρ

/-- What a line led to: the text to show for it, and the events. -/
structure Reply where
  /-- The line without markers, unless it was a marker. -/
  echo : Option Text
  /-- The events, or why there are none. -/
  events : Except Fault (List Event)

namespace Session

variable {σ ρ : Type}

/-- A session before any output. -/
def start (gathered : Gathered σ) : Session σ ρ :=
  ⟨none, gathered, none⟩

/-- The description of a message that another one interrupts. -/
def interrupted (code other : Nat) : Text :=
  "message ".toList ++ Text.ofNat code ++ " interrupted by the start of message ".toList
    ++ Text.ofNat other

/-- The description of a message closed by the wrong marker. -/
def misclosed (code other : Nat) : Text :=
  "message ".toList ++ Text.ofNat code ++ " closed by the end marker of message ".toList
    ++ Text.ofNat other

/-- The description of a message the output ended in. -/
def cutOff (code : Nat) : Text :=
  "output ended inside message ".toList ++ Text.ofNat code

/-- Opens a message.  One that was open is dropped. -/
def openMessage (s : Session σ ρ) (code : Nat) (subCode : Option Nat) : Session σ ρ :=
  let gathered :=
    match s.message with
    | some m => s.gathered.note .violation (interrupted m.code code)
    | none => s.gathered
  { s with message := some ⟨code, subCode, []⟩, gathered }

/-- Closes the open message and hands it on, if the code is its own. -/
def closeMessage (d : Decoder σ ρ) (s : Session σ ρ) (code : Nat) :
    Session σ ρ × Except Fault (List Event) :=
  match s.message with
  | none => (s, .ok [])
  | some m =>
    if m.code = code then
      let step := d.onMessage s.gathered ⟨m.code, m.subCode, m.lines⟩
      ({ s with message := none, gathered := step.gathered }, step.events)
    else
      ({ s with message := none, gathered := s.gathered.note .violation (misclosed m.code code) },
        .ok [])

/-- Reads the numbers of a marker. -/
def readMarker : Marker → Except Fault (Nat × Option Nat)
  | .start code none => do return (← readNumber code, none)
  | .start code (some subCode) => do
    let code ← readNumber code
    return (code, some (← readNumber subCode))
  | .stop code => do return (← readNumber code, none)

/-- Reads one line. -/
def feed (d : Decoder σ ρ) (s : Session σ ρ) (line : Text) : Session σ ρ × Reply :=
  if s.result.isSome then (s, ⟨none, .error (.finished d.tool)⟩)
  else
    match Marker.ofLine? line with
    | some marker =>
      match readMarker marker, marker with
      | .error fault, _ => (s, ⟨none, .error fault⟩)
      | .ok (code, subCode), .start .. => (s.openMessage code subCode, ⟨none, .ok []⟩)
      | .ok (code, _), .stop _ =>
        let (s, events) := s.closeMessage d code
        (s, ⟨none, events⟩)
    | none =>
      match s.message with
      | some m =>
        ({ s with message := some { m with lines := m.lines ++ [line] } },
          ⟨stripMarkers line, .ok []⟩)
      | none =>
        let step := d.onLine s.gathered line
        ({ s with gathered := step.gathered }, ⟨stripMarkers line, step.events⟩)

/-- Ends the output: drops an open message, gives up what was held back, and makes
the report. -/
def close (d : Decoder σ ρ) (s : Session σ ρ) (stopped : Bool) :
    Session σ ρ × Except Fault (List Event) :=
  if s.result.isSome then (s, .error (.finished d.tool))
  else
    let gathered :=
      match s.message with
      | some m => s.gathered.note .truncated (cutOff m.code)
      | none => s.gathered
    let (gathered, trailing) := d.onEnd gathered
    let result := d.report gathered stopped
    (⟨none, gathered, some result⟩, .ok (trailing ++ [.report d.tool (d.wrap result)]))

/-- The report. -/
def report (d : Decoder σ ρ) (s : Session σ ρ) : Except Fault ρ :=
  match s.result with
  | some result => .ok result
  | none => .error (.unfinished d.tool)

end Session

end TlaRunner.Protocol
