import TlaRunner.Protocol.Session

/-!
# Reading a stream

A `Reading` joins the line splitter and the session of a run.  Each chunk gives
emissions in the order in which they are seen outside: for a line first the text
to show, then its events.  A fault ends the reading where it happens, with the
rest of the chunk unread.

`consume` reads a whole stream.  It may be called once.
-/

namespace TlaRunner.Protocol

/-- Something that is seen outside while a stream is read. -/
inductive Emission
  /-- A line of output without markers. -/
  | echo (line : Text)
  /-- An event. -/
  | event (content : Event)
  deriving DecidableEq, Repr

/-- The event of an emission. -/
def Emission.event? : Emission → Option Event
  | .event e => some e
  | .echo _ => none

/-- The shown line of an emission. -/
def Emission.echo? : Emission → Option Text
  | .echo line => some line
  | .event _ => none

/-- The emissions up to the end or up to a fault. -/
structure Emissions where
  /-- What was seen, in order. -/
  seen : List Emission
  /-- The fault that ended it. -/
  fault : Option Fault
  deriving DecidableEq, Repr

namespace Emissions

/-- The emissions of one line. -/
def ofReply (reply : Reply) : Emissions :=
  let echoed := reply.echo.toList.map .echo
  match reply.events with
  | .ok events => ⟨echoed ++ events.map .event, none⟩
  | .error fault => ⟨echoed, some fault⟩

/-- The emissions of events alone. -/
def ofEvents : Except Fault (List Event) → Emissions
  | .ok events => ⟨events.map .event, none⟩
  | .error fault => ⟨[], some fault⟩

end Emissions

/-- A stream that is being read. -/
structure Reading (σ ρ : Type) where
  /-- The unfinished line. -/
  splitter : LineSplitter
  /-- The session. -/
  session : Session σ ρ

namespace Reading

variable {σ ρ : Type}

/-- A reading before the first chunk. -/
def start (session : Session σ ρ) : Reading σ ρ :=
  ⟨.start, session⟩

/-- Feeds lines in order, up to the first fault. -/
def feedLines (d : Decoder σ ρ) (s : Session σ ρ) : List Text → Session σ ρ × Emissions
  | [] => (s, ⟨[], none⟩)
  | line :: rest =>
    let (s, reply) := s.feed d line
    let here := Emissions.ofReply reply
    match here.fault with
    | some _ => (s, here)
    | none =>
      let (s, later) := feedLines d s rest
      (s, ⟨here.seen ++ later.seen, later.fault⟩)

/-- Reads one chunk. -/
def feedChunk (d : Decoder σ ρ) (r : Reading σ ρ) (chunk : Chunk) : Reading σ ρ × Emissions :=
  let (lines, splitter) := r.splitter.feed chunk
  let (session, emissions) := feedLines d r.session lines
  (⟨splitter, session⟩, emissions)

/-- Reads chunks in order, up to the first fault. -/
def feedChunks (d : Decoder σ ρ) (r : Reading σ ρ) : List Chunk → Reading σ ρ × Emissions
  | [] => (r, ⟨[], none⟩)
  | chunk :: rest =>
    let (r, here) := r.feedChunk d chunk
    match here.fault with
    | some _ => (r, here)
    | none =>
      let (r, later) := feedChunks d r rest
      (r, ⟨here.seen ++ later.seen, later.fault⟩)

/-- Ends the stream: reads the last line and makes the report. -/
def finish (d : Decoder σ ρ) (r : Reading σ ρ) (stopped : Bool) : Reading σ ρ × Emissions :=
  let (lines, splitter) := r.splitter.flush
  let (session, here) := feedLines d r.session lines
  match here.fault with
  | some _ => (⟨splitter, session⟩, here)
  | none =>
    let (session, events) := session.close d stopped
    let later := Emissions.ofEvents events
    (⟨splitter, session⟩, ⟨here.seen ++ later.seen, later.fault⟩)

/-- Reads a whole stream. -/
def consume (d : Decoder σ ρ) (s : Session σ ρ) (chunks : List Chunk) (stopped : Bool) :
    Session σ ρ × Emissions :=
  let (r, here) := (start s).feedChunks d chunks
  match here.fault with
  | some _ => (r.session, here)
  | none =>
    let (r, later) := r.finish d stopped
    (r.session, ⟨here.seen ++ later.seen, later.fault⟩)

end Reading

end TlaRunner.Protocol
