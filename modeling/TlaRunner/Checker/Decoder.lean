import TlaRunner.Analyzer.Grammar
import TlaRunner.Checker.Pattern
import TlaRunner.Protocol.Session
import TlaRunner.Text.Lines

/-!
# Output of the model checker

The model checker says everything in messages.  `Topic.ofCode` sorts their codes,
and `dispatch` reads one message: a finding of the class error or tool bug, or of
certain codes, is an error; the class warning is a warning; a trace state is
entered in the error trace; every other message moves the phase or the counters.
Each message ends with one progress event that carries the run so far.

Between the messages that open and close the analyzer's part, the lines outside
messages are read by the analyzer's grammar.

An error settles the outcome, unless an error settled it before; a tool bug makes
it fatal.  Success and the end of the run count only while nothing settled it.
-/

namespace TlaRunner.Checker

open Text (Scan)
open Protocol (Gathered Step Event Fault Message Decoder)
open Analyzer (Grammar)

/-- What a message is about. -/
inductive Topic
  /-- An error whatever its class. -/
  | failure
  | starting
  | finished
  | modelChecking
  | simulation
  | computingInitialStates
  | initialStatesGenerated
  | checkingLiveness
  | success
  | searchDepth
  | stats
  | progress
  | coverage
  /-- A state of the error trace, or a return to one. -/
  | traceState
  | analyzerStart
  | analyzerEnd
  | other
  deriving DecidableEq, Repr

/-- The topic of a message code. -/
def Topic.ofCode : Nat → Topic
  | 1000 => failure
  | 2110 => failure
  | 2114 => failure
  | 2121 => failure
  | 2185 => starting
  | 2186 => finished
  | 2187 => modelChecking
  | 2188 => simulation
  | 2189 => computingInitialStates
  | 2190 => initialStatesGenerated
  | 2192 => checkingLiveness
  | 2193 => success
  | 2194 => searchDepth
  | 2199 => stats
  | 2200 => progress
  | 2201 => coverage
  | 2217 => traceState
  | 2218 => traceState
  | 2219 => analyzerEnd
  | 2220 => analyzerStart
  | 2772 => coverage
  | _ => other

/-- A check while its output is read. -/
structure Run where
  /-- The report so far, without findings and anomalies. -/
  soFar : CheckReport
  /-- The depth reported last. -/
  diameter : Nat
  /-- Whether a tool bug was reported. -/
  toolBug : Bool
  /-- The analyzer's grammar, while its part of the output is read. -/
  analyzer : Option Grammar
  deriving DecidableEq, Repr

/-- The tool. -/
def tool : Tool := .modelChecker

/-- The report of the run so far. -/
def snapshot (g : Gathered Run) : CheckReport :=
  { g.grammar.soFar with diagnostics := g.diagnostics.mapping, conditions := g.conditions }

/-- Changes the report so far. -/
def update (g : Gathered Run) (f : CheckReport → CheckReport) : Gathered Run :=
  { g with grammar := { g.grammar with soFar := f g.grammar.soFar } }

/-- Sets the analyzer's grammar. -/
def setAnalyzer (g : Gathered Run) (analyzer : Option Grammar) : Gathered Run :=
  { g with grammar := { g.grammar with analyzer } }

/-! ## The analyzer's part -/

/-- Takes over what a line of the analyzer's part gave; its progress is not told. -/
def apply (g : Gathered Run) (result : Analyzer.LineResult) : Gathered Run × List Event :=
  let g := match result.file with
    | some file => g.addFile file
    | none => g
  g.addRecords tool result.records

/-- Reads a line outside messages. -/
def onLine (g : Gathered Run) (line : Text) : Step Run :=
  match g.grammar.analyzer with
  | none => ⟨g, .ok []⟩
  | some grammar =>
    let (grammar, result) := grammar.feed line
    let g := setAnalyzer g (some grammar)
    match result with
    | .error fault => ⟨g, .error fault⟩
    | .ok result =>
      let (g, events) := apply g result
      ⟨g, .ok events⟩

/-- Gives up the finding that the analyzer's grammar is reading. -/
def flushAnalyzer (g : Gathered Run) : Gathered Run × List Event :=
  match g.grammar.analyzer with
  | none => (g, [])
  | some grammar =>
    let (records, grammar) := grammar.flush
    apply (setAnalyzer g (some grammar)) ⟨records, none, none⟩

/-! ## Errors -/

/-- The file of a module: the checked module itself, a file the analyzer named, or
a file beside the checked module. -/
def moduleFile (run : Run) (moduleName : Text) : Except Fault Text :=
  let beside := moduleName ++ ".tla".toList
  match run.soFar.specPath, run.analyzer.bind (·.fileOf? moduleName) with
  | some spec, known =>
    if (Path.ofText spec).stem = moduleName then .ok spec
    else
      match known with
      | some file => .ok file
      | none => (((Path.ofText spec).withName beside).map Path.toText).mapError .nameless
  | none, some file => .ok file
  | none, none => .ok beside

/-- The file and range of a location. -/
def readLocation (run : Run) (d : LocationDigits) : Except Fault (Text × Range) := do
  let file ← moduleFile run d.moduleName
  let line ← Protocol.readNumber d.line
  let column ← Protocol.readNumber d.column
  let endLine ← Protocol.readNumber d.endLine
  let endColumn ← Protocol.readNumber d.endColumn
  return (file, .ofToolSpan line column endLine endColumn)

/-- Adds an error with one text at every location, up to the first fault. -/
def reportAt (g : Gathered Run) (text : Text) : List LocationDigits → Step Run
  | [] => ⟨g, .ok []⟩
  | d :: rest =>
    match readLocation g.grammar d with
    | .error fault => ⟨g, .error fault⟩
    | .ok (file, range) =>
      let (g, events) := g.addRecord tool ⟨file, range, .error, text⟩
      let later := reportAt g text rest
      ⟨later.gathered, later.events.map (events ++ ·)⟩

/-- The outcome after an error. -/
def afterError (toolBug : Bool) : Outcome → Outcome
  | .running => if toolBug then .fatal else .error
  | .success => if toolBug then .fatal else .error
  | outcome => outcome

/-- The lines of a message that are not blank. -/
def filledLines (lines : List Text) : List Text :=
  lines.filter fun line => !(Text.strip line).isEmpty

/-- Reads an error message. -/
def onError (g : Gathered Run) (m : Message) : Step Run :=
  let lines := filledLines m.lines
  let toolBug := g.grammar.toolBug
  let g := update g fun r =>
    { r with errors := r.errors ++ [⟨m.code, lines⟩], outcome := afterError toolBug r.outcome }
  reportAt g (lines.headD []) (Scan.findAll location m.text)

/-! ## Trace states and counters -/

/-- Reads a state of the error trace.  A message without a title is passed over. -/
def onTraceState (g : Gathered Run) (m : Message) : Gathered Run × Except Fault Unit :=
  match m.lines with
  | [] => (g, .ok ())
  | first :: rest =>
    match Scan.front traceTitle (Text.strip first) with
    | none => (g, .ok ())
    | some (number, title) =>
      match Protocol.readNumber number with
      | .error fault => (g, .error fault)
      | .ok number =>
        (update g fun r =>
          { r with errorTrace := r.errorTrace ++ [⟨number, title, filledLines rest⟩] }, .ok ())

/-- Reads the three counters. -/
def readCounters (timeStamp : Text) (diameter : Nat) (c : Counters) : Except Fault Stat := do
  let generated ← Protocol.readCounter c.generated
  let distinct ← Protocol.readCounter c.distinct
  let left ← Protocol.readCounter c.left
  return ⟨timeStamp, diameter, generated, distinct, left⟩

/-- Sets the depth. -/
def setDiameter (g : Gathered Run) (diameter : Nat) : Gathered Run :=
  { g with grammar := { g.grammar with diameter } }

/-- Reads a progress message.  The depth counts even if a counter is malformed. -/
def onProgress (g : Gathered Run) (text : Text) : Gathered Run × Except Fault Unit :=
  match Scan.search progressLine text with
  | none => (g, .ok ())
  | some d =>
    match Protocol.readNumber d.diameter with
    | .error fault => (g, .error fault)
    | .ok diameter =>
      let g := setDiameter g diameter
      match readCounters d.timeStamp diameter d.counters with
      | .error fault => (g, .error fault)
      | .ok stat =>
        (update g fun r => { r with initialStats := r.initialStats ++ [stat] }, .ok ())

/-- Reads a statistics message. -/
def onStats (g : Gathered Run) (text : Text) : Gathered Run × Except Fault Unit :=
  match Scan.search statsLine text with
  | none => (g, .ok ())
  | some counters =>
    match readCounters (g.grammar.soFar.endTime.getD []) g.grammar.diameter counters with
    | .error fault => (g, .error fault)
    | .ok stat => (update g fun r => { r with finalStats := some stat }, .ok ())

/-- Reads the depth of the search. -/
def onDepth (g : Gathered Run) (text : Text) : Gathered Run × Except Fault Unit :=
  match Scan.search depthLine text with
  | none => (g, .ok ())
  | some digits =>
    match Protocol.readNumber digits with
    | .error fault => (g, .error fault)
    | .ok diameter => (setDiameter g diameter, .ok ())

/-- The entry of a coverage line. -/
def readCoverage (d : CoverageDigits) : Except Fault Coverage := do
  let first ← Protocol.readNumber d.first
  let second ← Protocol.readNumber d.second
  return ⟨d.moduleName, d.action, d.location, first, second⟩

/-- Reads coverage lines in order, up to the first fault. -/
def onCoverage (g : Gathered Run) : List Text → Gathered Run × Except Fault Unit
  | [] => (g, .ok ())
  | line :: rest =>
    match Scan.front coverageLine (Text.strip line) with
    | none => onCoverage g rest
    | some d =>
      match readCoverage d with
      | .error fault => (g, .error fault)
      | .ok entry =>
        onCoverage (update g fun r => { r with coverage := r.coverage ++ [entry] }) rest

/-! ## The outcome -/

/-- The outcome of a run that ended without saying more. -/
def terminalOutcome (g : Gathered Run) : Outcome :=
  if g.grammar.toolBug then .fatal
  else if !g.grammar.soFar.errors.isEmpty || g.diagnostics.hasErrors then .error
  else .success

/-- Settles the outcome of a run that is still open. -/
def settle (outcome : Outcome) (r : CheckReport) : CheckReport :=
  if r.outcome = .running then { r with outcome } else r

/-- Reads the message that ends the run. -/
def onFinished (g : Gathered Run) (text : Text) : Gathered Run :=
  let g := update g fun r => { r with phase := .finished }
  let g :=
    match Scan.front finishedLine text with
    | some (duration, time) =>
      update g fun r => { r with duration := some duration, endTime := some time }
    | none => g
  update g (settle (terminalOutcome g))

/-- Reads a message that moves the phase or the counters. -/
def onStatus (g : Gathered Run) (topic : Topic) (text : Text) :
    Gathered Run × Except Fault Unit :=
  match topic with
  | .starting =>
    (update g fun r => { r with phase := .starting, startTime := Scan.search timeStamp text },
      .ok ())
  | .modelChecking => (update g fun r => { r with mode := some "mc".toList }, .ok ())
  | .simulation => (update g fun r => { r with mode := some "simulate".toList }, .ok ())
  | .computingInitialStates =>
    (update g fun r => { r with phase := .computingInitialStates }, .ok ())
  | .initialStatesGenerated => (update g fun r => { r with phase := .checking }, .ok ())
  | .checkingLiveness => (update g fun r => { r with phase := .checkingLiveness }, .ok ())
  | .success =>
    (update g fun r =>
      { settle .success r with collisionProbability := Scan.search collisionLine text }, .ok ())
  | .searchDepth => onDepth g text
  | .progress => onProgress g text
  | .stats => onStats g text
  | .coverage => onCoverage g (Text.lines text)
  | .finished => (onFinished g text, .ok ())
  | _ => (g, .ok ())

/-- A step without events. -/
def silent (result : Gathered Run × Except Fault Unit) : Step Run :=
  ⟨result.1, result.2.map fun _ => []⟩

/-- Marks a tool bug. -/
def markToolBug (g : Gathered Run) (m : Message) : Gathered Run :=
  if m.subCode = some 2 then { g with grammar := { g.grammar with toolBug := true } } else g

/-- Reads one message: its findings, and what it changes. -/
def dispatch (g : Gathered Run) (m : Message) : Step Run :=
  let topic := Topic.ofCode m.code
  if topic = .analyzerStart then
    ⟨setAnalyzer (update g fun r => { r with phase := .parsing }) (some .start), .ok []⟩
  else if topic = .analyzerEnd then
    let (g, events) := flushAnalyzer g
    ⟨update (setAnalyzer g none) fun r => { r with phase := .parsed }, .ok events⟩
  else
    let g := markToolBug g m
    if m.subCode = some 1 ∨ m.subCode = some 2 ∨ topic = .failure then onError g m
    else if m.subCode = some 3 then
      ⟨update g fun r => { r with warnings := r.warnings ++ [m.text] }, .ok []⟩
    else if topic = .traceState ∨ m.subCode = some 4 then silent (onTraceState g m)
    else silent (onStatus g topic m.text)

/-- What a message is called in its progress event. -/
def detail (m : Message) : Text :=
  match m.lines with
  | first :: _ => Text.strip first
  | [] => "message ".toList ++ Text.ofNat m.code

/-- Reads a message: its findings, then its progress. -/
def onMessage (g : Gathered Run) (m : Message) : Step Run :=
  let step := dispatch g m
  ⟨step.gathered, step.events.map fun events =>
    events ++ [.progress tool (detail m) (some (snapshot step.gathered))]⟩

/-- The outcome when the output has ended. -/
def finalOutcome (g : Gathered Run) (stopped : Bool) : Outcome :=
  if stopped then .stopped
  else
    match g.grammar.soFar.outcome with
    | .running => if g.diagnostics.hasErrors then .error else .fatal
    | outcome => outcome

/-- The decoder of the model checker's output. -/
def decoder : Decoder Run CheckReport where
  tool := tool
  onLine := onLine
  onMessage := onMessage
  onEnd := flushAnalyzer
  report g stopped := { snapshot g with outcome := finalOutcome g stopped }
  wrap := .check

/-- A session for a module, which counts as read from the start. -/
def session (spec : Option Text) : Protocol.Session Run CheckReport :=
  let files := match spec with
    | some file => Diagnostic.Collection.empty.addFile file
    | none => .empty
  .start ⟨⟨{ CheckReport.blank with specPath := spec }, 0, false, none⟩, files, []⟩

end TlaRunner.Checker
