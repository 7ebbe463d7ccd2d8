import TlaRunner.Analyzer.Grammar
import TlaRunner.Protocol.Session

/-!
# Output of the analyzer

Lines inside and outside messages are read by the same grammar.  A file that is
named counts as read, with or without findings.  The events of a line are its
progress and then its findings.
-/

namespace TlaRunner.Analyzer

open Protocol (Gathered Step Event Message Decoder)

/-- The tool. -/
def tool : Tool := .analyzer

/-- Takes over what a line gave. -/
def apply (g : Gathered Grammar) (result : LineResult) : Gathered Grammar × List Event :=
  let g := match result.file with
    | some file => g.addFile file
    | none => g
  let progress := result.progress.toList.map fun detail => Event.progress tool detail none
  let (g, events) := g.addRecords tool result.records
  (g, progress ++ events)

/-- Reads a line. -/
def onLine (g : Gathered Grammar) (line : Text) : Step Grammar :=
  let (grammar, result) := g.grammar.feed line
  let g := { g with grammar }
  match result with
  | .error fault => ⟨g, .error fault⟩
  | .ok result =>
    let (g, events) := apply g result
    ⟨g, .ok events⟩

/-- Reads lines in order, up to the first fault. -/
def onLines (g : Gathered Grammar) : List Text → Step Grammar
  | [] => ⟨g, .ok []⟩
  | line :: rest =>
    let here := onLine g line
    match here.events with
    | .error fault => ⟨here.gathered, .error fault⟩
    | .ok events =>
      let later := onLines here.gathered rest
      ⟨later.gathered, later.events.map (events ++ ·)⟩

/-- Gives up the finding that is being read. -/
def onEnd (g : Gathered Grammar) : Gathered Grammar × List Event :=
  let (records, grammar) := g.grammar.flush
  apply { g with grammar } ⟨records, none, none⟩

/-- The decoder of the analyzer's output. -/
def decoder : Decoder Grammar ParseReport where
  tool := tool
  onLine := onLine
  onMessage g m := onLines g m.lines
  onEnd := onEnd
  report g _ := ⟨tool, g.diagnostics.mapping, g.grammar.modules, g.conditions⟩
  wrap := .parse

/-- A session before any output. -/
def session : Protocol.Session Grammar ParseReport :=
  .start ⟨.start, .empty, []⟩

end TlaRunner.Analyzer
