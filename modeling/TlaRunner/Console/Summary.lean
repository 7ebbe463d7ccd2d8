import TlaRunner.Console.Progress
import TlaRunner.Console.Screen

/-!
# Summaries of checks

A check is summarized in a panel, followed by its errors, its warnings and its error
trace.  Rows without a value are left out.  The values in the panel and the trace
are styled text; errors and warnings are not.
-/

namespace TlaRunner.Console

/-- A counter with its thousands set apart. -/
def counterText (n : Int) : Text :=
  (if n < 0 then ['-'] else []) ++ Text.ofCount n.natAbs

/-- A row, unless its value is missing or empty. -/
def valueRow (label : String) : Option Text → List (Text × Text)
  | some (c :: s) => [(label.toList, c :: s)]
  | _ => []

/-- The counters that are shown: the final ones, or the last ones that were reported
before. -/
def shownStat (r : CheckReport) : Option Stat :=
  r.finalStats <|> r.initialStats.getLast?

/-- The rows of counters. -/
def statRows (s : Stat) : List (Text × Text) :=
  [("Diameter".toList, Text.ofInt s.diameter),
    ("States found".toList, counterText s.generated),
    ("Distinct states".toList, counterText s.distinct),
    ("Queue size".toList, counterText s.left)]

/-- The rows of the panel. -/
def summaryRows (r : CheckReport) : List (Text × Text) :=
  ("Status".toList, phaseLabel r.phase) :: valueRow "Mode" r.mode
    ++ valueRow "Started" r.startTime ++ valueRow "Duration" r.duration
    ++ ((shownStat r).map statRows).getD []
    ++ valueRow "Fingerprint collision" r.collisionProbability
    ++ r.conditions.map fun c => ("Output warning".toList, c.detail)

/-- A column of the panel. -/
def summaryColumn : Column := ⟨[], ⟨false, .ellipsis, .left⟩⟩

/-- The panel. -/
def summaryPanel (r : CheckReport) : Panel :=
  ⟨"TLC: ".toList ++ r.outcome.name, ⟨[summaryColumn, summaryColumn], false, false,
    (summaryRows r).map fun (label, value) => [Cell.plain label, Cell.ofMarkup value]⟩⟩

/-- The title above an error trace. -/
def traceTitle : Text := "Error trace".toList

/-- The columns of an error trace. -/
def traceColumns : List Column :=
  [⟨"#".toList, ⟨true, .ellipsis, .right⟩⟩, ⟨"Action".toList, ⟨true, .ellipsis, .left⟩⟩,
    ⟨"Variables".toList, ⟨true, .fold, .left⟩⟩]

/-- The table of an error trace. -/
def traceTable (trace : List TraceState) : Table :=
  ⟨traceColumns, true, true, trace.map fun state =>
    [Cell.plain (Text.ofInt state.number), Cell.ofMarkup state.title,
      Cell.ofMarkup (Text.join ['\n'] state.assignments)]⟩

/-- The lines of an error trace; without states there are none. -/
def traceLines (screen : Screen) (trace : List TraceState) : Except MarkupFault (List Text) :=
  if trace.isEmpty then .ok [] else screen.titledTable traceTitle (traceTable trace)

/-- What a summary prints: the lines up to a text that is refused, and that text. -/
structure Printed where
  /-- The lines. -/
  lines : List Text
  /-- Why they end early. -/
  fault : Option MarkupFault
  deriving DecidableEq, Repr

/-- Prints more lines, unless a text was refused. -/
def Printed.andThen (p : Printed) (next : Except MarkupFault (List Text)) : Printed :=
  match p.fault, next with
  | some _, _ => p
  | none, .ok lines => ⟨p.lines ++ lines, none⟩
  | none, .error fault => ⟨p.lines, some fault⟩

/-- The summary of a check. -/
def summary (screen : Screen) (r : CheckReport) : Printed :=
  let errors := r.errors.flatMap fun e => screen.text (Text.join ['\n'] e.lines)
  let warnings := r.warnings.flatMap screen.text
  ((Printed.mk [] none).andThen (screen.panel (summaryPanel r))).andThen
    (.ok (errors ++ warnings)) |>.andThen (traceLines screen r.errorTrace)

end TlaRunner.Console
