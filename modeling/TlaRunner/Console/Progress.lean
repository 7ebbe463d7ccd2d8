import TlaRunner.Protocol.Event

/-!
# Announcing phases

While a check goes on, each phase it enters is announced in a line.  An event that
tells the phase announced last says nothing new.
-/

namespace TlaRunner.Console

open Protocol (Event)

/-- The label of a phase. -/
def phaseLabel : Phase → Text
  | .notStarted => "Not started".toList
  | .parsing => "Parsing specification".toList
  | .parsed => "Specification parsed".toList
  | .starting => "Starting".toList
  | .computingInitialStates => "Computing initial states".toList
  | .checking => "Checking".toList
  | .checkingLiveness => "Checking liveness".toList
  | .finished => "Finished".toList

/-- The line that announces a phase. -/
def phaseLine (phase : Phase) : Text :=
  "» ".toList ++ phaseLabel phase

/-- The phase an event tells, if it tells one. -/
def phaseOf : Event → Option Phase
  | .progress _ _ snapshot => snapshot.map (·.phase)
  | _ => none

/-- Announces the phase of an event, unless it was announced last: the phase
announced last from then on, and the line. -/
def announce (last : Option Phase) (event : Event) : Option Phase × Option Text :=
  match phaseOf event with
  | none => (last, none)
  | some phase => if last = some phase then (last, none) else (some phase, some (phaseLine phase))

/-- The lines that announce the phases of events. -/
def announcements (last : Option Phase) : List Event → List Text
  | [] => []
  | event :: rest =>
    let (last, line) := announce last event
    line.toList ++ announcements last rest

end TlaRunner.Console
