import TlaRunner.Diagnostic.Collection
import TlaRunner.Report.Condition

/-!
# Reports of the model checker

A report says how a check stands: its outcome, the phase it reached, and what it
printed, each list in the order of the output.  The same type describes a running
check and a finished one.
-/

namespace TlaRunner

/-- How a check stands. -/
inductive Outcome
  | running
  | success
  | error
  | stopped
  | fatal
  deriving DecidableEq, Repr

namespace Outcome

/-- The name of an outcome. -/
def name : Outcome → Text
  | running => "running".toList
  | success => "success".toList
  | error => "error".toList
  | stopped => "stopped".toList
  | fatal => "fatal".toList

/-- All outcomes. -/
def all : List Outcome := [running, success, error, stopped, fatal]

/-- Reads an outcome by its name. -/
def ofName? (s : Text) : Option Outcome :=
  all.find? (·.name = s)

end Outcome

/-- The phase a check reported last. -/
inductive Phase
  | notStarted
  | parsing
  | parsed
  | starting
  | computingInitialStates
  | checking
  | checkingLiveness
  | finished
  deriving DecidableEq, Repr

namespace Phase

/-- The name of a phase. -/
def name : Phase → Text
  | notStarted => "not_started".toList
  | parsing => "sany_parsing".toList
  | parsed => "sany_finished".toList
  | starting => "starting".toList
  | computingInitialStates => "initial_states_computing".toList
  | checking => "checking".toList
  | checkingLiveness => "checking_liveness".toList
  | finished => "finished".toList

/-- All phases, in the order of a run. -/
def all : List Phase :=
  [notStarted, parsing, parsed, starting, computingInitialStates, checking, checkingLiveness,
    finished]

/-- Reads a phase by its name. -/
def ofName? (s : Text) : Option Phase :=
  all.find? (·.name = s)

end Phase

/-- The counters of the state space at one time. -/
structure Stat where
  /-- When they were printed. -/
  timeStamp : Text
  /-- The depth reached. -/
  diameter : Int
  /-- The states generated. -/
  generated : Int
  /-- The distinct ones among them. -/
  distinct : Int
  /-- The states not yet explored. -/
  left : Int
  deriving DecidableEq, Repr

/-- The coverage counters of an action. -/
structure Coverage where
  /-- The module of the action. -/
  moduleName : Text
  /-- The action. -/
  action : Text
  /-- Where it stands, as printed. -/
  location : Text
  /-- The first counter. -/
  total : Int
  /-- The second counter. -/
  distinct : Int
  deriving DecidableEq, Repr

/-- An error message. -/
structure ErrorInfo where
  /-- The message code. -/
  code : Nat
  /-- Its lines that are not blank. -/
  lines : List Text
  deriving DecidableEq, Repr

/-- One state of an error trace. -/
structure TraceState where
  /-- Its number. -/
  number : Int
  /-- The action that led to it. -/
  title : Text
  /-- The lines with its variables. -/
  assignments : List Text
  deriving DecidableEq, Repr

/-- How a check stands and what it printed. -/
structure CheckReport where
  /-- The module that is checked. -/
  specPath : Option Text
  /-- How the check stands. -/
  outcome : Outcome
  /-- The phase. -/
  phase : Phase
  /-- Model checking or simulation. -/
  mode : Option Text
  /-- When it started. -/
  startTime : Option Text
  /-- When it ended. -/
  endTime : Option Text
  /-- How long it took. -/
  duration : Option Text
  /-- The counters of the progress messages. -/
  initialStats : List Stat
  /-- The counters of the last statistics message. -/
  finalStats : Option Stat
  /-- The coverage counters. -/
  coverage : List Coverage
  /-- The error messages. -/
  errors : List ErrorInfo
  /-- The error trace. -/
  errorTrace : List TraceState
  /-- The warnings. -/
  warnings : List Text
  /-- The probability that two states were taken for one. -/
  collisionProbability : Option Text
  /-- The findings by file. -/
  diagnostics : Diagnostic.Mapping
  /-- The stream anomalies. -/
  conditions : List Condition
  deriving DecidableEq, Repr

namespace CheckReport

/-- The report of a check of which nothing is known. -/
def blank : CheckReport :=
  ⟨none, .running, .notStarted, none, none, none, none, [], none, [], [], [], [], none, [], []⟩

/-- Whether the output ended inside a message. -/
def truncated (r : CheckReport) : Bool :=
  Condition.anyTruncated r.conditions

/-- Whether the check is over. -/
def finished (r : CheckReport) : Bool :=
  r.outcome ≠ .running

end CheckReport

end TlaRunner
