import TlaRunner.Report.Check
import TlaRunner.Settings.Field

/-!
# Checking reports

A report of a check that comes from outside is checked field by field.  What is left
out is as in a blank report, and keys that are not known are passed over.
-/

namespace TlaRunner

/-- Checks the counters of a time. -/
def Stat.ofValue (v : Value) : Checked Stat :=
  v.asTable.bind fun t =>
    let counter (key : String) := t.field key.toList Value.asInt
    let checked :=
      (t.field "time_stamp".toList Value.asText).both <|
      (counter "diameter").both <|
      (counter "generated").both <|
      (counter "distinct").both <|
      counter "left"
    checked.map fun (timeStamp, diameter, generated, distinct, left) =>
      ⟨timeStamp, diameter, generated, distinct, left⟩

/-- Checks the coverage of an action. -/
def Coverage.ofValue (v : Value) : Checked Coverage :=
  v.asTable.bind fun t =>
    let text (key : String) := t.field key.toList Value.asText
    let checked :=
      (text "module").both <|
      (text "action").both <|
      (text "location").both <|
      (t.field "total".toList Value.asInt).both <|
      t.field "distinct".toList Value.asInt
    checked.map fun (moduleName, action, location, total, distinct) =>
      ⟨moduleName, action, location, total, distinct⟩

/-- Checks an error message. -/
def ErrorInfo.ofValue (v : Value) : Checked ErrorInfo :=
  v.asTable.bind fun t =>
    ((t.field "code".toList Value.asInt).both
      (t.field "lines".toList (Value.asList Value.asText))).map fun (code, lines) =>
      ⟨code.toNat, lines⟩

/-- Checks a state of an error trace. -/
def TraceState.ofValue (v : Value) : Checked TraceState :=
  v.asTable.bind fun t =>
    let checked :=
      (t.field "number".toList Value.asInt).both <|
      (t.field "title".toList Value.asText).both <|
      t.fieldOr "variables".toList (Value.asList Value.asText) []
    checked.map fun (number, title, lines) => ⟨number, title, lines⟩

/-- Checks a stream anomaly. -/
def Condition.ofValue (v : Value) : Checked Condition :=
  v.asTable.bind fun t =>
    ((t.field "kind".toList (Value.asName Anomaly.ofName?)).both
      (t.field "detail".toList Value.asText)).map fun (kind, detail) => ⟨kind, detail⟩

/-- Checks a report without findings. -/
def CheckReport.ofValue (v : Value) : Checked CheckReport :=
  v.asTable.bind fun t =>
    let text (key : String) := t.fieldOr key.toList (Value.asOption Value.asText) none
    let checked :=
      (text "spec_path").both <|
      (t.fieldOr "state".toList (Value.asName Outcome.ofName?) .running).both <|
      (t.fieldOr "status".toList (Value.asName Phase.ofName?) .notStarted).both <|
      (text "mode").both <|
      (text "start_time").both <|
      (text "end_time").both <|
      (text "duration").both <|
      (t.fieldOr "initial_state_stats".toList (Value.asList Stat.ofValue) []).both <|
      (t.fieldOr "final_stats".toList (Value.asOption Stat.ofValue) none).both <|
      (t.fieldOr "coverage".toList (Value.asList Coverage.ofValue) []).both <|
      (t.fieldOr "errors".toList (Value.asList ErrorInfo.ofValue) []).both <|
      (t.fieldOr "error_trace".toList (Value.asList TraceState.ofValue) []).both <|
      (t.fieldOr "warnings".toList (Value.asList Value.asText) []).both <|
      (text "fingerprint_collision_probability").both <|
      t.fieldOr "conditions".toList (Value.asList Condition.ofValue) []
    checked.map fun (specPath, outcome, phase, mode, startTime, endTime, duration, initialStats,
        finalStats, coverage, errors, errorTrace, warnings, collisionProbability, conditions) =>
      ⟨specPath, outcome, phase, mode, startTime, endTime, duration, initialStats, finalStats,
        coverage, errors, errorTrace, warnings, collisionProbability, [], conditions⟩

end TlaRunner
