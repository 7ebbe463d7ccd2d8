import TlaRunner.Text.Basic

/-!
# Stream anomalies

A stream of tool output may break the message protocol or end inside a message.
Neither stops the decoding; both are noted as conditions of the final report.
-/

namespace TlaRunner

/-- The two kinds of anomaly. -/
inductive Anomaly
  /-- A message was not closed by its own end marker. -/
  | violation
  /-- The output ended inside a message. -/
  | truncated
  deriving DecidableEq, Repr

/-- The name of an anomaly. -/
def Anomaly.name : Anomaly → Text
  | violation => "protocol_violation".toList
  | truncated => "truncated_output".toList

/-- All anomalies. -/
def Anomaly.all : List Anomaly := [.violation, .truncated]

/-- Reads an anomaly by its name. -/
def Anomaly.ofName? (s : Text) : Option Anomaly :=
  all.find? (·.name = s)

/-- An anomaly with its description. -/
structure Condition where
  /-- The kind. -/
  kind : Anomaly
  /-- What happened. -/
  detail : Text
  deriving DecidableEq, Repr

/-- Whether some condition says that the output was cut. -/
def Condition.anyTruncated (conditions : List Condition) : Bool :=
  conditions.any (·.kind = .truncated)

end TlaRunner
