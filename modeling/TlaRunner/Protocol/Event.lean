import TlaRunner.Path
import TlaRunner.Report.Check
import TlaRunner.Report.Parse
import TlaRunner.Text.Numeral

/-!
# Messages, events and faults

A decoder turns lines and finished messages into events: a new finding, progress,
and at the very end the report.  Progress of the model checker carries a report
of the run so far.

A fault is a line that cannot be decoded.  It leaves the session as it was before
or with part of the line's effect, and later lines can still be read.
-/

namespace TlaRunner.Protocol

/-- A finished message. -/
structure Message where
  /-- Its code. -/
  code : Nat
  /-- Its class, if it has one. -/
  subCode : Option Nat
  /-- The lines between its markers. -/
  lines : List Text
  deriving DecidableEq, Repr

/-- The lines of a message as one text. -/
def Message.text (m : Message) : Text :=
  Text.join ['\n'] m.lines

/-- The report of a tool run. -/
inductive ToolReport
  | parse (report : ParseReport)
  | check (report : CheckReport)
  deriving DecidableEq, Repr

/-- What a decoder tells while it reads. -/
inductive Event
  /-- A new finding. -/
  | diagnostic (tool : Tool) (record : Diagnostic.Record)
  /-- Progress, with the run so far where the tool has one. -/
  | progress (tool : Tool) (detail : Text) (snapshot : Option CheckReport)
  /-- The end of the output and the final report. -/
  | report (tool : Tool) (report : ToolReport)
  deriving DecidableEq, Repr

/-- Why a line or a call was refused. -/
inductive Fault
  /-- A number cannot be read. -/
  | numeral (error : Text.NumeralError)
  /-- A module has no place beside a path without a name. -/
  | nameless (error : NamelessPath)
  /-- The report was already made. -/
  | finished (tool : Tool)
  /-- The output was already read once. -/
  | restarted (tool : Tool)
  /-- The report was asked for before the end. -/
  | unfinished (tool : Tool)
  deriving DecidableEq, Repr

/-- The wording of a fault. -/
def Fault.message : Fault → Text
  | .numeral error => error.message
  | .nameless error => error.message
  | .finished tool => tool.displayName ++ " parser is single-use and already finished".toList
  | .restarted tool => tool.displayName ++ " parser is single-use and cannot be restarted".toList
  | .unfinished tool => tool.displayName ++ " output has not been fully read".toList

/-- Reads a numeral of a line. -/
def readNumber (digits : Text) : Except Fault Nat :=
  (Text.readNat digits).mapError .numeral

/-- Reads a counter of a line. -/
def readCounter (digits : Text) : Except Fault Nat :=
  (Text.readCount digits).mapError .numeral

end TlaRunner.Protocol
