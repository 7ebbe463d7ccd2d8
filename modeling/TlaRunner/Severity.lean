import TlaRunner.Text.Quoted

/-!
# Severities

The four levels of a finding, and the message classes by which the model checker
marks its messages.  Only three classes decide a severity; every other class and
every unknown one leaves the default.
-/

namespace TlaRunner

/-- How bad a finding is. -/
inductive Severity
  | error
  | warning
  | information
  | hint
  deriving DecidableEq, Repr

namespace Severity

/-- A larger rank is a worse severity. -/
def rank : Severity → Nat
  | error => 3
  | warning => 2
  | information => 1
  | hint => 0

/-- The name written in reports. -/
def name : Severity → Text
  | error => "error".toList
  | warning => "warning".toList
  | information => "information".toList
  | hint => "hint".toList

/-- The color a severity is shown in. -/
def color : Severity → Text
  | error => "red".toList
  | warning => "yellow".toList
  | information => "blue".toList
  | hint => "cyan".toList

/-- All severities, worst first. -/
def all : List Severity := [error, warning, information, hint]

/-- Reads a severity by its name. -/
def ofName? (s : Text) : Option Severity :=
  all.find? (·.name = s)

theorem ofName?_name (a : Severity) : ofName? a.name = some a := by
  cases a <;> decide

/-- A name that is no severity's name. -/
structure Unknown where
  /-- The name. -/
  name : Text
  deriving DecidableEq, Repr

/-- The wording of an unknown severity. -/
def Unknown.message (e : Unknown) : Text :=
  Text.quoted e.name ++ " is not a valid Severity".toList

/-- Reads a severity by its name, or says that there is none. -/
def ofName (s : Text) : Except Unknown Severity :=
  match ofName? s with
  | some severity => .ok severity
  | none => .error ⟨s⟩

theorem rank_injective {a b : Severity} (h : a.rank = b.rank) : a = b := by
  cases a <;> cases b <;> simp_all [rank]

end Severity

/-- What a message of the model checker is about. -/
inductive MessageClass
  | none
  | error
  | toolBug
  | warning
  | state
  deriving DecidableEq, Repr

namespace MessageClass

/-- The class with a number, if there is one. -/
def ofCode? : Int → Option MessageClass
  | 0 => some none
  | 1 => some error
  | 2 => some toolBug
  | 3 => some warning
  | 4 => some state
  | _ => Option.none

/-- The severity a class decides. -/
def severity? : MessageClass → Option Severity
  | error => some .error
  | toolBug => some .error
  | warning => some .warning
  | none => Option.none
  | state => Option.none

end MessageClass

/-- The severity of a message with an optional class number. -/
def Severity.ofClass (code : Option Int) (default : Severity) : Severity :=
  ((code.bind MessageClass.ofCode?).bind MessageClass.severity?).getD default

end TlaRunner
