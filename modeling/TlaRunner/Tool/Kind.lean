import TlaRunner.Text.Quoted

/-!
# Tools

The three tools of the tools archive: the PlusCal transpiler, the syntactic
analyzer and the model checker.
-/

namespace TlaRunner

/-- One of the tools. -/
inductive Tool
  | transpiler
  | analyzer
  | modelChecker
  deriving DecidableEq, Repr

/-- A name that is no tool's name. -/
structure UnknownTool where
  /-- The name. -/
  name : Text
  deriving DecidableEq, Repr

namespace Tool

/-- All tools. -/
def all : List Tool := [transpiler, analyzer, modelChecker]

/-- The short name used in settings and events. -/
def name : Tool → Text
  | transpiler => "pluscal".toList
  | analyzer => "sany".toList
  | modelChecker => "tlc".toList

/-- The class the Java runtime starts. -/
def mainClass : Tool → Text
  | transpiler => "pcal.trans".toList
  | analyzer => "tla2sany.SANY".toList
  | modelChecker => "tlc2.TLC".toList

/-- The name shown to users. -/
def displayName : Tool → Text
  | transpiler => "PlusCal".toList
  | analyzer => "SANY".toList
  | modelChecker => "TLC".toList

/-- Reads a tool by its short name. -/
def ofName (s : Text) : Except UnknownTool Tool :=
  match all.find? (·.name = s) with
  | some tool => .ok tool
  | none => .error ⟨s⟩

end Tool

/-- The wording of an unknown tool. -/
def UnknownTool.message (e : UnknownTool) : Text :=
  Text.quoted e.name ++ " is not a valid ToolKind".toList

end TlaRunner
