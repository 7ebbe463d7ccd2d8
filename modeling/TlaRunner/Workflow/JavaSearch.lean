import TlaRunner.Workflow.Bench

/-!
# Looking for Java on a bench

Java that is not known has to be asked for its version by a process.  `seekJava`
starts the process if one is needed, and `learnJava` takes the answer once the
process has ended.  The answer is the error stream of the process and then its
output, where runtimes differ on which they use.
-/

namespace TlaRunner.Workflow

open Supervision (Child Exit Program)

/-- What looking for Java led to. -/
inductive JavaSearch
  /-- The executable is known. -/
  | found (executable : Path)
  /-- A process was started that will tell its version. -/
  | asked (process : Nat) (executable : Path)
  | failed (failure : Failure)

namespace Bench

/-- Looks for Java. -/
def seekJava (b : Bench) : Bench × JavaSearch :=
  let (cache, search) := b.cache.search b.host b.config.javaHome
  let b := { b with cache }
  match search with
  | .known executable => (b, .found executable)
  | .failed fault => (b, .failed (.java fault))
  | .ask executable =>
    match b.startProbe executable with
    | (b, .error failure) => (b, .failed (.start failure))
    | (b, .ok process) =>
      match (b.child? process).map Child.readAll with
      | some (.error error) => (b, .failed (.noOutput error))
      | _ => (b, .asked process executable)

/-- The lines of an answer. -/
def answerLines (exit : Exit) (program : Program) : List Text :=
  exit.errors ++ Text.lines (Text.decode (program.output.getD []))

/-- Takes the answer of a process, if it has ended: Java is usable, or why it is not. -/
def learnJava (b : Bench) (process : Nat) (executable : Path) :
    Option (Bench × Except Failure Unit) :=
  (b.child? process).bind fun child =>
    child.wait?.map fun (exit, waited) =>
      let b := b.modifyChild process fun _ => waited
      match Java.Cache.learn b.config.javaHome executable (answerLines exit child.program) with
      | .error fault => (b, .error (.java fault))
      | .ok (cache, warning) => ({ b with cache }.tell (warning.toList.map .warning), .ok ())

/-- Finds Java, and lets time go by until it has answered. -/
def resolveJava (b : Bench) : Bench × Except Failure Path :=
  match b.seekJava with
  | (b, .found executable) => (b, .ok executable)
  | (b, .failed failure) => (b, .error failure)
  | (b, .asked process executable) =>
    let b := if b.isRunning process then (b.nextDue.map b.elapse).getD b else b
    match b.learnJava process executable with
    | some (b, result) => (b, result.map fun _ => executable)
    | none => (b, .error .cancelled)

end Bench

end TlaRunner.Workflow
