import TlaRunner.Proofs.Workflow.Incident

/-!
# Which processes a run touches

A run touches the process that it waits for and those that it starts, and no others
(`Plan.owns_act`).  No two tasks wait for the same process, and no parse waits for the process of
a ticket (`Floor.Separate`).

So a process that a parse waits for is read, waited for and interrupted by the parse alone.  All
that else may happen to it is that it closes its output or ends, and that its supervisor learns of
the end (`Floor.Separate.beside`).
-/

namespace TlaRunner

/-! ## Processes -/

/-- What may happen to a process that nobody reads or interrupts. -/
structure Supervision.Child.Beside (c after : Child) : Prop where
  /-- It runs the same program. -/
  program : after.program = c.program
  /-- Nothing of its output is read. -/
  unread : after.unread = c.unread
  /-- It is not asked to end. -/
  signaled : after.signaled = c.signaled

namespace Workflow

open Files (Saver SpecFiles)
open Supervision (Behavior Child Exit)
open Protocol (Reading)

namespace Bench

/-- Whoever touches one process at most, and starts others, leaves the rest as it was. -/
structure Spares (b after : Bench) (own : Option Nat) : Prop where
  /-- No command is forgotten. -/
  length : b.calls.length ≤ after.calls.length
  /-- Every other process is the same. -/
  child : ∀ process < b.calls.length, own ≠ some process →
    after.child? process = b.child? process

variable {b middle after : Bench} {own : Option Nat}

theorem spares_of_calls (h : after.calls = b.calls) : b.Spares after own :=
  ⟨Nat.le_of_eq (congrArg List.length h).symm, fun process _ _ => child?_of_calls h process⟩

theorem Spares.trans (hfirst : b.Spares middle own) (hlast : middle.Spares after own) :
    b.Spares after own := by
  refine ⟨Nat.le_trans hfirst.length hlast.length, fun process hthere hother => ?_⟩
  rw [hlast.child process (Nat.lt_of_lt_of_le hthere hfirst.length) hother,
    hfirst.child process hthere hother]

/-- A process that was not there yet may be touched, too. -/
theorem Spares.new (hfirst : b.Spares middle own)
    (hlast : middle.Spares after (some b.calls.length)) : b.Spares after own := by
  refine ⟨Nat.le_trans hfirst.length hlast.length, fun process hthere hother => ?_⟩
  have hold : some b.calls.length ≠ some process :=
    fun hsame => Nat.ne_of_gt hthere (Option.some.inj hsame)
  rw [hlast.child process (Nat.lt_of_lt_of_le hthere hfirst.length) hold,
    hfirst.child process hthere hother]

theorem spares_modifyChild (b : Bench) (process : Nat) (f : Child → Child) :
    b.Spares (b.modifyChild process f) (some process) := by
  refine ⟨Nat.le_of_eq (List.length_modify ..).symm, fun other _ hother => ?_⟩
  rw [child?_modifyChild, if_neg fun hsame => hother (congrArg some hsame), Option.map_id_fun, id]

theorem spares_interrupt (b : Bench) (process : Nat) :
    b.Spares (b.interrupt process) (some process) :=
  b.spares_modifyChild process Child.cancel

/-- Whoever starts a command, or fails to, adds one. -/
theorem calls_start (b : Bench) (behavior : Behavior) (executable : Text) (arguments : List Text)
    (directory : Option Path) :
    ∃ call, (b.start behavior executable arguments directory).1.calls = b.calls ++ [call] := by
  cases behavior with
  | refused reason => exact ⟨_, rfl⟩
  | runs program => exact ⟨_, rfl⟩

theorem calls_startTool (b : Bench) (executable : Path) (arguments : List Text)
    (directory : Path) :
    ∃ call, (b.startTool executable arguments directory).1.calls = b.calls ++ [call] :=
  calls_start { b with behaviors := b.behaviors.tail } _ _ _ _

theorem length_of_append {call : Call} (h : after.calls = b.calls ++ [call]) :
    b.calls.length < after.calls.length := by
  rw [h, List.length_append]
  exact Nat.lt_succ_self _

/-- A command that is added comes behind the others. -/
theorem spares_of_append {call : Call} (h : after.calls = b.calls ++ [call]) :
    b.Spares after own := by
  refine ⟨Nat.le_of_lt (length_of_append h), fun process hthere _ => ?_⟩
  rw [child?, h, List.getElem?_append_left hthere, child?]

/-- Java is asked by a process of its own. -/
theorem spares_seekJava (b : Bench) :
    b.Spares b.seekJava.1 none ∧ ∀ process executable, b.seekJava.2 = .asked process executable →
      process = b.calls.length ∧ process < b.seekJava.1.calls.length := by
  rw [seekJava]
  split
  next cache search _ =>
    have hcache : b.Spares { b with cache } none := spares_of_calls rfl
    cases search with
    | known executable => exact ⟨hcache, fun _ _ h => by cases h⟩
    | failed fault => exact ⟨hcache, fun _ _ h => by cases h⟩
    | ask executable =>
        obtain ⟨call, hcalls⟩ := calls_start { b with cache } b.javaBehavior executable.toText
          Java.versionQuery none
        simp only [startProbe]
        split
        next heq =>
          rw [heq] at hcalls
          exact ⟨hcache.trans (spares_of_append hcalls), fun _ _ h => by cases h⟩
        next started process heq =>
          rw [heq] at hcalls
          have hstart := hcache.trans (spares_of_append hcalls)
          have hprocess := (start_ok heq).2.2.1
          split
          · exact ⟨hstart, fun _ _ h => by cases h⟩
          · refine ⟨hstart, fun _ _ h => ?_⟩
            cases h
            exact ⟨hprocess, hprocess ▸ length_of_append hcalls⟩

theorem spares_learnJava {process : Nat} {executable : Path} {result : Except Failure Unit}
    (h : b.learnJava process executable = some (after, result)) :
    b.Spares after (some process) := by
  rw [learnJava] at h
  obtain ⟨child, _, hwait⟩ := Option.bind_eq_some_iff.mp h
  obtain ⟨⟨exit, waited⟩, _, hlearn⟩ := Option.map_eq_some_iff.mp hwait
  have hwaited := b.spares_modifyChild process fun _ => waited
  simp only at hlearn
  split at hlearn
  next =>
    obtain ⟨rfl, _⟩ := Prod.mk.inj hlearn
    exact hwaited
  next =>
    obtain ⟨rfl, _⟩ := Prod.mk.inj hlearn
    exact hwaited.trans (spares_of_calls rfl)

end Bench

/-! ## Runs -/

namespace Plan

variable {σ ρ : Type} {b after : Bench} {stage next : Stage σ ρ}

/-- What a run does to processes when something happens to it. -/
structure Owns (b : Bench) (stage : Stage σ ρ) (after : Bench) (next : Stage σ ρ) : Prop where
  /-- It touches the one that it waits for. -/
  spares : b.Spares after stage.awaited?
  /-- It waits for the same one, or for one that it started. -/
  awaited : ∀ process, next.awaited? = some process → stage.awaited? = some process ∨
    process = b.calls.length ∧ process < after.calls.length

/-- A run that waits for no other process than before. -/
theorem owns_of_awaited (hspares : b.Spares after stage.awaited?)
    (hnext : ∀ process, next.awaited? = some process → stage.awaited? = some process) :
    Owns b stage after next :=
  ⟨hspares, fun process hprocess => Or.inl (hnext process hprocess)⟩

variable (p : Plan σ ρ)

theorem spares_conclude (b : Bench) (result : Except Failure (ρ × Exit)) {own : Option Nat} :
    b.Spares (p.conclude b result).1 own :=
  Bench.spares_of_calls (p.calls_conclude b result).1

theorem spares_abandon (b : Bench) (process : Nat) (saver : Option Saver) (failure : Failure) :
    b.Spares (p.abandon b process saver failure).1 (some process) :=
  (Bench.spares_of_calls (calls_closeSaver b saver).1).trans
    ((Bench.spares_interrupt _ process).trans (p.spares_conclude _ _))

theorem spares_attach (b : Bench) (process : Nat) :
    b.Spares ((p.ticket.map (b.attach · process)).getD b) (some process) := by
  cases p.ticket with
  | none => exact Bench.spares_of_calls rfl
  | some ticket =>
      have hslot : b.Spares { b with slot := (b.slot.attach ticket process).1 } (some process) :=
        Bench.spares_of_calls rfl
      rw [Option.map_some, Option.getD_some, Bench.attach]
      simp only
      split
      · exact hslot.trans (Bench.spares_interrupt _ process)
      · exact hslot

theorem owns_locate (b : Bench) : Owns b .locating (p.locate b).1 (p.locate b).2 := by
  obtain ⟨hspares, hasked⟩ := b.spares_seekJava
  rw [locate]
  split
  next heq =>
    rw [heq] at hspares
    exact ⟨hspares, fun _ h => by cases h⟩
  next heq =>
    rw [heq] at hspares hasked
    refine ⟨hspares, fun _ h => ?_⟩
    cases h
    exact Or.inr (hasked _ _ rfl)
  next heq =>
    rw [heq] at hspares
    exact ⟨hspares.trans (p.spares_conclude _ _), fun _ h => by cases h⟩

theorem owns_learn (b : Bench) (process : Nat) (executable : Path) :
    Owns b (.probing process executable) (p.learn b process executable).1
      (p.learn b process executable).2 := by
  rw [learn]
  split
  next => exact owns_of_awaited (Bench.spares_of_calls rfl) fun _ h => h
  next hlearn =>
    exact ⟨(Bench.spares_learnJava hlearn).trans (p.spares_conclude _ _), fun _ h => by cases h⟩
  next hlearn => exact ⟨Bench.spares_learnJava hlearn, fun _ h => by cases h⟩

theorem owns_launch (b : Bench) (executable : Path) :
    Owns b (.launching executable) (p.launch b executable).1 (p.launch b executable).2 := by
  rw [launch]
  split
  next => exact ⟨p.spares_conclude b _, fun _ h => by cases h⟩
  next arguments _ =>
    obtain ⟨call, hcalls⟩ := b.calls_startTool executable arguments p.spec.directory
    split
    next heq =>
      rw [heq] at hcalls
      exact ⟨(Bench.spares_of_append hcalls).trans (p.spares_conclude _ _), fun _ h => by cases h⟩
    next started process heq =>
      rw [heq] at hcalls
      have hstart : b.Spares started none := Bench.spares_of_append hcalls
      obtain rfl := (Bench.startTool_ok heq).2.2.1
      have hattach := p.spares_attach started b.calls.length
      simp only
      generalize (p.ticket.map (started.attach · b.calls.length)).getD started = held at hattach ⊢
      split
      next =>
        exact ⟨hstart.new (hattach.trans (p.spares_abandon held _ none _)), fun _ h => by cases h⟩
      next saver opened hopen =>
        have hopened := hattach.trans
          (Bench.spares_of_calls (((p.openSaver_spec held).1 saver opened hopen).1))
        split
        next =>
          exact ⟨hstart.new (hopened.trans (p.spares_abandon opened _ saver _)),
            fun _ h => by cases h⟩
        next =>
          refine ⟨hstart.new hopened, fun _ h => ?_⟩
          cases h
          exact Or.inr ⟨rfl, Nat.lt_of_lt_of_le (Bench.length_of_append hcalls) hopened.length⟩

theorem owns_read (b : Bench) (process : Nat) (reading : Reading σ ρ) (saver : Option Saver) :
    Owns b (.reading process reading saver) (p.read b process reading saver).1
      (p.read b process reading saver).2 := by
  rw [read]
  split
  next => exact owns_of_awaited (Bench.spares_of_calls rfl) fun _ h => h
  next child _ =>
    have hread : b.Spares (p.readOn b process child reading saver).bench (some process) :=
      (b.spares_modifyChild process _).trans
        (Bench.spares_of_calls (p.reads_readOn b process child reading saver).calls)
    simp only
    split
    next => exact ⟨hread.trans (p.spares_abandon _ process _ _), fun _ h => by cases h⟩
    next =>
      split
      next => exact owns_of_awaited hread fun _ h => h
      next =>
        have hrelayed := hread.trans (Bench.spares_of_calls (Bench.calls_relay _
          ((p.readOn b process child reading saver).reading.finish p.decoder
            child.signaled).2.seen).1)
        split
        next => exact ⟨hrelayed.trans (p.spares_abandon _ process _ _), fun _ h => by cases h⟩
        next =>
          split
          next => exact ⟨hrelayed.trans (p.spares_abandon _ process _ _), fun _ h => by cases h⟩
          next =>
            exact owns_of_awaited
              (hrelayed.trans (Bench.spares_of_calls (calls_closeSaver _ _).1)) fun _ h => h

theorem owns_leave (b : Bench) (process : Nat) (report : ρ) :
    Owns b (.exiting process report) (p.leave b process report).1
      (p.leave b process report).2 := by
  rw [leave]
  split
  next => exact owns_of_awaited (Bench.spares_of_calls rfl) fun _ h => h
  next =>
    exact ⟨(b.spares_modifyChild process _).trans (p.spares_conclude _ _),
      fun _ h => by cases h⟩

/-- Whatever happens to a run, it touches its own processes. -/
theorem owns_act (b : Bench) (stage : Stage σ ρ) (act : Act) :
    Owns b stage (p.act b stage act).1 (p.act b stage act).2 := by
  have hsame : Owns b stage b stage := owns_of_awaited (Bench.spares_of_calls rfl) fun _ h => h
  cases act with
  | step =>
      cases stage with
      | locating => exact p.owns_locate b
      | probing process executable => exact p.owns_learn b process executable
      | launching executable => exact p.owns_launch b executable
      | reading process reading saver => exact p.owns_read b process reading saver
      | exiting process report => exact p.owns_leave b process report
      | ended result => exact hsame
  | upset reason =>
      cases stage with
      | reading process reading saver =>
          exact ⟨p.spares_abandon b process saver _, fun _ h => by cases h⟩
      | _ => exact hsame
  | cancel =>
      cases stage with
      | reading process reading saver =>
          exact ⟨p.spares_abandon b process saver _, fun _ h => by cases h⟩
      | ended result => exact hsame
      | _ => exact ⟨p.spares_conclude b _, fun _ h => by cases h⟩

end Plan

/-! ## Tasks -/

namespace Task

/-- The process that a task waits for. -/
def awaited? (task : Task) : Option Nat :=
  task.ask Stage.awaited? none

/-- What a task does to processes when something happens to it. -/
structure Owns (b : Bench) (task : Task) (after : Bench) (next : Task) : Prop where
  /-- It touches the one that it waits for. -/
  spares : b.Spares after task.awaited?
  /-- It waits for the same one, or for one that it started. -/
  awaited : ∀ process, next.awaited? = some process → task.awaited? = some process ∨
    process = b.calls.length ∧ process < after.calls.length

/-- A task that takes over a stage of a run does to processes what the run did. -/
theorem owns_of_run {σ ρ : Type} {b middle after : Bench} {stage taken : Stage σ ρ}
    {task next : Task} (hrun : Plan.Owns b stage middle taken)
    (htask : task.awaited? = stage.awaited?) (hcalls : after.calls = middle.calls)
    (hnext : ∀ process, next.awaited? = some process → taken.awaited? = some process) :
    Owns b task after next := by
  refine ⟨htask ▸ hrun.spares.trans (Bench.spares_of_calls hcalls), fun process hprocess => ?_⟩
  rw [htask, hcalls]
  exact hrun.awaited process (hnext process hprocess)

theorem awaited_transpiling (b : Bench) (spec : SpecFiles)
    (stage : Stage Transpiler.State ParseReport) {process : Nat}
    (h : (parse ⟨spec, (ParseRun.enterTranspiling (b, stage)).2⟩).awaited? = some process) :
    stage.awaited? = some process := by
  cases stage with
  | ended last =>
      simp only [ParseRun.enterTranspiling] at h
      cases hreport : ParseRun.reportOf .transpiler last with
      | error failure => rw [hreport] at h; cases h
      | ok report => rw [hreport] at h; cases h
  | _ => exact h

theorem awaited_analyzing (b : Bench) (spec : SpecFiles) (transpiled : ParseReport)
    (stage : Stage Analyzer.Grammar ParseReport) {process : Nat}
    (h : (parse ⟨spec, (ParseRun.enterAnalyzing transpiled (b, stage)).2⟩).awaited? =
      some process) :
    stage.awaited? = some process := by
  cases stage with
  | ended last =>
      simp only [ParseRun.enterAnalyzing] at h
      cases hreport : ParseRun.reportOf .analyzer last with
      | error failure => rw [hreport] at h; cases h
      | ok report => rw [hreport] at h; cases h
  | _ => exact h

/-- Whatever happens to a task, it touches its own processes. -/
theorem owns_act (b : Bench) {task : Task} (h : task.result? = none) (act : Act) :
    Owns b task (task.act b act).1 (task.act b act).2 := by
  cases task with
  | check c =>
      have hresult : c.result = none := Option.map_eq_none_iff.mp h
      obtain ⟨hcalls, _, _, hstage, _⟩ :=
        CheckRun.enter_spec hresult (c.plan.act b c.stage act).1 (c.plan.act b c.stage act).2
      rw [act_check, CheckRun.act_eq b hresult]
      refine owns_of_run (c.plan.owns_act b c.stage act) rfl hcalls fun process hprocess => ?_
      rw [← hstage]
      exact hprocess
  | parse run =>
      obtain ⟨spec, stage⟩ := run
      cases stage with
      | transpiling stage =>
          rw [act_transpiling]
          exact owns_of_run ((ParseRun.transpilerPlan spec).owns_act b stage act) rfl
            (takes_transpiling _ spec _).calls fun _ => awaited_transpiling _ spec _
      | analyzing transpiled stage =>
          rw [act_analyzing]
          exact owns_of_run ((ParseRun.analyzerPlan spec).owns_act b stage act) rfl
            (takes_analyzing _ spec transpiled _).calls fun _ => awaited_analyzing _ spec _ _
      | ended result => cases h

end Task

/-! ## Beside runs -/

namespace Bench

/-- What happens beside runs: no command is added, and processes that have no ticket are neither
read nor interrupted. -/
structure Leaves (b after : Bench) : Prop where
  /-- No command is added or forgotten. -/
  length : after.calls.length = b.calls.length
  /-- No ticket gets a process. -/
  processes : ∀ process, some process ∈ after.slot.processes → some process ∈ b.slot.processes
  /-- What has no ticket is left alone. -/
  child : ∀ process c, some process ∉ b.slot.processes → b.child? process = some c →
    ∃ c', after.child? process = some c' ∧ c.Beside c'

variable {b after : Bench}

theorem leaves_of_calls (hcalls : after.calls = b.calls)
    (hprocesses : ∀ process, some process ∈ after.slot.processes →
      some process ∈ b.slot.processes) : b.Leaves after :=
  ⟨congrArg List.length hcalls, hprocesses,
    fun process c _ hc => ⟨c, (child?_of_calls hcalls process).trans hc, rfl, rfl, rfl⟩⟩

theorem leaves_modifyChild (b : Bench) (process : Nat) {f : Child → Child}
    (h : ∀ c : Child, c.Beside (f c)) : b.Leaves (b.modifyChild process f) := by
  refine ⟨List.length_modify .., fun _ hprocess => hprocess, fun other c _ hc => ?_⟩
  rw [child?_modifyChild, hc, Option.map_some]
  split
  next => exact ⟨f c, rfl, h c⟩
  next => exact ⟨c, rfl, rfl, rfl, rfl⟩

theorem leaves_elapse (b : Bench) (time : Nat) : b.Leaves (b.elapse time) := by
  refine ⟨List.length_map _, fun _ hprocess => hprocess, fun process c _ hc => ?_⟩
  obtain ⟨call, hcall, hchild⟩ := Option.bind_eq_some_iff.mp hc
  simp only [child?, elapse, List.getElem?_map, hcall, Option.map_some, Option.bind_some]
  obtain ⟨command, directory, child, due⟩ := call
  obtain rfl : child = some c := hchild
  cases due with
  | none => exact ⟨c, rfl, rfl, rfl, rfl⟩
  | some due =>
      simp only
      split
      · exact ⟨c.finish, rfl, rfl, rfl, rfl⟩
      · exact ⟨c, rfl, rfl, rfl, rfl⟩

/-- A stop interrupts a process of a ticket at most. -/
theorem leaves_stop (b : Bench) : b.Leaves b.stop.1 := by
  have hprocesses (process : Nat) (h : some process ∈ b.stop.1.slot.processes) :
      some process ∈ b.slot.processes := by
    rwa [b.slot_stop.2] at h
  cases hactive : b.slot.active with
  | none =>
      refine leaves_of_calls ?_ hprocesses
      rw [stop, hactive]
  | some ticket =>
      cases hprocess : b.slot.processes[ticket]?.join with
      | none =>
          refine leaves_of_calls ?_ hprocesses
          rw [← Slot.process_activeTicket hactive, Slot.activeTicket, hactive] at hprocess
          rw [stop, hactive]
          simp only [show (b.slot.cancel ticket).2 = none from hprocess, Option.map_none,
            Option.getD_none]
      | some process =>
          have hticket := Option.join_eq_some_iff.mp hprocess
          have hstop := stop_eq hactive hticket
          refine ⟨?_, hprocesses, fun other c hfree hc => ?_⟩
          · rw [hstop]
            exact List.length_modify ..
          · have hother : process ≠ other :=
              fun hsame => hfree (List.mem_of_getElem? (hsame ▸ hticket))
            refine ⟨c, ?_, rfl, rfl, rfl⟩
            rw [hstop, interrupt, child?_modifyChild, if_neg hother, Option.map_id_fun]
            exact hc

end Bench

namespace Floor

/-- Whatever happens to no task leaves processes without a ticket alone. -/
theorem leaves_meet (f : Floor) {i : Incident}
    (hother : ∀ act number, i ≠ .move (.act act number)) :
    f.bench.Leaves (f.meet i).bench := by
  have hsame : f.bench.Leaves f.bench := Bench.leaves_of_calls rfl fun _ h => h
  have henter (spec : SpecFiles) (extra : List Text) :
      f.bench.Leaves (f.enter spec extra).bench := by
    cases hactive : f.bench.slot.active with
    | some holder =>
        rw [enter_of_active hactive]
        exact hsame
    | none =>
        have hprocesses := processes_enter hactive spec extra
        refine Bench.leaves_of_calls ?_ fun process h => ?_
        · rw [enter_of_free hactive]
        · rw [hprocesses] at h
          exact (List.mem_append.mp h).resolve_right fun hnone => by
            cases List.mem_singleton.mp hnone
  cases i with
  | notice process => exact f.bench.leaves_modifyChild process fun _ => ⟨rfl, rfl, rfl⟩
  | move m =>
      cases m with
      | check spec extra => exact henter spec extra
      | again =>
          rw [meet, move]
          split
          next request _ => exact henter request.spec request.extra
          next => exact hsame
      | parse spec => exact hsame
      | act act number => exact absurd rfl (hother act number)
      | stop => exact f.bench.leaves_stop
      | attach port => exact Bench.leaves_of_calls rfl fun _ h => h
      | finish process => exact f.bench.leaves_modifyChild process fun _ => ⟨rfl, rfl, rfl⟩
      | close process => exact f.bench.leaves_modifyChild process fun _ => ⟨rfl, rfl, rfl⟩
      | elapse time => exact f.bench.leaves_elapse time

/-! ## No process has two masters -/

/-- Whose processes are whose. -/
structure Separate (f : Floor) : Prop where
  /-- The process that a task waits for has a command. -/
  there : ∀ (number : Nat) (task : Task) (process : Nat), f.tasks[number]? = some task →
    task.awaited? = some process → process < f.bench.calls.length
  /-- No two tasks wait for one. -/
  distinct : ∀ (number other : Nat) (task last : Task) (process : Nat),
    f.tasks[number]? = some task → f.tasks[other]? = some last →
      task.awaited? = some process → last.awaited? = some process → number = other
  /-- A process that a parse waits for has no ticket. -/
  free : ∀ (number : Nat) (run : ParseRun) (process : Nat),
    f.tasks[number]? = some (.parse run) → (Task.parse run).awaited? = some process →
      some process ∉ f.bench.slot.processes

theorem separate_empty (b : Bench) : (empty b).Separate :=
  ⟨fun _ _ _ h => (by cases h), fun _ _ _ _ _ h => (by cases h), fun _ _ _ h => by cases h⟩

/-- What adds a task that waits for nothing, or none, keeps processes apart. -/
theorem Separate.of_leaves {f after : Floor} (h : f.Separate) (hleaves : f.bench.Leaves after.bench)
    (hback : ∀ (number : Nat) (task : Task) (process : Nat), after.tasks[number]? = some task →
      task.awaited? = some process → f.tasks[number]? = some task) : after.Separate := by
  refine ⟨fun number task process htask hprocess => ?_,
    fun number other task last process htask hlast hfirst hsecond => ?_,
    fun number run process hrun hprocess hticket => ?_⟩
  · rw [hleaves.length]
    exact h.there number task process (hback number task process htask hprocess) hprocess
  · exact h.distinct number other task last process (hback number task process htask hfirst)
      (hback other last process hlast hsecond) hfirst hsecond
  · exact h.free number run process (hback number _ process hrun hprocess) hprocess
      (hleaves.processes process hticket)

/-- A ticket gets the next process, and only if something happens to a check. -/
theorem Kept.processes_act {f : Floor} (h : f.Kept) {number : Nat} {task : Task}
    (htask : f.tasks[number]? = some task) (hresult : task.result? = none) (act : Act)
    {process : Nat} (hticket : some process ∈ (task.act f.bench act).1.slot.processes) :
    some process ∈ f.bench.slot.processes ∨
      process = f.bench.calls.length ∧ ∃ run, task = .check run := by
  cases task with
  | check run =>
      have hopen : run.result = none := Option.map_eq_none_iff.mp hresult
      obtain ⟨after, hfollows, hholds⟩ := h.follows_check htask hopen act
      rw [Task.act_check] at hticket
      change some process ∈ (run.act f.bench act).1.slot.processes at hticket
      rw [hfollows.slot] at hticket
      exact (hholds.old_or_started (h.running number run htask hopen).2 hticket).imp_right
        fun hstarted => ⟨hstarted.2.1, run, rfl⟩
  | parse run =>
      have hslot := h.slot_parse htask hresult act
      rw [act_of_getElem? htask] at hslot
      exact Or.inl (hslot ▸ hticket)

/-- Whatever happens to a task keeps processes apart: those that it starts are new. -/
theorem Separate.act {f : Floor} (h : f.Separate) (hkept : f.Kept) {number : Nat} {task : Task}
    (htask : f.tasks[number]? = some task) (hresult : task.result? = none) (act : Act) :
    Separate ⟨(task.act f.bench act).1, f.tasks.set number (task.act f.bench act).2⟩ := by
  have howns := Task.owns_act f.bench hresult act
  have hlength := (List.getElem?_eq_some_iff.mp htask).1
  have hcases {other : Nat} {last : Task}
      (hlast : (f.tasks.set number (task.act f.bench act).2)[other]? = some last) :
      other = number ∧ last = (task.act f.bench act).2 ∨
        number ≠ other ∧ f.tasks[other]? = some last := by
    by_cases hsame : number = other
    · subst hsame
      rw [List.getElem?_set_self hlength] at hlast
      exact Or.inl ⟨rfl, (Option.some.inj hlast).symm⟩
    · rw [List.getElem?_set_ne hsame] at hlast
      exact Or.inr ⟨hsame, hlast⟩
  -- what the task waits for then is nobody else's
  have hown {other : Nat} {last : Task} {process : Nat} (hother : number ≠ other)
      (hlast : f.tasks[other]? = some last)
      (hfirst : (task.act f.bench act).2.awaited? = some process)
      (hsecond : last.awaited? = some process) : False := by
    rcases howns.awaited process hfirst with hold | ⟨hnew, _⟩
    · exact hother (h.distinct number other task last process htask hlast hold hsecond)
    · exact Nat.ne_of_lt (h.there other last process hlast hsecond) hnew
  refine ⟨fun other last process hlast hprocess => ?_,
    fun first second one two process hone htwo hfirst hsecond => ?_,
    fun other run process hrun hprocess hticket => ?_⟩
  · rcases hcases hlast with ⟨_, rfl⟩ | ⟨_, hlast⟩
    · rcases howns.awaited process hprocess with hold | ⟨_, hnew⟩
      · exact Nat.lt_of_lt_of_le (h.there number task process htask hold) howns.spares.length
      · exact hnew
    · exact Nat.lt_of_lt_of_le (h.there other last process hlast hprocess) howns.spares.length
  · rcases hcases hone with ⟨rfl, rfl⟩ | ⟨hother, hone⟩
    · rcases hcases htwo with ⟨rfl, _⟩ | ⟨hother, htwo⟩
      · rfl
      · exact (hown hother htwo hfirst hsecond).elim
    · rcases hcases htwo with ⟨hsame, rfl⟩ | ⟨_, htwo⟩
      · exact (hown hother hone hsecond hfirst).elim
      · exact h.distinct first second one two process hone htwo hfirst hsecond
  · rcases hkept.processes_act htask hresult act hticket with hold | ⟨hnew, c, rfl⟩
    · rcases hcases hrun with ⟨_, hsame⟩ | ⟨_, hrun⟩
      · rw [hsame] at hprocess
        rcases howns.awaited process hprocess with hbefore | ⟨hnew, _⟩
        · cases task with
          | check c =>
              rw [Task.act_check] at hsame
              cases hsame
          | parse before => exact h.free number before process htask hbefore hold
        · have hthere := hkept.spawned process hold
          rw [hnew, Bench.child?_length] at hthere
          cases hthere
      · exact h.free other run process hrun hprocess hold
    · rcases hcases hrun with ⟨_, hsame⟩ | ⟨_, hrun⟩
      · rw [Task.act_check] at hsame
        cases hsame
      · exact Nat.ne_of_lt (h.there other _ process hrun hprocess) hnew

theorem awaited?_of_isNew {task : Task} (h : IsNew task) : task.awaited? = none := by
  cases task with
  | check run =>
      obtain ⟨spec, extra, ticket, saved, stage, result⟩ := run
      rcases h with ⟨rfl, _⟩ | ⟨error, rfl, _⟩
      · rfl
      · rfl
  | parse run =>
      obtain ⟨spec, stage⟩ := run
      obtain rfl : stage = _ := h
      rfl

/-- Whatever happens keeps processes apart. -/
theorem separate_meet {f : Floor} (h : f.Separate) (hkept : f.Kept) (i : Incident) :
    (f.meet i).Separate := by
  by_cases hact : ∃ act number, i = .move (.act act number)
  · obtain ⟨act, number, rfl⟩ := hact
    change (f.act act number).Separate
    cases htask : f.tasks[number]? with
    | none => rwa [Floor.act, htask]
    | some task =>
        by_cases hresult : task.result? = none
        · rw [act_of_getElem? htask]
          exact h.act hkept htask hresult act
        · rwa [act_of_result? htask hresult]
  · have hother (act : Act) (number : Nat) : i ≠ .move (.act act number) :=
      fun hsame => hact ⟨act, number, hsame⟩
    refine h.of_leaves (f.leaves_meet hother) fun number task process htask hprocess => ?_
    rcases task_of_meet htask with hold | ⟨act, _, hsame, _⟩ | ⟨_, hnew⟩
    · exact hold
    · exact absurd hsame (hother act number)
    · rw [awaited?_of_isNew hnew] at hprocess
      cases hprocess

/-- A process that a parse waits for is left alone unless something happens to the parse. -/
theorem Separate.beside {f : Floor} (h : f.Separate) {number : Nat} {run : ParseRun}
    (htask : f.tasks[number]? = some (.parse run)) {process : Nat}
    (hprocess : (Task.parse run).awaited? = some process) {i : Incident}
    (hother : ∀ act, i ≠ .move (.act act number)) {c : Child}
    (hc : f.bench.child? process = some c) :
    ∃ c', (f.meet i).bench.child? process = some c' ∧ c.Beside c' := by
  have hsame (hbench : (f.meet i).bench = f.bench) :
      ∃ c', (f.meet i).bench.child? process = some c' ∧ c.Beside c' :=
    ⟨c, hbench ▸ hc, rfl, rfl, rfl⟩
  by_cases hact : ∃ act other, i = .move (.act act other)
  · obtain ⟨act, other, rfl⟩ := hact
    cases hthere : f.tasks[other]? with
    | none => exact hsame (by rw [meet, move, Floor.act, hthere])
    | some task =>
        by_cases hresult : task.result? = none
        · have hspares := (Task.owns_act f.bench hresult act).spares
          have hforeign : task.awaited? ≠ some process := fun hown => by
            obtain rfl := h.distinct number other _ task process htask hthere hprocess hown
            exact hother act rfl
          refine ⟨c, ?_, rfl, rfl, rfl⟩
          change (f.act act other).bench.child? process = some c
          rw [act_of_getElem? hthere,
            hspares.child process (h.there number _ process htask hprocess) hforeign]
          exact hc
        · exact hsame (congrArg Floor.bench (act_of_result? hthere hresult act))
  · exact (f.leaves_meet fun act other hsame => hact ⟨act, other, hsame⟩).child process c
      (h.free number run process htask hprocess) hc

end Floor

end Workflow

end TlaRunner
