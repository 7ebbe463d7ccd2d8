import TlaRunner.Proofs.Workflow.Bench
import TlaRunner.Workflow.ToolRun

/-!
# Where a run may go

A run steps, a client of it fails, or it is cancelled (`Act`).  `Plan.Goes` lists what
this may lead to, as far as processes and the check slot are concerned: the run goes on,
it starts its tool, it ends behind the end of the tool, or it fails.  Every act goes one of
these ways (`goes_act`), so nothing else has to be known of a run.

A run that fails leaves its tool settled, with one exception: if it is cancelled while it
waits for the tool to end, the tool is left as it is (`Goes.deserts`).
-/

namespace TlaRunner.Workflow

open Files (Saver)
open Supervision (Child Exit)
open Protocol (Reading)

variable {σ ρ : Type}

/-- What may happen to a run. -/
inductive Act
  /-- It goes on. -/
  | step
  /-- A client fails that is told what is read. -/
  | upset (reason : Text)
  /-- Whoever asked for it gives it up. -/
  | cancel
  deriving DecidableEq, Repr

/-- Whether a run failed since the check slot was held. -/
def Failure.isBusy : Failure → Bool
  | .busy _ => true
  | _ => false

namespace Stage

/-- The process of the tool, once it was started. -/
def tool? : Stage σ ρ → Option Nat
  | reading process _ _ => some process
  | exiting process _ => some process
  | _ => none

/-- Whether the tool is about to be started. -/
def isLaunching : Stage σ ρ → Bool
  | launching _ => true
  | _ => false

/-- Whether the run waits for the tool to end. -/
def isExiting : Stage σ ρ → Bool
  | exiting .. => true
  | _ => false

/-- The process of the tool once something has happened to the run: the one that it had, or
the one that was started then. -/
def toolAfter (stage : Stage σ ρ) (b after : Bench) : Option Nat :=
  stage.tool?.or <|
    if stage.isLaunching && (after.child? b.calls.length).isSome then some b.calls.length else none

/-- A run with a tool has the same tool then. -/
theorem toolAfter_of_tool? {stage : Stage σ ρ} {process : Nat} (h : stage.tool? = some process)
    (b after : Bench) : stage.toolAfter b after = some process := by
  rw [toolAfter, h, Option.some_or]

theorem toolAfter_of_calls {b after last : Bench} (h : last.calls = after.calls)
    (stage : Stage σ ρ) : stage.toolAfter b last = stage.toolAfter b after := by
  rw [toolAfter, toolAfter, Bench.child?_of_calls h]

/-- Unless a tool was started, it is the one that the run had. -/
theorem toolAfter_eq {stage : Stage σ ρ} {b after : Bench}
    (h : stage.isLaunching = true → after.child? b.calls.length = none) :
    stage.toolAfter b after = stage.tool? := by
  rw [toolAfter]
  cases hlaunching : stage.isLaunching with
  | false => exact Option.or_none
  | true =>
      rw [h hlaunching]
      exact Option.or_none

/-- A tool that is started is the next process. -/
theorem toolAfter_of_isLaunching {stage : Stage σ ρ} (h : stage.isLaunching = true)
    {b after : Bench} (hthere : (after.child? b.calls.length).isSome = true) :
    stage.toolAfter b after = some b.calls.length := by
  cases stage with
  | launching executable => rw [toolAfter, hthere]; rfl
  | _ => cases h

/-- A tool was there before or is the next process, which was started. -/
theorem eq_some_or_of_toolAfter {stage : Stage σ ρ} {b after : Bench} {process : Nat}
    (h : stage.toolAfter b after = some process) :
    stage.tool? = some process ∨
      process = b.calls.length ∧ (after.child? process).isSome = true := by
  rw [toolAfter] at h
  rcases Option.or_eq_some_iff.mp h with hbefore | ⟨_, hstarted⟩
  · exact Or.inl hbefore
  · split at hstarted
    next hthere =>
      obtain rfl := Option.some.inj hstarted
      exact Or.inr ⟨rfl, (Bool.and_eq_true_iff.mp hthere).2⟩
    next => cases hstarted

end Stage

/-! ## Looking for Java -/

namespace Bench

/-- Looking for Java leaves the slot alone. -/
theorem becomes_seekJava (b : Bench) :
    b.Becomes b.seekJava.1 ∧ b.seekJava.1.slot = b.slot ∧
      ∀ failure, b.seekJava.2 = .failed failure → failure.isBusy = false := by
  rw [seekJava]
  split
  next cache search hsearch =>
    have hcache : b.Becomes { b with cache } := becomes_of_calls rfl
    cases search with
    | known executable => exact ⟨hcache, rfl, fun failure h => by cases h⟩
    | failed fault =>
        refine ⟨hcache, rfl, fun failure h => ?_⟩
        cases h
        rfl
    | ask executable =>
        simp only
        split
        next after failure hstart =>
          obtain ⟨hbecomes, hslot, _⟩ := start_error hstart
          refine ⟨hcache.trans hbecomes, hslot, fun failure h => ?_⟩
          cases h
          rfl
        next after process hstart =>
          obtain ⟨hbecomes, hslot, _⟩ := start_ok hstart
          split
          next error _ =>
            refine ⟨hcache.trans hbecomes, hslot, fun failure h => ?_⟩
            cases h
            rfl
          next => exact ⟨hcache.trans hbecomes, hslot, fun failure h => by cases h⟩

/-- So does the answer. -/
theorem becomes_learnJava {b after : Bench} {process : Nat} {executable : Path}
    {result : Except Failure Unit} (h : b.learnJava process executable = some (after, result)) :
    b.Becomes after ∧ after.slot = b.slot ∧
      ∀ failure, result = .error failure → failure.isBusy = false := by
  rw [learnJava] at h
  obtain ⟨child, hchild, hwait⟩ := Option.bind_eq_some_iff.mp h
  obtain ⟨⟨exit, waited⟩, hwaited, hlearn⟩ := Option.map_eq_some_iff.mp hwait
  have hbecomes : b.Becomes (b.modifyChild process fun _ => waited) :=
    becomes_modifyChild fun c hc => by
      obtain rfl := Option.some.inj (hc.symm.trans hchild)
      exact (Child.becomes_of_wait? hwaited).1
  simp only at hlearn
  split at hlearn
  next fault _ =>
    obtain ⟨rfl, rfl⟩ := Prod.mk.inj hlearn
    refine ⟨hbecomes, rfl, fun failure h => ?_⟩
    cases h
    rfl
  next cache warning _ =>
    obtain ⟨rfl, rfl⟩ := Prod.mk.inj hlearn
    exact ⟨hbecomes.trans (becomes_of_calls rfl), rfl, fun failure h => by cases h⟩

end Bench

/-! ## Ways of a run -/

namespace Plan

/-- The slot when the ticket of a run, if it has one, has its process. -/
def attached (p : Plan σ ρ) (slot : Slot) (process : Nat) : Slot :=
  (p.ticket.map fun ticket => (slot.attach ticket process).1).getD slot

/-- The slot when the ticket of a run, if it has one, was given back. -/
def released (p : Plan σ ρ) (slot : Slot) : Slot :=
  (p.ticket.map slot.release).getD slot

/-- Whether a stop was asked for on the ticket of a run. -/
def isAsked (p : Plan σ ρ) (slot : Slot) : Bool :=
  p.ticket.any slot.asked

/-- Lets something happen to a run. -/
def act (p : Plan σ ρ) (b : Bench) (stage : Stage σ ρ) : Act → Bench × Stage σ ρ
  | .step => p.step b stage
  | .upset reason => p.upset b reason stage
  | .cancel => p.abort b stage

/-- What something that happens to a run may lead to. -/
inductive Goes (p : Plan σ ρ) (b : Bench) (stage : Stage σ ρ) (act : Act) (after : Bench) :
    Stage σ ρ → Prop
  /-- The run goes on, with its tool if it has one. -/
  | goes {next : Stage σ ρ} (hnext : next.isEnded = false) (htool : next.tool? = stage.tool?)
      (hnone : stage.isLaunching = true → after.child? b.calls.length = none)
      (hslot : after.slot = b.slot) : Goes p b stage act after next
  /-- The tool is started. -/
  | starts {next : Stage σ ρ} {process : Nat} (hnext : next.isEnded = false)
      (hlaunching : stage.isLaunching = true) (htool : next.tool? = some process)
      (hprocess : process = b.calls.length) (hthere : (after.child? process).isSome = true)
      (hslot : after.slot = p.attached b.slot process)
      (hheard : p.isAsked b.slot = true → after.Heard process) : Goes p b stage act after next
  /-- The tool has ended. -/
  | leaves {process : Nat} {last : ρ × Exit} (htool : stage.tool? = some process)
      (hexited : b.Exited process) (hslot : after.slot = p.released b.slot) :
      Goes p b stage act after (.ended (.ok last))
  /-- The run fails before its tool was started. -/
  | fails {failure : Failure} (hbusy : failure.isBusy = false) (htool : stage.tool? = none)
      (hnone : stage.isLaunching = true → after.child? b.calls.length = none)
      (hslot : after.slot = p.released b.slot) : Goes p b stage act after (.ended (.error failure))
  /-- The run fails when its tool was just started. -/
  | drops {process : Nat} {failure : Failure} (hbusy : failure.isBusy = false)
      (hlaunching : stage.isLaunching = true) (hprocess : process = b.calls.length)
      (hthere : (after.child? process).isSome = true) (hsettled : after.Settled process)
      (hslot : after.slot = p.released (p.attached b.slot process))
      (hheard : after.Heard process) : Goes p b stage act after (.ended (.error failure))
  /-- The run fails while its tool is read. -/
  | breaks {process : Nat} {failure : Failure} (hbusy : failure.isBusy = false)
      (htool : stage.tool? = some process) (hreading : stage.isExiting = false)
      (hsettled : (b.child? process).isSome = true → after.Settled process)
      (hslot : after.slot = p.released b.slot) :
      Goes p b stage act after (.ended (.error failure))
  /-- The run is cancelled while it waits for its tool to end. -/
  | deserts {process : Nat} {report : ρ} (hact : act = .cancel)
      (hstage : stage = .exiting process report) (hcalls : after.calls = b.calls)
      (hslot : after.slot = p.released b.slot) :
      Goes p b stage act after (.ended (.error .cancelled))

section

variable (p : Plan σ ρ) (b : Bench)

/-! ## Ends of runs -/

theorem calls_conclude (result : Except Failure (ρ × Exit)) :
    (p.conclude b result).1.calls = b.calls ∧ (p.conclude b result).1.slot = p.released b.slot := by
  rw [conclude, released]
  cases p.ticket with
  | none => exact ⟨rfl, rfl⟩
  | some ticket => exact ⟨rfl, rfl⟩

theorem becomes_conclude (result : Except Failure (ρ × Exit)) :
    b.Becomes (p.conclude b result).1 :=
  Bench.becomes_of_calls (p.calls_conclude b result).1

theorem calls_closeSaver (saver : Option Saver) :
    (closeSaver b saver).calls = b.calls ∧ (closeSaver b saver).slot = b.slot := by
  cases saver with
  | none => exact ⟨rfl, rfl⟩
  | some saver => exact ⟨rfl, rfl⟩

theorem becomes_abandon (process : Nat) (saver : Option Saver) (failure : Failure) :
    b.Becomes (p.abandon b process saver failure).1 := by
  have hsaver := Bench.becomes_of_calls (calls_closeSaver b saver).1
  exact hsaver.trans ((Bench.becomes_interrupt _ process).trans (p.becomes_conclude _ _))

theorem slot_abandon (process : Nat) (saver : Option Saver) (failure : Failure) :
    (p.abandon b process saver failure).1.slot = p.released b.slot := by
  rw [abandon, (p.calls_conclude _ _).2]
  exact congrArg p.released (calls_closeSaver b saver).2

variable {b}

/-- Whoever fails with a tool leaves it settled. -/
theorem settled_abandon (hsound : b.Sound) {process : Nat}
    (hthere : (b.child? process).isSome = true) (saver : Option Saver) (failure : Failure) :
    (p.abandon b process saver failure).1.Settled process := by
  have hcalls := Bench.becomes_of_calls (calls_closeSaver b saver).1
  exact Bench.settled_of_calls (p.calls_conclude _ _).1
    (Bench.settled_interrupt (hcalls.sound hsound) (hcalls.isSome hthere))

/-- Whoever fails with a tool has interrupted it. -/
theorem heard_abandon {process : Nat} (hthere : (b.child? process).isSome = true)
    (saver : Option Saver) (failure : Failure) :
    (p.abandon b process saver failure).1.Heard process := by
  have hcalls := Bench.becomes_of_calls (calls_closeSaver b saver).1
  exact Bench.heard_of_calls (p.calls_conclude _ _).1 (Bench.heard_interrupt (hcalls.isSome hthere))

/-! ## Stages -/

theorem goes_locate (b : Bench) :
    b.Becomes (p.locate b).1 ∧ p.Goes b .locating .step (p.locate b).1 (p.locate b).2 := by
  obtain ⟨hbecomes, hslot, hfailure⟩ := b.becomes_seekJava
  rw [locate]
  split
  next after executable hseek =>
    rw [hseek] at hbecomes hslot
    exact ⟨hbecomes, .goes rfl rfl (fun h => by cases h) hslot⟩
  next after process executable hseek =>
    rw [hseek] at hbecomes hslot
    exact ⟨hbecomes, .goes rfl rfl (fun h => by cases h) hslot⟩
  next after failure hseek =>
    rw [hseek] at hbecomes hslot
    refine ⟨hbecomes.trans (p.becomes_conclude after _), ?_⟩
    refine .fails (hfailure failure (by rw [hseek])) rfl (fun h => by cases h) ?_
    rw [(p.calls_conclude after _).2, hslot]

theorem goes_learn (b : Bench) (process : Nat) (executable : Path) :
    b.Becomes (p.learn b process executable).1 ∧
      p.Goes b (.probing process executable) .step (p.learn b process executable).1
        (p.learn b process executable).2 := by
  rw [learn]
  split
  next => exact ⟨.refl b, .goes rfl rfl (fun h => by cases h) rfl⟩
  next after failure hlearn =>
    obtain ⟨hbecomes, hslot, hfailure⟩ := Bench.becomes_learnJava hlearn
    refine ⟨hbecomes.trans (p.becomes_conclude after _), ?_⟩
    refine .fails (hfailure failure rfl) rfl (fun h => by cases h) ?_
    rw [(p.calls_conclude after _).2, hslot]
  next after hlearn =>
    obtain ⟨hbecomes, hslot, _⟩ := Bench.becomes_learnJava hlearn
    exact ⟨hbecomes, .goes rfl rfl (fun h => by cases h) hslot⟩

/-- Opening the file for the output leaves processes and the slot alone, and the slot is
not what it may fail for. -/
theorem openSaver_spec (b : Bench) :
    (∀ saver after, p.openSaver b = .ok (saver, after) →
      after.calls = b.calls ∧ after.slot = b.slot) ∧
    ∀ failure, p.openSaver b = .error failure → failure.isBusy = false := by
  -- what the file system makes of it does not matter
  have hopened (opened : Except Files.SaverFault (Saver × Files.Tree)) :
      let result : Except Failure (Option Saver × Bench) :=
        (opened.mapError Failure.saver).bind fun saver => .ok (some saver.1, b.setTree saver.2)
      (∀ saver after, result = .ok (saver, after) → after.calls = b.calls ∧ after.slot = b.slot) ∧
        ∀ failure, result = .error failure → failure.isBusy = false := by
    cases opened with
    | error fault =>
        refine ⟨(fun saver after h => by cases h), fun failure h => ?_⟩
        cases h
        rfl
    | ok opened =>
        refine ⟨fun saver after h => ?_, fun failure h => by cases h⟩
        cases h
        exact ⟨rfl, rfl⟩
  rw [openSaver]
  split
  · cases Files.outputFile p.spec.modulePath with
    | error error =>
        refine ⟨(fun saver after h => by cases h), fun failure h => ?_⟩
        cases h
        rfl
    | ok path => exact hopened ((Saver.of path).open b.host)
  · refine ⟨fun saver after h => ?_, fun failure h => by cases h⟩
    cases h
    exact ⟨rfl, rfl⟩

theorem attach_spec (b : Bench) (process : Nat) :
    let after := (p.ticket.map (b.attach · process)).getD b
    b.Becomes after ∧ after.slot = p.attached b.slot process ∧
      (p.isAsked b.slot = true → (b.child? process).isSome = true → after.Heard process) := by
  rw [attached, isAsked]
  cases p.ticket with
  | none => exact ⟨.refl b, rfl, fun hasked => by cases hasked⟩
  | some ticket =>
      exact ⟨b.becomes_attach ticket process, b.slot_attach ticket process, Bench.heard_attach⟩

/-- A run that fails once its tool is started and attached has dropped it. -/
theorem goes_drop {b held after : Bench} (hsound : b.Sound) (hheld : b.Becomes held)
    {executable : Path} {process : Nat} (hprocess : process = b.calls.length)
    (hthere : (held.child? process).isSome = true)
    (hattached : held.slot = p.attached b.slot process) (hcalls : after.calls = held.calls)
    (hslot : after.slot = held.slot) (saver : Option Saver) {failure : Failure}
    (hbusy : failure.isBusy = false) :
    b.Becomes (p.abandon after process saver failure).1 ∧
      p.Goes b (.launching executable) .step (p.abandon after process saver failure).1
        (p.abandon after process saver failure).2 := by
  have hbecomes := hheld.trans (Bench.becomes_of_calls hcalls)
  have hstays := (Bench.becomes_of_calls hcalls).isSome hthere
  refine ⟨hbecomes.trans (p.becomes_abandon after process saver failure), ?_⟩
  refine .drops hbusy rfl hprocess ?_ ?_ ?_ ?_
  · exact (p.becomes_abandon after process saver failure).isSome hstays
  · exact p.settled_abandon (hbecomes.sound hsound) hstays saver failure
  · rw [p.slot_abandon, hslot, hattached]
  · exact p.heard_abandon hstays saver failure

theorem goes_launch {b : Bench} (hsound : b.Sound) (executable : Path) :
    b.Becomes (p.launch b executable).1 ∧
      p.Goes b (.launching executable) .step (p.launch b executable).1
        (p.launch b executable).2 := by
  rw [launch]
  split
  next fault _ =>
    obtain ⟨hcalls, hslot⟩ := p.calls_conclude b (.error (.command fault))
    exact ⟨p.becomes_conclude b _, .fails rfl rfl
      (fun _ => (Bench.child?_of_calls hcalls _).trans b.child?_length) hslot⟩
  next arguments _ =>
    split
    next started failure hstart =>
      obtain ⟨hstarted, hslot, hnone⟩ := Bench.startTool_error hstart
      refine ⟨hstarted.trans (p.becomes_conclude started _), .fails rfl rfl (fun _ => ?_) ?_⟩
      · rw [Bench.child?_of_calls (p.calls_conclude started _).1]
        exact hnone
      · rw [(p.calls_conclude started _).2, hslot]
    next started process hstart =>
      obtain ⟨hstarted, hslot, hprocess, hthere⟩ := Bench.startTool_ok hstart
      obtain ⟨hattach, hattached, hheard⟩ := p.attach_spec started process
      rw [hslot] at hattached hheard
      simp only
      generalize (p.ticket.map (started.attach · process)).getD started = held at *
      have hheld : b.Becomes held := hstarted.trans hattach
      have hstays := hattach.isSome hthere
      obtain ⟨hopened, hrefused⟩ := p.openSaver_spec held
      split
      next failure hopen =>
        exact p.goes_drop hsound hheld hprocess hstays hattached rfl rfl none
          (hrefused failure hopen)
      next saver opened hopen =>
        obtain ⟨hcalls, hslot⟩ := hopened saver opened hopen
        split
        next error _ =>
          exact p.goes_drop hsound hheld hprocess hstays hattached hcalls hslot saver rfl
        next =>
          refine ⟨hheld.trans (Bench.becomes_of_calls hcalls), ?_⟩
          exact .starts rfl rfl rfl hprocess ((Bench.becomes_of_calls hcalls).isSome hstays)
            (hslot.trans hattached) fun hasked => Bench.heard_of_calls hcalls (hheard hasked hthere)

/-- Reading pieces changes nothing but the files, the log and what was read, and the slot is
not what it may fail for. -/
structure Reads (b : Bench) (s : ReadState σ ρ) : Prop where
  /-- The commands are the same. -/
  calls : s.bench.calls = b.calls
  /-- So is the slot. -/
  slot : s.bench.slot = b.slot
  /-- It may fail, but not for the slot. -/
  failure : ∀ failure, s.failure = some failure → failure.isBusy = false

theorem reads_readPiece {b : Bench} {s : ReadState σ ρ} (h : Reads b s) (piece : Bytes) :
    Reads b (p.readPiece s piece) := by
  rw [readPiece]
  split
  next => exact h
  next =>
    split
    next fault _ =>
      refine ⟨h.calls, h.slot, fun failure hfailure => ?_⟩
      cases hfailure
      rfl
    next written _ =>
      have hwritten : ((written.map fun w => s.bench.setTree w.2).getD s.bench).calls = b.calls ∧
          ((written.map fun w => s.bench.setTree w.2).getD s.bench).slot = b.slot := by
        cases written with
        | none => exact ⟨h.calls, h.slot⟩
        | some written => exact ⟨h.calls, h.slot⟩
      simp only
      refine ⟨?_, ?_, fun failure hfailure => ?_⟩
      · rw [(Bench.calls_relay _ _).1, hwritten.1]
      · rw [(Bench.calls_relay _ _).2, hwritten.2]
      · obtain ⟨fault, _, rfl⟩ := Option.map_eq_some_iff.mp hfailure
        rfl

theorem reads_readOn (b : Bench) (process : Nat) (child : Child) (reading : Reading σ ρ)
    (saver : Option Saver) :
    Reads (b.modifyChild process fun c => { c with unread := [] })
      (p.readOn b process child reading saver) := by
  rw [readOn]
  generalize Child.pieces Child.readSize child.unread.length child.unread = pieces
  have hstart : Reads (b.modifyChild process fun c => { c with unread := [] })
      (⟨b.modifyChild process fun c => { c with unread := [] }, reading, saver, none⟩ :
        ReadState σ ρ) :=
    ⟨rfl, rfl, fun failure h => by cases h⟩
  generalize (⟨b.modifyChild process fun c => { c with unread := [] }, reading, saver, none⟩ :
    ReadState σ ρ) = s at hstart ⊢
  induction pieces generalizing s with
  | nil => exact hstart
  | cons piece rest ih => exact ih _ (p.reads_readPiece hstart piece)

/-- A run that fails while it reads has broken off. -/
theorem goes_break {b after : Bench} (hsound : b.Sound) (hbecomes : b.Becomes after)
    (hslot : after.slot = b.slot) (process : Nat) (reading : Reading σ ρ)
    (before saver : Option Saver) {act : Act} {failure : Failure} (hbusy : failure.isBusy = false) :
    b.Becomes (p.abandon after process saver failure).1 ∧
      p.Goes b (.reading process reading before) act (p.abandon after process saver failure).1
        (p.abandon after process saver failure).2 := by
  refine ⟨hbecomes.trans (p.becomes_abandon after process saver failure), ?_⟩
  refine .breaks hbusy rfl rfl (fun hthere => ?_) ?_
  · exact p.settled_abandon (hbecomes.sound hsound) (hbecomes.isSome hthere) saver failure
  · rw [p.slot_abandon, hslot]

theorem goes_read {b : Bench} (hsound : b.Sound) (process : Nat) (reading : Reading σ ρ)
    (saver : Option Saver) :
    b.Becomes (p.read b process reading saver).1 ∧
      p.Goes b (.reading process reading saver) .step (p.read b process reading saver).1
        (p.read b process reading saver).2 := by
  rw [read]
  split
  next => exact ⟨.refl b, .goes rfl rfl (fun h => by cases h) rfl⟩
  next child _ =>
    have hreads := p.reads_readOn b process child reading saver
    have hread : b.Becomes (p.readOn b process child reading saver).bench :=
      (Bench.becomes_modifyChild fun c _ => c.becomes_unread []).trans
        (Bench.becomes_of_calls hreads.calls)
    have hslot : (p.readOn b process child reading saver).bench.slot = b.slot := hreads.slot
    generalize p.readOn b process child reading saver = s at *
    obtain ⟨hcalls, hrelayed⟩ :=
      Bench.calls_relay s.bench (s.reading.finish p.decoder child.signaled).2.seen
    have hrelay := hread.trans (Bench.becomes_of_calls hcalls)
    simp only
    split
    next failure hfailure =>
      exact p.goes_break hsound hread hslot process reading saver s.saver
        (hreads.failure failure hfailure)
    next =>
      split
      next => exact ⟨hread, .goes rfl rfl (fun h => by cases h) hslot⟩
      next =>
        split
        next fault _ =>
          exact p.goes_break hsound hrelay (hrelayed.trans hslot) process reading saver s.saver rfl
        next =>
          split
          next fault _ =>
            exact p.goes_break hsound hrelay (hrelayed.trans hslot) process reading saver s.saver
              rfl
          next report _ =>
            obtain ⟨hclosed, hkept⟩ := calls_closeSaver
              (s.bench.relay (s.reading.finish p.decoder child.signaled).2.seen) s.saver
            refine ⟨hrelay.trans (Bench.becomes_of_calls hclosed), ?_⟩
            exact .goes rfl rfl (fun h => by cases h) (hkept.trans (hrelayed.trans hslot))

theorem goes_leave (b : Bench) (process : Nat) (report : ρ) :
    b.Becomes (p.leave b process report).1 ∧
      p.Goes b (.exiting process report) .step (p.leave b process report).1
        (p.leave b process report).2 := by
  rw [leave]
  split
  next => exact ⟨.refl b, .goes rfl rfl (fun h => by cases h) rfl⟩
  next exit waited hwait =>
    obtain ⟨child, hchild, hwaited⟩ := Option.bind_eq_some_iff.mp hwait
    obtain ⟨hbecomes, hended⟩ := Child.becomes_of_wait? hwaited
    have hmodified : b.Becomes (b.modifyChild process fun _ => waited) :=
      Bench.becomes_modifyChild fun c hc => by
        obtain rfl := Option.some.inj (hc.symm.trans hchild)
        exact hbecomes
    exact ⟨hmodified.trans (p.becomes_conclude _ _),
      .leaves rfl ⟨child, hchild, hended⟩ (p.calls_conclude _ _).2⟩

/-! ## Steps, failures and cancellation -/

/-- A step of a run that has not ended goes one of the ways. -/
theorem goes_step {b : Bench} (hsound : b.Sound) {stage : Stage σ ρ}
    (hstage : stage.isEnded = false) :
    b.Becomes (p.step b stage).1 ∧ p.Goes b stage .step (p.step b stage).1 (p.step b stage).2 := by
  cases stage with
  | locating => exact p.goes_locate b
  | probing process executable => exact p.goes_learn b process executable
  | launching executable => exact p.goes_launch hsound executable
  | reading process reading saver => exact p.goes_read hsound process reading saver
  | exiting process report => exact p.goes_leave b process report
  | ended result => cases hstage

/-- So does a failure of a client. -/
theorem goes_upset {b : Bench} (hsound : b.Sound) (reason : Text) {stage : Stage σ ρ}
    (hstage : stage.isEnded = false) :
    b.Becomes (p.upset b reason stage).1 ∧
      p.Goes b stage (.upset reason) (p.upset b reason stage).1 (p.upset b reason stage).2 := by
  cases stage with
  | locating => exact ⟨.refl b, .goes rfl rfl (fun _ => b.child?_length) rfl⟩
  | probing process executable => exact ⟨.refl b, .goes rfl rfl (fun _ => b.child?_length) rfl⟩
  | launching executable => exact ⟨.refl b, .goes rfl rfl (fun _ => b.child?_length) rfl⟩
  | reading process reading saver =>
      exact p.goes_break hsound (.refl b) rfl process reading saver saver rfl
  | exiting process report => exact ⟨.refl b, .goes rfl rfl (fun _ => b.child?_length) rfl⟩
  | ended result => cases hstage

/-- So does cancellation, which alone may desert a tool. -/
theorem goes_abort {b : Bench} (hsound : b.Sound) {stage : Stage σ ρ}
    (hstage : stage.isEnded = false) :
    b.Becomes (p.abort b stage).1 ∧
      p.Goes b stage .cancel (p.abort b stage).1 (p.abort b stage).2 := by
  obtain ⟨hcalls, hslot⟩ := p.calls_conclude b (.error .cancelled)
  have hbecomes := p.becomes_conclude b (.error .cancelled)
  cases stage with
  | locating => exact ⟨hbecomes, .fails rfl rfl (fun h => by cases h) hslot⟩
  | probing process executable =>
      exact ⟨hbecomes, .fails rfl rfl (fun h => by cases h) hslot⟩
  | launching executable =>
      exact ⟨hbecomes, .fails rfl rfl (fun _ => (Bench.child?_of_calls hcalls _).trans
        b.child?_length) hslot⟩
  | reading process reading saver =>
      exact p.goes_break hsound (.refl b) rfl process reading saver saver rfl
  | exiting process report => exact ⟨hbecomes, .deserts rfl rfl hcalls hslot⟩
  | ended result => cases hstage

/-- Whatever happens to a run goes one of the ways. -/
theorem goes_act {b : Bench} (hsound : b.Sound) (act : Act) {stage : Stage σ ρ}
    (hstage : stage.isEnded = false) :
    b.Becomes (p.act b stage act).1 ∧
      p.Goes b stage act (p.act b stage act).1 (p.act b stage act).2 := by
  cases act with
  | step => exact p.goes_step hsound hstage
  | upset reason => exact p.goes_upset hsound reason hstage
  | cancel => exact p.goes_abort hsound hstage

end

variable {p : Plan σ ρ} {b after : Bench} {stage next : Stage σ ρ} {act : Act}

/-- A run does not fail for the slot. -/
theorem Goes.isBusy_eq {failure : Failure}
    (hgoes : p.Goes b stage act after (.ended (.error failure))) : failure.isBusy = false := by
  cases hgoes with
  | goes hnext => cases hnext
  | starts hnext => cases hnext
  | fails hbusy => exact hbusy
  | drops hbusy => exact hbusy
  | breaks hbusy => exact hbusy
  | deserts => rfl

/-! ## Tools -/

/-- A run that ends leaves its tool settled, unless it is cancelled while it waits for the
tool to end: then it leaves the tool as it was. -/
theorem Goes.settled_iff (hgoes : p.Goes b stage act after next) (hbecomes : b.Becomes after)
    (hended : next.isEnded = true) {process : Nat}
    (hthere : stage.tool? = some process → (b.child? process).isSome = true)
    (htool : stage.toolAfter b after = some process) :
    after.Settled process ↔
      ¬(act = .cancel ∧ stage.isExiting = true ∧ ¬b.Settled process) := by
  have hhad {tool : Nat} (h : stage.tool? = some tool) : tool = process := by
    rw [Stage.toolAfter_of_tool? h] at htool
    exact Option.some.inj htool
  have hreading (h : stage.isExiting = false) (hsettled : after.Settled process) :
      after.Settled process ↔
        ¬(act = .cancel ∧ stage.isExiting = true ∧ ¬b.Settled process) := by
    refine ⟨fun _ hdeserted => ?_, fun _ => hsettled⟩
    rw [h] at hdeserted
    cases hdeserted.2.1
  cases hgoes with
  | goes hnext => rw [hnext] at hended; cases hended
  | starts hnext => rw [hnext] at hended; cases hended
  | leaves hbefore hexited =>
      obtain rfl := hhad hbefore
      refine ⟨fun _ hdeserted => ?_, fun _ => Or.inl ?_⟩
      · exact hdeserted.2.2 (Or.inl hexited)
      · exact hbecomes.exited hexited
  | fails _ hbefore hnone =>
      rw [Stage.toolAfter_eq hnone, hbefore] at htool
      cases htool
  | drops _ hlaunching hprocess hstarted hsettled =>
      subst hprocess
      rw [Stage.toolAfter_of_isLaunching hlaunching hstarted] at htool
      obtain rfl := Option.some.inj htool
      refine hreading ?_ hsettled
      cases stage with
      | exiting process report => cases hlaunching
      | _ => rfl
  | breaks _ hbefore hreads hsettled =>
      obtain rfl := hhad hbefore
      exact hreading hreads (hsettled (hthere hbefore))
  | deserts hact hstage hcalls =>
      rw [hstage, hact]
      refine ⟨fun hsettled hdeserted => ?_, fun hkept => ?_⟩
      · exact hdeserted.2.2 (Bench.settled_of_calls hcalls.symm hsettled)
      · by_cases hbefore : b.Settled process
        · exact Bench.settled_of_calls hcalls hbefore
        · exact absurd ⟨rfl, rfl, hbefore⟩ hkept

/-- The tool of a run was started. -/
theorem Goes.isSome_tool? (hgoes : p.Goes b stage act after next) (hbecomes : b.Becomes after)
    (hthere : ∀ process, stage.tool? = some process → (b.child? process).isSome = true)
    {process : Nat} (htool : next.tool? = some process) :
    (after.child? process).isSome = true := by
  cases hgoes with
  | goes _ hsame =>
      rw [hsame] at htool
      exact hbecomes.isSome (hthere process htool)
  | starts _ _ hstarted _ hexists =>
      rw [hstarted] at htool
      obtain rfl := Option.some.inj htool
      exact hexists
  | leaves => cases htool
  | fails => cases htool
  | drops => cases htool
  | breaks => cases htool
  | deserts => cases htool

/-! ## Tickets -/

/-- A run without a ticket leaves the slot alone. -/
theorem Goes.slot_eq (hgoes : p.Goes b stage act after next) (hticket : p.ticket = none) :
    after.slot = b.slot := by
  have hreleased (slot : Slot) : p.released slot = slot := by rw [released, hticket]; rfl
  have hattached (slot : Slot) (process : Nat) : p.attached slot process = slot := by
    rw [attached, hticket]; rfl
  cases hgoes with
  | goes _ _ _ hslot => exact hslot
  | starts _ _ _ _ _ hslot => exact hslot.trans (hattached _ _)
  | leaves _ _ hslot => exact hslot.trans (hreleased _)
  | fails _ _ _ hslot => exact hslot.trans (hreleased _)
  | drops _ _ _ _ _ hslot => exact hslot.trans ((hreleased _).trans (hattached _ _))
  | breaks _ _ _ _ hslot => exact hslot.trans (hreleased _)
  | deserts _ _ _ hslot => exact hslot.trans (hreleased _)

variable {ticket : Nat}

/-- What becomes of the ticket that holds the slot for a run. -/
structure Holds (b : Bench) (ticket : Nat) (stage : Stage σ ρ) (after : Bench)
    (next : Stage σ ρ) : Prop where
  /-- It holds the slot as long as the run goes on, and has its process. -/
  held : next.isEnded = false →
    after.slot.active = some ticket ∧ after.slot.processes[ticket]? = some next.tool?
  /-- It gives the slot back when the run ends. -/
  freed : next.isEnded = true → after.slot.active = none
  /-- It has the process of the tool from its start on. -/
  given : after.slot.processes[ticket]? = some (stage.toolAfter b after)
  /-- Other tickets stay as they are. -/
  others : ∀ other ≠ ticket, after.slot.processes[other]? = b.slot.processes[other]?
  /-- A run that ends has failed or its process has ended. -/
  closed : ∀ process, after.slot.processes[ticket]? = some (some process) →
    next.isEnded = true → (∃ last, next = .ended (.ok last)) ∧ after.Exited process ∨
      ∃ failure, next = .ended (.error failure) ∧ failure.isBusy = false

theorem released_of_active (hticket : p.ticket = some ticket) {slot : Slot}
    (h : slot.active = some ticket) :
    (p.released slot).active = none ∧ (p.released slot).processes = slot.processes := by
  rw [released, hticket, Option.map_some, Option.getD_some, slot.processes_release]
  exact ⟨by rw [Slot.release, if_pos h], rfl⟩

theorem attached_of_active (hticket : p.ticket = some ticket) {slot : Slot}
    (h : slot.active = some ticket) (process : Nat) :
    (p.attached slot process).active = some ticket ∧
      (p.attached slot process).processes = slot.processes.set ticket (some process) := by
  rw [attached, hticket, Option.map_some, Option.getD_some, slot.processes_attach]
  exact ⟨h, rfl⟩

/-- A run that fails gives back the slot, whatever process the ticket has by then. -/
theorem holds_of_failed {failure : Failure} (hbusy : failure.isBusy = false)
    (hticket : p.ticket = some ticket) {slot : Slot} (hheld : slot.active = some ticket)
    (hslot : after.slot = p.released slot)
    (hgiven : slot.processes[ticket]? = some (stage.toolAfter b after))
    (hothers : ∀ other ≠ ticket, slot.processes[other]? = b.slot.processes[other]?) :
    Holds b ticket stage after (.ended (.error failure)) := by
  obtain ⟨hfree, hprocesses⟩ := released_of_active hticket hheld
  refine ⟨fun h => (by cases h), fun _ => by rw [hslot, hfree], ?_, fun other hother => ?_,
    fun _ _ _ => Or.inr ⟨failure, rfl, hbusy⟩⟩
  · rw [hslot, hprocesses]
    exact hgiven
  · rw [hslot, hprocesses]
    exact hothers other hother

/-- What the ways of a run mean for its ticket. -/
theorem Goes.holds (hgoes : p.Goes b stage act after next) (hbecomes : b.Becomes after)
    (hticket : p.ticket = some ticket) (hactive : b.slot.active = some ticket)
    (hprocess : b.slot.processes[ticket]? = some stage.tool?) :
    Holds b ticket stage after next := by
  have hlength := (List.getElem?_eq_some_iff.mp hprocess).1
  have hgiven {process : Nat} (htool : stage.tool? = some process) :
      b.slot.processes[ticket]? = some (stage.toolAfter b after) := by
    rw [hprocess, htool, Stage.toolAfter_of_tool? htool]
  cases hgoes with
  | goes hnext htool hnone hslot =>
      refine ⟨fun _ => ?_, fun h => ?_, ?_, fun other _ => by rw [hslot], fun _ _ h => ?_⟩
      · rw [hslot, htool]
        exact ⟨hactive, hprocess⟩
      · rw [hnext] at h
        cases h
      · rw [hslot, hprocess, Stage.toolAfter_eq hnone]
      · rw [hnext] at h
        cases h
  | @starts _ process hnext hlaunching htool hlast hthere hslot =>
      obtain ⟨hheld, hprocesses⟩ := attached_of_active hticket hactive process
      subst hlast
      refine ⟨fun _ => ?_, fun h => ?_, ?_, fun other hother => ?_, fun _ _ h => ?_⟩
      · rw [hslot, hprocesses, htool, List.getElem?_set_self hlength]
        exact ⟨hheld, rfl⟩
      · rw [hnext] at h
        cases h
      · rw [hslot, hprocesses, List.getElem?_set_self hlength,
          Stage.toolAfter_of_isLaunching hlaunching hthere]
      · rw [hslot, hprocesses, List.getElem?_set_ne hother.symm]
      · rw [hnext] at h
        cases h
  | @leaves process last htool hexited hslot =>
      obtain ⟨hfree, hprocesses⟩ := released_of_active hticket hactive
      refine ⟨fun h => (by cases h), fun _ => by rw [hslot, hfree], ?_,
        fun other _ => by rw [hslot, hprocesses],
        fun other hother _ => Or.inl ⟨⟨last, rfl⟩, ?_⟩⟩
      · rw [hslot, hprocesses]
        exact hgiven htool
      · rw [hslot, hprocesses, hprocess, htool, Option.some.injEq, Option.some.injEq] at hother
        rw [← hother]
        exact hbecomes.exited hexited
  | fails hbusy _ hnone hslot =>
      refine holds_of_failed hbusy hticket hactive hslot ?_ fun _ _ => rfl
      rw [hprocess, Stage.toolAfter_eq hnone]
  | @drops process _ hbusy hlaunching hlast hthere _ hslot =>
      obtain ⟨hheld, hprocesses⟩ := attached_of_active hticket hactive process
      subst hlast
      refine holds_of_failed hbusy hticket hheld hslot ?_ fun other hother => ?_
      · rw [hprocesses, List.getElem?_set_self hlength,
          Stage.toolAfter_of_isLaunching hlaunching hthere]
      · rw [hprocesses, List.getElem?_set_ne hother.symm]
  | breaks hbusy htool _ _ hslot =>
      exact holds_of_failed hbusy hticket hactive hslot (hgiven htool) fun _ _ => rfl
  | deserts _ hstage _ hslot =>
      exact holds_of_failed rfl hticket hactive hslot (hgiven (by rw [hstage]; rfl)) fun _ _ => rfl

/-- A process of a ticket was there before or has just been started. -/
theorem Holds.old_or_started (h : Holds b ticket stage after next)
    (hprocess : b.slot.processes[ticket]? = some stage.tool?) {process : Nat}
    (hafter : some process ∈ after.slot.processes) :
    some process ∈ b.slot.processes ∨ stage.toolAfter b after = some process ∧
      process = b.calls.length ∧ (after.child? process).isSome = true := by
  obtain ⟨other, hother⟩ := List.mem_iff_getElem?.mp hafter
  by_cases hsame : other = ticket
  · subst hsame
    rw [h.given] at hother
    have htool := Option.some.inj hother
    rcases Stage.eq_some_or_of_toolAfter htool with hbefore | hstarted
    · rw [hbefore] at hprocess
      exact Or.inl (List.mem_of_getElem? hprocess)
    · exact Or.inr ⟨htool, hstarted⟩
  · rw [h.others other hsame] at hother
    exact Or.inl (List.mem_of_getElem? hother)

end Plan

end TlaRunner.Workflow
