import TlaRunner.Proofs.Workflow.Task
import TlaRunner.Workflow.Schedule

/-!
# What may happen on a floor

Tasks on a floor are begun, go on, fail and are cancelled, and processes close their output
and end, in any order: a `Move` is one of these things, and `Floor.run` lets a list of them
happen.

What every move keeps is `Floor.Kept`.  The check that runs, if there is one, holds the slot,
and its ticket has its process.  Every process of a ticket belongs to a check that runs, or
has ended behind its process, or has failed.
-/

namespace TlaRunner.Workflow

open Files (Host SpecFiles)
open Supervision (Behavior)

/-- Something that may happen on a floor. -/
inductive Move
  /-- A check is begun. -/
  | check (spec : SpecFiles) (extra : List Text)
  /-- The last check is begun again, if there was one. -/
  | again
  /-- A parse is begun. -/
  | parse (spec : SpecFiles)
  /-- Something happens to a task. -/
  | act (act : Act) (number : Nat)
  /-- The check in the slot is asked to stop. -/
  | stop
  /-- A client of a check is told the port. -/
  | attach (port : Int)
  /-- A process ends by itself. -/
  | finish (process : Nat)
  /-- A process closes its output. -/
  | close (process : Nat)
  /-- Time goes by. -/
  | elapse (time : Nat)
  deriving DecidableEq, Repr

/-- Something happens to a task, or nothing does. -/
theorem Move.acts_or (m : Move) (number : Nat) :
    (∃ act, m = .act act number) ∨ ∀ act, m ≠ .act act number :=
  (Classical.em _).imp_right fun h act hact => h ⟨act, hact⟩

namespace Floor

/-- Begins a check, which has not had a turn yet. -/
def enter (f : Floor) (spec : SpecFiles) (extra : List Text) : Floor :=
  let (bench, run) := CheckRun.begin f.bench spec extra
  ⟨bench, f.tasks ++ [.check run]⟩

/-- Lets something happen to a task, if it is there. -/
def act (f : Floor) (act : Act) (number : Nat) : Floor :=
  match f.tasks[number]? with
  | none => f
  | some task =>
    let (bench, task) := task.act f.bench act
    ⟨bench, f.tasks.set number task⟩

/-- Lets something happen. -/
def move (f : Floor) : Move → Floor
  | .check spec extra => f.enter spec extra
  | .again =>
    match f.bench.slot.last with
    | some request => f.enter request.spec request.extra
    | none => f
  | .parse spec => ⟨f.bench, f.tasks ++ [.parse (.begin spec)]⟩
  | .act act number => f.act act number
  | .stop => f.stop.1
  | .attach port => { f with bench := f.bench.tell [.attach port] }
  | .finish process => { f with bench := f.bench.finish process }
  | .close process => { f with bench := f.bench.closeOutput process }
  | .elapse time => { f with bench := f.bench.elapse time }

/-- Lets a list of things happen. -/
def run (f : Floor) (moves : List Move) : Floor :=
  moves.foldl move f

/-- The process of a task's tool once something has happened: the one that it had, or the one
that was started then. -/
def tool? (f : Floor) (m : Move) (number : Nat) : Option Nat :=
  f.tasks[number]?.bind fun task =>
    task.ask (fun stage => stage.toolAfter f.bench (f.move m).bench) none

/-! ## What is kept -/

/-- Whose the process of a ticket is: its check runs, or has ended behind the process, or has
failed. -/
def Owned (f : Floor) (ticket process : Nat) : Prop :=
  ∃ (number : Nat) (run : CheckRun), f.tasks[number]? = some (.check run) ∧ run.ticket = ticket ∧
    (run.result = none ∨ (∃ last, run.stage = .ended (.ok last)) ∧ f.bench.Exited process ∨
      ∃ failure, run.stage = .ended (.error failure) ∧ failure.isBusy = false)

/-- Whose the process of a ticket is stays so as long as its check does. -/
theorem Owned.of_becomes {f after : Floor} {ticket process : Nat} (h : f.Owned ticket process)
    (hbecomes : f.bench.Becomes after.bench)
    (hforth : ∀ (number : Nat) (run : CheckRun), f.tasks[number]? = some (.check run) →
      run.ticket = ticket → after.tasks[number]? = some (.check run)) :
    after.Owned ticket process := by
  obtain ⟨number, run, hrun, hticket, hstate⟩ := h
  refine ⟨number, run, hforth number run hrun hticket, hticket, ?_⟩
  rcases hstate with hopen | ⟨hstage, hexited⟩ | hfailed
  · exact Or.inl hopen
  · exact Or.inr (Or.inl ⟨hstage, hbecomes.exited hexited⟩)
  · exact Or.inr (Or.inr hfailed)

/-- What every move keeps. -/
structure Kept (f : Floor) : Prop where
  /-- What is known of the ends of processes is so. -/
  sound : f.bench.Sound
  /-- What holds of tasks holds of all of them. -/
  fits : ∀ task ∈ f.tasks, task.Fits f.bench
  /-- A check that runs holds the slot, and its ticket has its process. -/
  running : ∀ (number : Nat) (run : CheckRun), f.tasks[number]? = some (.check run) →
    run.result = none → f.bench.slot.active = some run.ticket ∧
      f.bench.slot.processes[run.ticket]? = some run.stage.tool?
  /-- At most one check runs. -/
  single : ∀ (number other : Nat) (run last : CheckRun), f.tasks[number]? = some (.check run) →
    f.tasks[other]? = some (.check last) → run.result = none → last.result = none → number = other
  /-- Every process of a ticket was started. -/
  spawned : ∀ process : Nat, some process ∈ f.bench.slot.processes →
    (f.bench.child? process).isSome = true
  /-- Every process of a ticket is somebody's. -/
  owned : ∀ ticket process : Nat, f.bench.slot.processes[ticket]? = some (some process) →
    f.Owned ticket process
  /-- The slot is held by a check that runs. -/
  held : ∀ ticket : Nat, f.bench.slot.active = some ticket → ∃ (number : Nat) (run : CheckRun),
    f.tasks[number]? = some (.check run) ∧ run.result = none ∧ run.ticket = ticket

theorem kept_idle (host : Host) (config : Config) (attended : Bool) (javaBehavior : Behavior)
    (behaviors : List Behavior) :
    (empty (.idle host config attended javaBehavior behaviors)).Kept := by
  refine ⟨fun process c hc => ?_, fun task htask => ?_, fun number run hrun => ?_,
    fun number other run last hrun => ?_, fun process hprocess => ?_,
    fun ticket process hprocess => ?_, fun ticket hactive => ?_⟩
  · cases hc
  · cases htask
  · cases hrun
  · cases hrun
  · cases hprocess
  · cases hprocess
  · cases hactive

/-- What leaves checks and the slot alone keeps everything; a check that comes has ended. -/
theorem Kept.of_checks {f after : Floor} (h : f.Kept) (hbecomes : f.bench.Becomes after.bench)
    (hactive : after.bench.slot.active = f.bench.slot.active)
    (hprocesses : after.bench.slot.processes = f.bench.slot.processes)
    (hfits : ∀ task ∈ after.tasks, task.Fits after.bench)
    (hback : ∀ (number : Nat) (run : CheckRun), after.tasks[number]? = some (.check run) →
      run.result = none → f.tasks[number]? = some (.check run))
    (hforth : ∀ (number : Nat) (run : CheckRun), f.tasks[number]? = some (.check run) →
      after.tasks[number]? = some (.check run)) : after.Kept := by
  exact {
    sound := hbecomes.sound h.sound
    fits := hfits
    running number run hrun hresult := by
      rw [hactive, hprocesses]
      exact h.running number run (hback number run hrun hresult) hresult
    single number other run last hrun hlast hresult hopen :=
      h.single number other run last (hback number run hrun hresult) (hback other last hlast hopen)
        hresult hopen
    spawned process hprocess := by
      rw [hprocesses] at hprocess
      exact hbecomes.isSome (h.spawned process hprocess)
    owned ticket process hprocess := by
      rw [hprocesses] at hprocess
      exact (h.owned ticket process hprocess).of_becomes hbecomes fun number run hrun _ =>
        hforth number run hrun
    held ticket hticket := by
      rw [hactive] at hticket
      obtain ⟨number, run, hrun, hholder⟩ := h.held ticket hticket
      exact ⟨number, run, hforth number run hrun, hholder⟩ }

/-- What happens to the bench alone keeps everything. -/
theorem Kept.of_bench {f : Floor} (h : f.Kept) {b : Bench} (hbecomes : f.bench.Becomes b)
    (hactive : b.slot.active = f.bench.slot.active)
    (hprocesses : b.slot.processes = f.bench.slot.processes) : Kept { f with bench := b } :=
  h.of_checks hbecomes hactive hprocesses
    (fun task htask => (h.fits task htask).of_becomes hbecomes)
    (fun _ _ hrun _ => hrun) fun _ _ hrun => hrun

/-- A task that comes keeps everything if it is a check that has ended or no check at all. -/
theorem Kept.append {f : Floor} (h : f.Kept) {task : Task}
    (hfits : task.Fits f.bench) (hcheck : ∀ run, task = .check run → run.result ≠ none) :
    Kept ⟨f.bench, f.tasks ++ [task]⟩ := by
  refine h.of_checks (.refl _) rfl rfl (fun other hother => ?_)
    (fun number run hrun hresult => ?_) fun number run hrun => ?_
  · rcases List.mem_append.mp hother with hold | hnew
    · exact h.fits other hold
    · rw [List.mem_singleton.mp hnew]
      exact hfits
  · rcases getElem?_concat_iff.mp hrun with hold | ⟨_, rfl⟩
    · exact hold
    · exact absurd hresult (hcheck run rfl)
  · exact getElem?_concat_iff.mpr (Or.inl hrun)

/-! ## Beginning a check -/

/-- A check that finds the slot held has ended at once. -/
theorem enter_of_active {f : Floor} {holder : Nat} (h : f.bench.slot.active = some holder)
    (spec : SpecFiles) (extra : List Text) :
    f.enter spec extra = ⟨f.bench, f.tasks ++ [.check ⟨spec, extra, holder, false,
      .ended (.error (.busy ⟨holder⟩)), some (.error (.busy ⟨holder⟩))⟩]⟩ := by
  rw [enter, CheckRun.begin, Slot.acquire, h]

/-- A check that finds it free holds it, by a new ticket. -/
theorem enter_of_free {f : Floor} (h : f.bench.slot.active = none) (spec : SpecFiles)
    (extra : List Text) :
    let ticket := f.bench.slot.tickets.length
    f.enter spec extra = ⟨{ f.bench with slot :=
        ⟨f.bench.slot.tickets ++ [⟨⟨spec, extra⟩, none, false⟩], some ticket, some ⟨spec, extra⟩⟩ },
      f.tasks ++
        [.check ⟨spec, extra, ticket, f.bench.config.createOutFiles, .locating, none⟩]⟩ := by
  rw [enter, CheckRun.begin, Slot.acquire, h]

/-- Whoever enters makes of the bench what may become of it. -/
theorem becomes_enter (f : Floor) (spec : SpecFiles) (extra : List Text) :
    f.bench.Becomes (f.enter spec extra).bench := by
  cases hactive : f.bench.slot.active with
  | some holder =>
      rw [enter_of_active hactive]
      exact .refl _
  | none =>
      rw [enter_of_free hactive]
      exact f.bench.becomes_slot _

/-- A new ticket has no process. -/
theorem processes_enter {f : Floor} (h : f.bench.slot.active = none) (spec : SpecFiles)
    (extra : List Text) :
    (f.enter spec extra).bench.slot.processes = f.bench.slot.processes ++ [none] := by
  rw [enter_of_free h]
  exact List.map_append

/-- Where the slot is free, only a check that is new may run. -/
theorem Kept.eq_last {f : Floor} (h : f.Kept) (hfree : f.bench.slot.active = none) {last : Task}
    {number : Nat} {run : CheckRun} (hrun : (f.tasks ++ [last])[number]? = some (.check run))
    (hresult : run.result = none) : number = f.tasks.length ∧ last = .check run := by
  rcases getElem?_concat_iff.mp hrun with hold | hlast
  · rw [(h.running number run hold hresult).1] at hfree
    cases hfree
  · exact hlast

/-- A check that is turned away keeps what is kept. -/
theorem Kept.enter_active {f : Floor} (h : f.Kept) {holder : Nat}
    (hactive : f.bench.slot.active = some holder) (spec : SpecFiles) (extra : List Text) :
    (f.enter spec extra).Kept := by
  rw [enter_of_active hactive]
  refine h.append ⟨iff_of_false (fun hnone => ?_) fun hopen => ?_, fun process htool => ?_⟩
    fun run hrun hnone => ?_
  · cases hnone
  · cases hopen
  · cases htool
  · rw [← Task.check.inj hrun] at hnone
    cases hnone

/-- So does a check that enters the free slot. -/
theorem Kept.enter_free {f : Floor} (h : f.Kept) (hfree : f.bench.slot.active = none)
    (spec : SpecFiles) (extra : List Text) : (f.enter spec extra).Kept := by
  have hbecomes := f.becomes_enter spec extra
  have hprocesses := processes_enter hfree spec extra
  rw [enter_of_free hfree] at hbecomes hprocesses ⊢
  have hlength : f.bench.slot.tickets.length = f.bench.slot.processes.length :=
    (List.length_map _).symm
  exact {
    sound := hbecomes.sound h.sound
    fits task htask := by
      rcases List.mem_append.mp htask with hold | hnew
      · exact (h.fits task hold).of_becomes hbecomes
      · rw [List.mem_singleton.mp hnew]
        exact ⟨iff_of_true rfl rfl, fun process htool => by cases htool⟩
    running number run hrun hresult := by
      obtain ⟨_, hnew⟩ := h.eq_last hfree hrun hresult
      obtain rfl := Task.check.inj hnew
      refine ⟨rfl, ?_⟩
      rw [hprocesses, hlength, List.getElem?_concat_length]
      rfl
    single number other run last hrun hlast hresult hopen := by
      rw [(h.eq_last hfree hrun hresult).1, (h.eq_last hfree hlast hopen).1]
    spawned process hprocess := by
      rw [hprocesses] at hprocess
      rcases List.mem_append.mp hprocess with hold | hnone
      · exact h.spawned process hold
      · cases List.mem_singleton.mp hnone
    owned owner process hprocess := by
      rw [hprocesses] at hprocess
      rcases getElem?_concat_iff.mp hprocess with hold | ⟨_, hnone⟩
      · exact (h.owned owner process hold).of_becomes hbecomes fun number run hrun _ =>
          getElem?_concat_iff.mpr (Or.inl hrun)
      · cases hnone
    held holder hholder :=
      ⟨f.tasks.length, _, List.getElem?_concat_length, rfl, Option.some.inj hholder⟩ }

theorem kept_enter {f : Floor} (h : f.Kept) (spec : SpecFiles) (extra : List Text) :
    (f.enter spec extra).Kept := by
  cases hactive : f.bench.slot.active with
  | some holder => exact h.enter_active hactive spec extra
  | none => exact h.enter_free hactive spec extra

/-! ## Acts -/

theorem act_of_getElem? {f : Floor} {number : Nat} {task : Task}
    (h : f.tasks[number]? = some task) (act : Act) :
    f.act act number = ⟨(task.act f.bench act).1, f.tasks.set number (task.act f.bench act).2⟩ := by
  rw [Floor.act, h]

/-- What happens to a task that has ended changes nothing. -/
theorem act_of_result? {f : Floor} {number : Nat} {task : Task}
    (h : f.tasks[number]? = some task) (hresult : task.result? ≠ none) (act : Act) :
    f.act act number = f := by
  obtain ⟨hlength, rfl⟩ := List.getElem?_eq_some_iff.mp h
  rw [act_of_getElem? h, Task.act_of_result? hresult, List.set_getElem_self]

/-- What happens to the check that runs happens to its run and its ticket. -/
theorem Kept.follows_check {f : Floor} (h : f.Kept) {number : Nat} {run : CheckRun}
    (htask : f.tasks[number]? = some (.check run)) (hresult : run.result = none) (act : Act) :
    ∃ after, run.Follows f.bench act after ∧
      Plan.Holds f.bench run.ticket run.stage after (run.act f.bench act).2.stage := by
  have hopened := (Task.opened_check run).mp (h.fits _ (List.mem_of_getElem? htask)).opened
  obtain ⟨after, hfollows⟩ := CheckRun.follows h.sound hresult (hopened.mp hresult) act
  obtain ⟨hactive, hprocess⟩ := h.running number run htask hresult
  exact ⟨after, hfollows, hfollows.goes.holds hfollows.becomes rfl hactive hprocess⟩

/-- What happens to a task that has not ended happens to the run of its tool. -/
theorem Kept.follows {f : Floor} (h : f.Kept) {number : Nat} {task : Task}
    (htask : f.tasks[number]? = some task) (hresult : task.result? = none) (act : Act) :
    ∃ (σ ρ : Type) (p : Plan σ ρ) (stage next : Stage σ ρ) (after : Bench),
      task.Follows f.bench act p stage next after :=
  Task.follows h.sound hresult (h.fits task (List.mem_of_getElem? htask)) act

/-- What holds of tasks still holds of all of them when something happened to one. -/
theorem Kept.fits_act {f : Floor} (h : f.Kept) {number : Nat} {task : Task}
    (htask : f.tasks[number]? = some task) (hresult : task.result? = none) (act : Act) :
    f.bench.Becomes (f.act act number).bench ∧
      ∀ other ∈ (f.act act number).tasks, other.Fits (f.act act number).bench := by
  obtain ⟨σ, ρ, p, stage, next, after, hfollows⟩ := h.follows htask hresult act
  rw [act_of_getElem? htask]
  refine ⟨hfollows.becomes_act, fun other hother => ?_⟩
  rcases List.mem_or_eq_of_mem_set hother with hold | rfl
  · exact (h.fits other hold).of_becomes hfollows.becomes_act
  · exact hfollows.fits (h.fits task (List.mem_of_getElem? htask))

/-- What happens to a parse leaves the slot alone. -/
theorem Kept.slot_parse {f : Floor} (h : f.Kept) {number : Nat} {run : ParseRun}
    (htask : f.tasks[number]? = some (.parse run)) (hresult : (Task.parse run).result? = none)
    (act : Act) : (f.act act number).bench.slot = f.bench.slot := by
  obtain ⟨σ, ρ, p, stage, next, after, hfollows⟩ := h.follows htask hresult act
  rw [act_of_getElem? htask]
  exact hfollows.takes.slot.trans (hfollows.goes.slot_eq hfollows.ticket)

/-- What happens to a parse leaves checks and the slot alone. -/
theorem Kept.act_parse {f : Floor} (h : f.Kept) {number : Nat} {run : ParseRun}
    (htask : f.tasks[number]? = some (.parse run)) (hresult : (Task.parse run).result? = none)
    (act : Act) : (f.act act number).Kept := by
  obtain ⟨hbecomes, hfits⟩ := h.fits_act htask hresult act
  obtain ⟨parsed, hparsed⟩ := Task.act_parse f.bench run act
  have hslot := h.slot_parse htask hresult act
  rw [act_of_getElem? htask] at hbecomes hfits hslot ⊢
  refine h.of_checks hbecomes (congrArg Slot.active hslot) (congrArg Slot.processes hslot) hfits
    (fun other check hcheck _ => ?_) fun other check hcheck => ?_
  · change (f.tasks.set number _)[other]? = some (.check check) at hcheck
    rw [List.getElem?_set] at hcheck
    split at hcheck
    next =>
      rw [hparsed] at hcheck
      split at hcheck
      · cases hcheck
      · cases hcheck
    next => exact hcheck
  · change (f.tasks.set number _)[other]? = some (.check check)
    rw [List.getElem?_set_ne, hcheck]
    rintro rfl
    rw [htask] at hcheck
    cases hcheck

/-- Only the check to which something happens may run. -/
theorem Kept.eq_acted {f : Floor} (h : f.Kept) {number other : Nat} {run last : CheckRun}
    (htask : f.tasks[number]? = some (.check run)) (hresult : run.result = none) {next : Task}
    (hother : (f.tasks.set number next)[other]? = some (.check last)) (hlast : last.result = none) :
    other = number ∧ next = .check last := by
  by_cases hsame : number = other
  · subst hsame
    rw [List.getElem?_set_self (List.getElem?_eq_some_iff.mp htask).1] at hother
    exact ⟨rfl, Option.some.inj hother⟩
  · rw [List.getElem?_set_ne hsame] at hother
    exact absurd (h.single number other run last htask hother hresult hlast) hsame

/-- A process that a check has then is its own, and others are whose they were. -/
theorem Kept.owned_act {f : Floor} (h : f.Kept) {number : Nat} {run : CheckRun}
    (htask : f.tasks[number]? = some (.check run)) (hresult : run.result = none) (act : Act)
    {ticket process : Nat}
    (hticket : (f.act act number).bench.slot.processes[ticket]? = some (some process)) :
    (f.act act number).Owned ticket process := by
  obtain ⟨after, hfollows, hholds⟩ := h.follows_check htask hresult act
  have hbecomes := (h.fits_act htask (Option.map_eq_none_iff.mpr hresult) act).1
  rw [act_of_getElem? htask, Task.act_check] at hbecomes hticket ⊢
  change (run.act f.bench act).1.slot.processes[ticket]? = some (some process) at hticket
  rw [hfollows.slot] at hticket
  by_cases hown : ticket = run.ticket
  · subst hown
    refine ⟨number, (run.act f.bench act).2, ?_, hfollows.ticket, ?_⟩
    · exact List.getElem?_set_self (List.getElem?_eq_some_iff.mp htask).1
    · cases hended : (run.act f.bench act).2.stage.isEnded with
      | false => exact Or.inl (hfollows.result.mpr hended)
      | true =>
          refine Or.inr ((hholds.closed process hticket hended).imp_left fun ⟨hlast, hexited⟩ => ?_)
          exact ⟨hlast, (Bench.becomes_of_calls hfollows.calls).exited hexited⟩
  · rw [hholds.others ticket hown] at hticket
    refine (h.owned ticket process hticket).of_becomes hbecomes fun other owner howner hsame => ?_
    refine (List.getElem?_set_ne fun hother => hown ?_).trans howner
    rw [← hother, htask] at howner
    rw [← hsame, Task.check.inj (Option.some.inj howner)]

/-- The slot is then held by the check, as long as it runs. -/
theorem Kept.held_act {f : Floor} (h : f.Kept) {number : Nat} {run : CheckRun}
    (htask : f.tasks[number]? = some (.check run)) (hresult : run.result = none) (act : Act)
    {ticket : Nat} (hticket : (run.act f.bench act).1.slot.active = some ticket) :
    (run.act f.bench act).2.result = none ∧ (run.act f.bench act).2.ticket = ticket := by
  obtain ⟨after, hfollows, hholds⟩ := h.follows_check htask hresult act
  rw [hfollows.slot] at hticket
  cases hended : (run.act f.bench act).2.stage.isEnded with
  | true =>
      rw [hholds.freed hended] at hticket
      cases hticket
  | false =>
      rw [(hholds.held hended).1] at hticket
      exact ⟨hfollows.result.mpr hended, hfollows.ticket.trans (Option.some.inj hticket)⟩

/-- What happens to the check that runs is a matter of its ticket. -/
theorem Kept.act_check {f : Floor} (h : f.Kept) {number : Nat} {run : CheckRun}
    (htask : f.tasks[number]? = some (.check run)) (hresult : run.result = none) (act : Act) :
    (f.act act number).Kept := by
  obtain ⟨after, hfollows, hholds⟩ := h.follows_check htask hresult act
  obtain ⟨hbecomes, hfits⟩ := h.fits_act htask (Option.map_eq_none_iff.mpr hresult) act
  have howned : ∀ ticket process : Nat,
      (f.act act number).bench.slot.processes[ticket]? = some (some process) →
        (f.act act number).Owned ticket process := fun _ _ => h.owned_act htask hresult act
  rw [act_of_getElem? htask, Task.act_check] at hbecomes hfits howned ⊢
  exact {
    sound := hbecomes.sound h.sound
    fits := hfits
    running other last hother hlast := by
      obtain ⟨_, hsame⟩ := h.eq_acted htask hresult hother hlast
      obtain rfl := Task.check.inj hsame
      change (run.act f.bench act).1.slot.active = _ ∧
        (run.act f.bench act).1.slot.processes[_]? = _
      rw [hfollows.slot, hfollows.ticket]
      exact hholds.held (hfollows.result.mp hlast)
    single other another last further hother hanother hlast hfurther := by
      rw [(h.eq_acted htask hresult hother hlast).1, (h.eq_acted htask hresult hanother hfurther).1]
    spawned process hprocess := by
      change some process ∈ (run.act f.bench act).1.slot.processes at hprocess
      rw [hfollows.slot] at hprocess
      have hbefore := (h.running number run htask hresult).2
      rcases hholds.old_or_started hbefore hprocess with hold | hstarted
      · exact hbecomes.isSome (h.spawned process hold)
      · exact (Bench.becomes_of_calls hfollows.calls).isSome hstarted.2.2
    owned := howned
    held ticket hticket := ⟨number, (run.act f.bench act).2,
      List.getElem?_set_self (List.getElem?_eq_some_iff.mp htask).1,
      h.held_act htask hresult act hticket⟩ }

theorem kept_act {f : Floor} (h : f.Kept) (act : Act) (number : Nat) :
    (f.act act number).Kept := by
  cases htask : f.tasks[number]? with
  | none => rwa [Floor.act, htask]
  | some task =>
      by_cases hresult : task.result? = none
      · cases task with
        | check run => exact h.act_check htask (Option.map_eq_none_iff.mp hresult) act
        | parse run => exact h.act_parse htask hresult act
      · rwa [act_of_result? htask hresult]

/-! ## Moves -/

/-- A task stays as it is unless something happens to it. -/
theorem tasks_move {f : Floor} {number : Nat} {task : Task} (htask : f.tasks[number]? = some task)
    {m : Move} (hother : ∀ act, m ≠ .act act number) : (f.move m).tasks[number]? = some task := by
  have hconcat (last : Task) : (f.tasks ++ [last])[number]? = some task :=
    getElem?_concat_iff.mpr (Or.inl htask)
  cases m with
  | check spec extra => exact hconcat _
  | again =>
      rw [move]
      split
      · exact hconcat _
      · exact htask
  | parse spec => exact hconcat _
  | act act other =>
      change (f.act act other).tasks[number]? = some task
      cases hthere : f.tasks[other]? with
      | none => rwa [Floor.act, hthere]
      | some changed =>
          rw [act_of_getElem? hthere]
          refine (List.getElem?_set_ne fun hsame => ?_).trans htask
          exact hother act (by rw [hsame])
  | _ => exact htask

/-- Every move makes of the bench what may become of it. -/
theorem Kept.becomes_move {f : Floor} (h : f.Kept) (m : Move) :
    f.bench.Becomes (f.move m).bench := by
  cases m with
  | check spec extra => exact f.becomes_enter spec extra
  | again =>
      rw [move]
      split
      next request _ => exact f.becomes_enter request.spec request.extra
      next => exact .refl _
  | parse spec => exact .refl _
  | act act number =>
      change f.bench.Becomes (f.act act number).bench
      cases htask : f.tasks[number]? with
      | none =>
          rw [Floor.act, htask]
          exact .refl _
      | some task =>
          by_cases hresult : task.result? = none
          · exact (h.fits_act htask hresult act).1
          · rw [act_of_result? htask hresult]
            exact .refl _
  | stop => exact f.bench.becomes_stop
  | attach port => exact Bench.becomes_of_calls rfl
  | finish process => exact f.bench.becomes_finish process
  | close process => exact f.bench.becomes_closeOutput process
  | elapse time => exact f.bench.becomes_elapse time

/-- Every move keeps what is kept. -/
theorem kept_move {f : Floor} (h : f.Kept) (m : Move) : (f.move m).Kept := by
  cases m with
  | check spec extra => exact kept_enter h spec extra
  | again =>
      rw [move]
      split
      next request _ => exact kept_enter h request.spec request.extra
      next => exact h
  | parse spec =>
      refine h.append ⟨iff_of_true rfl rfl, fun process htool => ?_⟩ fun run hrun => ?_
      · cases htool
      · cases hrun
  | act act number => exact kept_act h act number
  | stop =>
      obtain ⟨hactive, hprocesses⟩ := f.bench.slot_stop
      exact h.of_bench (h.becomes_move .stop) hactive hprocesses
  | attach port => exact h.of_bench (h.becomes_move (.attach port)) rfl rfl
  | finish process => exact h.of_bench (h.becomes_move (.finish process)) rfl rfl
  | close process => exact h.of_bench (h.becomes_move (.close process)) rfl rfl
  | elapse time => exact h.of_bench (h.becomes_move (.elapse time)) rfl rfl

/-- So does every list of moves. -/
theorem kept_run {f : Floor} (h : f.Kept) (moves : List Move) : (f.run moves).Kept := by
  induction moves generalizing f with
  | nil => exact h
  | cons m rest ih => exact ih (kept_move h m)

end Floor

/-! ## A workshop

A place to try things at: Java answers at once, and the tools print nothing and take their
time to end. -/

namespace Workshop

/-- The host, with Java on its search path and the archive. -/
def host : Host :=
  ⟨[([['j'], Java.executableName], .file [] true), ([['t']], .file [] false)], [], none, ['/', 'j']⟩

/-- The settings, under which no output is saved. -/
def settings : Config :=
  ⟨none, [], [], [], false, ⟨.root, [['t']]⟩, .ofInt 2⟩

/-- Java, which tells its version. -/
def java : Behavior :=
  .runs ⟨some [], some (Text.encode "version \"17\"".toList), 0, .atOnce, 0, false⟩

/-- A tool that ends when it is told to, however often it is interrupted. -/
def deaf : Behavior :=
  .runs ⟨some [], some [], 0, .stubborn, 0, false⟩

/-- The files. -/
def spec : SpecFiles :=
  ⟨⟨.root, ["A.tla".toList]⟩, ⟨.root, ["A.cfg".toList]⟩⟩

/-- A check is begun, and Java is found. -/
def opening (number : Nat) : List Move :=
  [.check spec [], .act .step number, .act .step number]

end Workshop

end TlaRunner.Workflow
