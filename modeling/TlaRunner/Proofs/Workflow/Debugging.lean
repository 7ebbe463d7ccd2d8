import TlaRunner.Proofs.Workflow.Schedule
import TlaRunner.Proofs.Workflow.Ticket

/-!
# Callers that run a check for a client

Whoever runs a check that a client may attach to waits for a delay, tells the client the port,
waits for the client, and then for the check.  All the while anything may happen on the floor, the
client may take its time and fail, and the caller may be cancelled: `Debugging.step` is what the
caller does when an `Event` happens.  What `Floor.debug` does is what a caller does by some list of
events (`Debugging.exists_events_debug`).

The client is told the port at most once, and never if the check has ended by the end of the delay.
When the caller has ended, so has the check, with one exception: a caller that is cancelled in the
delay leaves the check alone (`Debugging.Attends.ended`).
-/

namespace TlaRunner.Workflow

open Decimal (Double)
open Files (Host SpecFiles)
open Supervision (Behavior)

/-- A run gives way when it is given up. -/
theorem Plan.isEnded_abort {σ ρ : Type} (p : Plan σ ρ) (b : Bench) (stage : Stage σ ρ) :
    (p.abort b stage).2.isEnded = true := by
  cases stage with
  | _ => rfl

namespace Floor

/-- The result of a task stays as it is. -/
theorem result?_pass {f : Floor} {number : Nat} (h : f.result? number ≠ none)
    (incidents : List Incident) : (f.pass incidents).result? number = f.result? number := by
  induction incidents generalizing f with
  | nil => rfl
  | cons i rest ih =>
      have hsame : (f.meet i).result? number = f.result? number := by
        cases htask : f.tasks[number]? with
        | none => exact absurd (by rw [result?, htask]; rfl) h
        | some task =>
            rw [result?, htask, Option.bind_some] at h
            rcases i.acts_or number with ⟨act, rfl⟩ | hother
            · rw [show f.meet (.move (.act act number)) = f from act_of_result? htask h act]
            · rw [result?, result?, tasks_meet htask hother, htask]
      rw [pass_cons, ih (by rw [hsame]; exact h), hsame]

/-- The result of a check is its result. -/
theorem result?_check {f : Floor} {number : Nat} {run : CheckRun}
    (h : f.tasks[number]? = some (.check run)) : f.result? number = none ↔ run.result = none := by
  rw [result?, h, Option.bind_some]
  exact Option.map_eq_none_iff

/-- A check stays a check. -/
theorem check_of_pass {f : Floor} {number : Nat} {run : CheckRun}
    (h : f.tasks[number]? = some (.check run)) (incidents : List Incident) :
    ∃ done, (f.pass incidents).tasks[number]? = some (.check done) := by
  induction incidents generalizing f run with
  | nil => exact ⟨run, h⟩
  | cons i rest ih =>
      obtain ⟨done, hdone, _⟩ := check_of_meet h i
      exact ih hdone

/-- A check that is given up has ended. -/
theorem result?_act_cancel {f : Floor} {number : Nat} {run : CheckRun}
    (h : f.tasks[number]? = some (.check run)) : (f.act .cancel number).result? number ≠ none := by
  by_cases hopen : f.result? number = none
  · rw [result?, h, Option.bind_some] at hopen
    have hbefore : run.result = none := Option.map_eq_none_iff.mp hopen
    rw [act_of_getElem? h, result?, List.getElem?_set_self (List.getElem?_eq_some_iff.mp h).1,
      Option.bind_some, Task.act_check]
    refine fun hnone => ?_
    have hresult : (run.act f.bench .cancel).2.result = none := Option.map_eq_none_iff.mp hnone
    rw [CheckRun.act_eq f.bench hbefore] at hresult
    obtain ⟨_, _, _, _, hended⟩ := CheckRun.enter_spec hbefore
      (run.plan.act f.bench run.stage .cancel).1 (run.plan.act f.bench run.stage .cancel).2
    have hstage := hended.mp hresult
    rw [Plan.act, Plan.isEnded_abort] at hstage
    cases hstage
  · have hsame := result?_pass hopen [.move (.act .cancel number)]
    exact fun hnone => hopen (hsame.symm.trans hnone)

/-- What the program does once the client is told the port. -/
def serve (f : Floor) (number : Nat) (client : Client) : Floor × Except Failure CheckReport :=
  match f.attend client with
  | (f, some reason) => ((f.cancel number).1, .error (.client reason))
  | (f, none) => (f.await number, reportOf ((f.await number).result? number))

/-- The program waits for the delay, and goes on if the check has not ended. -/
theorem debug_eq (f : Floor) (spec : SpecFiles) (port : Int) (delay : Double) (client : Client) :
    f.debug spec port delay client =
      let waiting := (f.beginCheck spec (debuggerArguments port)).1.awaitDelay f.tasks.length delay
      match waiting.result? f.tasks.length with
      | some result => (waiting, reportOf (some result))
      | none => (waiting.move (.attach port)).serve f.tasks.length client :=
  rfl

end Floor

namespace Debugging

/-- How far a caller is. -/
inductive Phase
  /-- It waits for the end of the delay, or of the check. -/
  | delaying
  /-- It has told the client the port, and waits for the client. -/
  | attaching
  /-- It has given the check up, and fails when the check has ended. -/
  | withdrawing (failure : Failure)
  /-- It waits for the end of the check. -/
  | awaiting
  /-- It has ended. -/
  | ended (answer : Except Failure CheckReport)

/-- Something that may happen to a caller. -/
inductive Event
  /-- Something happens on the floor or beside it. -/
  | incident (i : Incident)
  /-- The caller learns that the check has ended. -/
  | resume
  /-- The delay is over. -/
  | lapse
  /-- The client has done what it does, or fails. -/
  | answer (failure : Option Failure)
  /-- The caller is cancelled. -/
  | cancel

end Debugging

/-- A caller that runs a check for a client. -/
structure Debugging where
  /-- The floor. -/
  floor : Floor
  /-- The number of the check. -/
  number : Nat
  /-- The port on which the model checker listens. -/
  port : Int
  /-- How far the caller is. -/
  phase : Debugging.Phase
  /-- The ports that the client was told. -/
  told : List Int

namespace Debugging

/-- Begins a check that a client may attach to. -/
def begin (f : Floor) (spec : SpecFiles) (port : Int) : Debugging where
  floor := f.enter spec (Floor.debuggerArguments port)
  number := f.tasks.length
  port := port
  phase := .delaying
  told := []

/-- The result of the check, once it has ended. -/
def result? (d : Debugging) : Option (Except Failure Result) :=
  d.floor.result? d.number

/-- Whether the caller has ended. -/
def isOver (d : Debugging) : Bool :=
  match d.phase with
  | .ended _ => true
  | _ => false

/-- Gives the check up. -/
def giveUp (d : Debugging) (phase : Phase) : Debugging :=
  { d with floor := d.floor.act .cancel d.number, phase }

/-- What the caller does when something happens. -/
def step (d : Debugging) : Event → Debugging
  | .incident i => { d with floor := d.floor.meet i }
  | .resume =>
    match d.phase, d.result? with
    | .delaying, some result => { d with phase := .ended (Floor.reportOf (some result)) }
    | .withdrawing failure, some _ => { d with phase := .ended (.error failure) }
    | .awaiting, some result => { d with phase := .ended (Floor.reportOf (some result)) }
    | _, _ => d
  | .lapse =>
    match d.phase, d.result? with
    | .delaying, some result => { d with phase := .ended (Floor.reportOf (some result)) }
    | .delaying, none =>
      { d with
        floor := d.floor.move (.attach d.port)
        phase := .attaching
        told := d.told ++ [d.port] }
    | _, _ => d
  | .answer failure =>
    match d.phase, failure with
    | .attaching, some failure => d.giveUp (.withdrawing failure)
    | .attaching, none => { d with phase := .awaiting }
    | _, _ => d
  | .cancel =>
    match d.phase with
    -- the check is not given up here
    | .delaying => { d with phase := .ended (.error .cancelled) }
    | .attaching => d.giveUp (.withdrawing .cancelled)
    | .withdrawing _ => { d with phase := .ended (.error .cancelled) }
    | .awaiting => d.giveUp (.ended (.error .cancelled))
    | .ended _ => d

/-- Lets a list of events happen. -/
def run (d : Debugging) (events : List Event) : Debugging :=
  events.foldl step d

theorem run_append (d : Debugging) (first last : List Event) :
    d.run (first ++ last) = (d.run first).run last :=
  List.foldl_append

theorem run_concat (d : Debugging) (events : List Event) (e : Event) :
    d.run (events ++ [e]) = (d.run events).step e :=
  d.run_append events [e]

/-- What the caller does on the floor when something happens. -/
def deed (d : Debugging) : Event → List Incident
  | .incident i => [i]
  | .resume => []
  | .lapse =>
    match d.phase, d.result? with
    | .delaying, none => [.move (.attach d.port)]
    | _, _ => []
  | .answer failure =>
    match d.phase, failure with
    | .attaching, some _ => [.move (.act .cancel d.number)]
    | _, _ => []
  | .cancel =>
    match d.phase with
    | .attaching => [.move (.act .cancel d.number)]
    | .awaiting => [.move (.act .cancel d.number)]
    | _ => []

/-- What happens on the floor while a list of events happens. -/
def deeds (d : Debugging) : List Event → List Incident
  | [] => []
  | e :: rest => d.deed e ++ (d.step e).deeds rest

/-! ## One event -/

/-- What a caller may do when something happens. -/
inductive Does (d : Debugging) (e : Event) : Debugging → Prop
  /-- It goes on as it was, whatever happens on the floor. -/
  | waits {floor : Floor} (hfloor : floor = d.floor.pass (d.deed e)) : Does d e { d with floor }
  /-- It ends, since the check has. -/
  | returns {answer : Except Failure CheckReport} (hgoing : d.isOver = false)
      (hended : d.result? ≠ none) (hdeed : d.deed e = []) :
      Does d e { d with phase := .ended answer }
  /-- It tells the client the port. -/
  | tells (hlapse : e = .lapse) (hphase : d.phase = .delaying) (hopen : d.result? = none)
      (hdeed : d.deed e = [.move (.attach d.port)]) :
      Does d e ⟨d.floor.move (.attach d.port), d.number, d.port, .attaching, d.told ++ [d.port]⟩
  /-- The client is attached. -/
  | attends (hphase : d.phase = .attaching) (hdeed : d.deed e = []) :
      Does d e { d with phase := .awaiting }
  /-- It gives the check up. -/
  | givesUp {phase : Phase} (hphase : d.phase = .attaching ∨ d.phase = .awaiting)
      (hnext : phase ≠ .delaying) (hdeed : d.deed e = [.move (.act .cancel d.number)]) :
      Does d e (d.giveUp phase)
  /-- It is cancelled in the delay. -/
  | leaves (hcancel : e = .cancel) (hphase : d.phase = .delaying) (hdeed : d.deed e = []) :
      Does d e { d with phase := .ended (.error .cancelled) }
  /-- It is cancelled when it has given the check up. -/
  | drops {failure : Failure} (hphase : d.phase = .withdrawing failure) (hdeed : d.deed e = []) :
      Does d e { d with phase := .ended (.error .cancelled) }

variable {d : Debugging} {e : Event}

/-- A caller that does nothing goes on as it was. -/
theorem does_of_deed (h : d.deed e = []) : d.Does e d :=
  .waits (by rw [h]; rfl)

/-- A caller that has not ended ends when it learns that the check has. -/
theorem does_of_result {result : Except Failure Result} (hresult : d.result? = some result)
    (hgoing : d.isOver = false) (hdeed : d.deed e = []) (answer : Except Failure CheckReport) :
    d.Does e { d with phase := .ended answer } :=
  .returns hgoing (by rw [hresult]; exact Option.some_ne_none result) hdeed

/-- It does one of these things. -/
theorem does (d : Debugging) (e : Event) : d.Does e (d.step e) := by
  cases e with
  | incident i => exact .waits rfl
  | resume =>
      cases hresult : d.result? with
      | none =>
          cases hphase : d.phase with
          | _ =>
              simp only [step, hphase, hresult]
              exact does_of_deed rfl
      | some result =>
          cases hphase : d.phase with
          | attaching =>
              simp only [step, hphase]
              exact does_of_deed rfl
          | ended answer =>
              simp only [step, hphase]
              exact does_of_deed rfl
          | _ =>
              simp only [step, hphase, hresult]
              exact does_of_result hresult (by rw [isOver, hphase]) rfl _
  | lapse =>
      cases hphase : d.phase with
      | delaying =>
          cases hresult : d.result? with
          | none =>
              simp only [step, hphase, hresult]
              exact .tells rfl hphase hresult (by simp only [deed, hphase, hresult])
          | some result =>
              simp only [step, hphase, hresult]
              exact does_of_result hresult (by rw [isOver, hphase])
                (by simp only [deed, hphase, hresult]) _
      | _ =>
          simp only [step, hphase]
          exact does_of_deed (by simp only [deed, hphase])
  | answer failure =>
      cases hphase : d.phase with
      | attaching =>
          cases failure with
          | none =>
              simp only [step, hphase]
              exact .attends hphase (by simp only [deed, hphase])
          | some failure =>
              simp only [step, hphase]
              exact .givesUp (Or.inl hphase) (fun h => by cases h) (by simp only [deed, hphase])
      | _ =>
          simp only [step, hphase]
          exact does_of_deed (by simp only [deed, hphase])
  | cancel =>
      cases hphase : d.phase with
      | delaying =>
          simp only [step, hphase]
          exact .leaves rfl hphase (by simp only [deed, hphase])
      | attaching =>
          simp only [step, hphase]
          exact .givesUp (Or.inl hphase) (fun h => by cases h) (by simp only [deed, hphase])
      | withdrawing failure =>
          simp only [step, hphase]
          exact .drops hphase (by simp only [deed, hphase])
      | awaiting =>
          simp only [step, hphase]
          exact .givesUp (Or.inr hphase) (fun h => by cases h) (by simp only [deed, hphase])
      | ended answer =>
          simp only [step, hphase]
          exact does_of_deed (by simp only [deed, hphase])

/-- So what it does on the floor is what it is said to do there. -/
theorem floor_step (d : Debugging) (e : Event) : (d.step e).floor = d.floor.pass (d.deed e) := by
  have hdoes := d.does e
  generalize d.step e = after at hdoes ⊢
  cases hdoes with
  | waits hfloor => exact hfloor
  | returns _ _ hdeed => rw [hdeed]; rfl
  | tells _ _ _ hdeed => rw [hdeed]; rfl
  | attends _ hdeed => rw [hdeed]; rfl
  | givesUp _ _ hdeed => rw [hdeed]; rfl
  | leaves _ _ hdeed => rw [hdeed]; rfl
  | drops _ hdeed => rw [hdeed]; rfl

/-- The check and the port stay the same. -/
theorem number_step (d : Debugging) (e : Event) :
    (d.step e).number = d.number ∧ (d.step e).port = d.port := by
  have hdoes := d.does e
  generalize d.step e = after at hdoes ⊢
  cases hdoes with
  | _ => exact ⟨rfl, rfl⟩

theorem floor_run (d : Debugging) (events : List Event) :
    (d.run events).floor = d.floor.pass (d.deeds events) := by
  induction events generalizing d with
  | nil => rfl
  | cons e rest ih =>
      rw [deeds, Floor.pass_append, ← floor_step]
      exact ih (d.step e)

theorem number_run (d : Debugging) (events : List Event) :
    (d.run events).number = d.number ∧ (d.run events).port = d.port := by
  induction events generalizing d with
  | nil => exact ⟨rfl, rfl⟩
  | cons e rest ih =>
      obtain ⟨hnumber, hport⟩ := d.number_step e
      obtain ⟨hlast, hsame⟩ := ih (d.step e)
      exact ⟨hlast.trans hnumber, hsame.trans hport⟩

/-! ## What is kept -/

/-- What a caller keeps, whatever happens. -/
structure Kept (d : Debugging) : Prop where
  /-- What is kept on the floor. -/
  floor : d.floor.Kept
  /-- Tickets tell checks apart. -/
  tickets : d.floor.Ticketed
  /-- The check is there. -/
  check : ∃ run, d.floor.tasks[d.number]? = some (.check run)
  /-- A check that is given up has ended. -/
  withdrawn : ∀ failure, d.phase = .withdrawing failure → d.result? ≠ none
  /-- The client is told the port once at most, and not in the delay. -/
  told : d.told = [] ∨ d.told = [d.port] ∧ d.phase ≠ .delaying

theorem kept_begin {f : Floor} (h : f.Kept) (htickets : f.Ticketed) (spec : SpecFiles)
    (port : Int) : (begin f spec port).Kept where
  floor := Floor.kept_enter h spec _
  tickets := h.ticketed_meet htickets (.move (.check spec (Floor.debuggerArguments port)))
  check := ⟨_, List.getElem?_concat_length⟩
  withdrawn _ hphase := by cases hphase
  told := Or.inl rfl

/-- What happens on the floor and what the client is told keep everything, if a check that is given
up has ended. -/
theorem Kept.of_pass (h : d.Kept) (incidents : List Incident) {phase : Phase} {told : List Int}
    (hwithdrawn : ∀ failure, phase = .withdrawing failure →
      (d.floor.pass incidents).result? d.number ≠ none)
    (htold : told = [] ∨ told = [d.port] ∧ phase ≠ .delaying) :
    Kept ⟨d.floor.pass incidents, d.number, d.port, phase, told⟩ where
  floor := Floor.kept_pass h.floor incidents
  tickets := h.floor.ticketed_pass h.tickets incidents
  check := by
    obtain ⟨run, hrun⟩ := h.check
    exact Floor.check_of_pass hrun incidents
  withdrawn := hwithdrawn
  told := htold

theorem Kept.ends (h : d.Kept) (answer : Except Failure CheckReport) :
    Kept { d with phase := .ended answer } := by
  refine h.of_pass [] (fun _ hphase => by cases hphase) ?_
  exact h.told.imp_right fun htold => ⟨htold.1, fun hphase => by cases hphase⟩

theorem kept_step (h : d.Kept) (e : Event) : (d.step e).Kept := by
  have hdoes := d.does e
  generalize d.step e = after at hdoes ⊢
  cases hdoes with
  | waits hfloor =>
      subst hfloor
      refine h.of_pass _ (fun failure hphase => ?_) h.told
      have hended := h.withdrawn failure hphase
      rw [Floor.result?_pass hended]
      exact hended
  | returns _ _ _ => exact h.ends _
  | tells _ hphase _ _ =>
      refine h.of_pass [.move (.attach d.port)] (fun _ hphase => by cases hphase) (Or.inr ⟨?_, ?_⟩)
      · rw [h.told.resolve_right fun htold => htold.2 hphase, List.nil_append]
      · exact fun hphase => by cases hphase
  | attends _ _ =>
      refine h.of_pass [] (fun _ hphase => by cases hphase) ?_
      exact h.told.imp_right fun htold => ⟨htold.1, fun hphase => by cases hphase⟩
  | givesUp _ hnext _ =>
      obtain ⟨run, hrun⟩ := h.check
      refine h.of_pass [.move (.act .cancel d.number)] (fun _ _ => ?_) ?_
      · exact Floor.result?_act_cancel hrun
      · exact h.told.imp_right fun htold => ⟨htold.1, hnext⟩
  | leaves _ _ _ => exact h.ends _
  | drops _ _ => exact h.ends _

theorem kept_run (h : d.Kept) (events : List Event) : (d.run events).Kept := by
  induction events generalizing d with
  | nil => exact h
  | cons e rest ih => exact ih (kept_step h e)

/-! ## What the client is told -/

/-- The client is told the port at the end of the delay, if the check has not ended. -/
theorem told_step_iff (d : Debugging) (e : Event) :
    (d.step e).told ≠ d.told ↔ e = .lapse ∧ d.phase = .delaying ∧ d.result? = none := by
  constructor
  · intro htold
    have hdoes := d.does e
    generalize d.step e = after at hdoes htold
    cases hdoes with
    | tells hlapse hphase hopen _ => exact ⟨hlapse, hphase, hopen⟩
    | _ => exact absurd rfl htold
  · rintro ⟨rfl, hphase, hopen⟩
    simp only [step, hphase, hopen]
    exact fun hsame => List.cons_ne_nil _ _ (List.append_right_eq_self.mp hsame)

/-- Whether the client is not told the port any more, since the caller or the check has ended. -/
def IsSpared (d : Debugging) : Prop :=
  d.told = [] ∧ (d.isOver = true ∨ d.phase = .delaying ∧ d.result? ≠ none)

theorem IsSpared.step (h : d.IsSpared) (e : Event) : (d.step e).IsSpared := by
  have hdoes := d.does e
  generalize d.step e = after at hdoes ⊢
  obtain ⟨htold, hdone⟩ := h
  cases hdoes with
  | waits hfloor =>
      subst hfloor
      refine ⟨htold, hdone.imp_right fun ⟨hphase, hended⟩ => ⟨hphase, ?_⟩⟩
      rw [result?, Floor.result?_pass hended]
      exact hended
  | returns _ _ _ => exact ⟨htold, Or.inl rfl⟩
  | leaves _ _ _ => exact ⟨htold, Or.inl rfl⟩
  | drops _ _ => exact ⟨htold, Or.inl rfl⟩
  | tells _ hphase hopen _ => simp [isOver, hphase, hopen] at hdone
  | attends hphase _ => simp [isOver, hphase] at hdone
  | givesUp hphase _ _ =>
      rcases hphase with hphase | hphase
      · simp [isOver, hphase] at hdone
      · simp [isOver, hphase] at hdone

theorem IsSpared.run (h : d.IsSpared) (events : List Event) : (d.run events).IsSpared := by
  induction events generalizing d with
  | nil => exact h
  | cons e rest ih => exact ih (h.step e)

/-! ## Ends of callers -/

/-- Whether a caller is cancelled in the delay, while the check runs. -/
def Leaks (d : Debugging) (e : Event) : Prop :=
  e = .cancel ∧ d.phase = .delaying ∧ d.result? = none

/-- When a caller ends, the check has ended, unless the caller leaks it. -/
theorem Kept.ended_iff (h : d.Kept) (hgoing : d.isOver = false) (hover : (d.step e).isOver = true) :
    (d.step e).result? ≠ none ↔ ¬d.Leaks e := by
  have hdoes := d.does e
  generalize d.step e = after at hdoes hover ⊢
  cases hdoes with
  | waits _ =>
      change d.isOver = true at hover
      rw [hgoing] at hover
      cases hover
  | tells _ _ _ _ => cases hover
  | attends _ _ => cases hover
  | returns _ hended _ => exact iff_of_true hended fun hleaks => hended hleaks.2.2
  | givesUp hphase _ _ =>
      obtain ⟨run, hrun⟩ := h.check
      refine iff_of_true (Floor.result?_act_cancel hrun) fun ⟨_, hdelaying, _⟩ => ?_
      rw [hdelaying] at hphase
      rcases hphase with hphase | hphase
      · cases hphase
      · cases hphase
  | leaves hcancel hphase _ =>
      exact ⟨fun hended hleaks => hended hleaks.2.2,
        fun hstays hopen => hstays ⟨hcancel, hphase, hopen⟩⟩
  | drops hphase _ =>
      refine iff_of_true (h.withdrawn _ hphase) fun ⟨_, hdelaying, _⟩ => ?_
      rw [hdelaying] at hphase
      cases hphase

/-- So if a caller has ended, the check has ended, or the caller has leaked it. -/
theorem Kept.ended_or_leaked {first : Debugging} (hfirst : first.Kept)
    (hgoing : first.isOver = false) {events : List Event}
    (hover : (first.run events).isOver = true) :
    (first.run events).result? ≠ none ∨
      ∃ before e rest, events = before ++ e :: rest ∧ (first.run before).Leaks e := by
  induction events using List.reverseRecOn with
  | nil =>
      rw [show first.run [] = first from rfl, hgoing] at hover
      cases hover
  | append_singleton events e ih =>
      rw [run_concat] at hover ⊢
      cases hbefore : (first.run events).isOver with
      | true =>
          rcases ih hbefore with hended | ⟨before, x, rest, rfl, hleaks⟩
          · refine Or.inl ?_
            rw [result?, floor_step, (number_step _ e).1, Floor.result?_pass hended]
            exact hended
          · refine Or.inr ⟨before, x, rest ++ [e], ?_, hleaks⟩
            rw [List.append_assoc, List.cons_append]
      | false =>
          by_cases hleaks : (first.run events).Leaks e
          · exact Or.inr ⟨events, e, [], rfl, hleaks⟩
          · exact Or.inl (((kept_run hfirst events).ended_iff hbefore hover).mpr hleaks)

/-- Nothing is left of the check of a caller. -/
structure Closed (d : Debugging) : Prop where
  /-- It has ended. -/
  ended : d.result? ≠ none
  /-- It does not hold the slot. -/
  freed : ∀ run : CheckRun, d.floor.tasks[d.number]? = some (.check run) → run.IsAdmitted →
    d.floor.bench.slot.active ≠ some run.ticket
  /-- Its tool has ended or was interrupted. -/
  settled : ∀ (run : CheckRun) (process : Nat), d.floor.tasks[d.number]? = some (.check run) →
    run.IsAdmitted → d.floor.bench.slot.processes[run.ticket]? = some (some process) →
      d.floor.bench.Settled process

/-- Nothing is left of a check that has ended, if it has not deserted its tool. -/
theorem Kept.closed {first : Debugging} (hfirst : first.Kept)
    (hopen : ∀ run, first.floor.tasks[first.number]? = some (.check run) → run.IsAdmitted →
      run.result = none) {events : List Event} (hended : (first.run events).result? ≠ none)
    (hstays : ∀ process, ¬first.floor.Occurs (fun f i => f.Deserts first.number process i)
      (first.deeds events)) : (first.run events).Closed := by
  have hlast := kept_run hfirst events
  have hfloor := first.floor_run events
  have hnumber := (first.number_run events).1
  refine ⟨hended, fun run hrun hadmitted => ?_, fun run process hrun hadmitted hprocess => ?_⟩
  · have hresult := (Floor.result?_check hrun).not.mp hended
    exact hlast.floor.not_active_of_ended hlast.tickets hrun hresult hadmitted
  · have hresult := (Floor.result?_check hrun).not.mp hended
    rw [hfloor] at hrun hprocess ⊢
    rw [hnumber] at hrun
    exact (hfirst.floor.settled_pass hfirst.tickets hopen _ hrun hresult hadmitted
      hprocess).resolve_right (hstays process)

/-- A check that is begun and not turned away has not ended. -/
theorem open_begin (f : Floor) (spec : SpecFiles) (port : Int) (run : CheckRun)
    (hrun : (begin f spec port).floor.tasks[f.tasks.length]? = some (.check run))
    (hadmitted : run.IsAdmitted) : run.result = none := by
  have hmeet : (f.meet (.move (.check spec (Floor.debuggerArguments port)))).tasks[
      f.tasks.length]? = some (.check run) := hrun
  rcases Floor.ticket_of_meet hmeet hadmitted with ⟨before, hbefore, _⟩ | ⟨_, hopen, _⟩
  · rw [List.getElem?_eq_none (Nat.le_refl _)] at hbefore
    cases hbefore
  · exact hopen

/-- A check that finds the slot held has been turned away. -/
theorem result?_begin_of_active {f : Floor} {holder : Nat}
    (h : f.bench.slot.active = some holder) (spec : SpecFiles) (port : Int) :
    (begin f spec port).result? = some (.error (.busy ⟨holder⟩)) := by
  rw [begin, result?, Floor.enter_of_active h, Floor.result?, List.getElem?_concat_length]
  rfl

/-! ## The program -/

/-- Whatever happens on the floor, the caller goes on as it was. -/
theorem run_incidents (d : Debugging) (incidents : List Incident) :
    d.run (incidents.map .incident) = { d with floor := d.floor.pass incidents } := by
  induction incidents generalizing d with
  | nil => rfl
  | cons i rest ih => exact ih (d.step (.incident i))

theorem exists_events (d : Debugging) {after : Floor} (h : d.floor.Reaches after) :
    ∃ events, d.run events = { d with floor := after } := by
  obtain ⟨incidents, rfl⟩ := h.exists_pass
  exact ⟨incidents.map .incident, d.run_incidents incidents⟩

/-- A caller that waits for the check ends when the check has. -/
theorem exists_events_await (h : d.phase = .awaiting) :
    ∃ events, (d.run events).floor = d.floor.await d.number ∧
      ((d.run events).phase =
          .ended (Floor.reportOf ((d.floor.await d.number).result? d.number)) ∨
        (d.run events).phase = .awaiting ∧ (d.run events).result? = none) := by
  obtain ⟨events, hrun⟩ := d.exists_events (Floor.works_await d.floor d.number).reaches
  cases hresult : (d.floor.await d.number).result? d.number with
  | none => exact ⟨events, by rw [hrun]; exact ⟨rfl, Or.inr ⟨h, hresult⟩⟩⟩
  | some result =>
      have hresume : ({ d with floor := d.floor.await d.number } : Debugging).step .resume =
          ⟨d.floor.await d.number, d.number, d.port, .ended (Floor.reportOf (some result)),
            d.told⟩ := by
        simp only [step, result?, h, hresult]
      refine ⟨events ++ [.resume], ?_⟩
      rw [run_concat, hrun, hresume]
      exact ⟨rfl, Or.inl rfl⟩

/-- A caller whose client attaches waits for the check. -/
theorem exists_events_attach (h : d.phase = .attaching) {client : Floor.Client} {attended : Floor}
    (hattend : d.floor.attend client = (attended, none)) :
    ∃ events, (d.run events).floor = attended.await d.number ∧
      ((d.run events).phase =
          .ended (Floor.reportOf ((attended.await d.number).result? d.number)) ∨
        (d.run events).phase = .awaiting ∧ (d.run events).result? = none) := by
  have hreaches := Floor.reaches_attend d.floor client
  rw [hattend] at hreaches
  obtain ⟨first, hfirst⟩ := d.exists_events hreaches
  have hanswer : ({ d with floor := attended } : Debugging).step (.answer none) =
      { d with floor := attended, phase := .awaiting } := by
    simp only [step, h]
  obtain ⟨last, hlast⟩ := exists_events_await
    (d := { d with floor := attended, phase := .awaiting }) rfl
  have hrun : d.run (first ++ .answer none :: last) =
      ({ d with floor := attended, phase := .awaiting } : Debugging).run last := by
    rw [run_append, hfirst, ← hanswer]
    rfl
  exact ⟨first ++ .answer none :: last, by rw [hrun]; exact hlast⟩

/-- A caller whose client fails gives the check up and fails. -/
theorem exists_events_fail (h : d.phase = .attaching)
    (hcheck : ∃ run, d.floor.tasks[d.number]? = some (.check run)) {client : Floor.Client}
    {attended : Floor} {reason : Text} (hattend : d.floor.attend client = (attended, some reason)) :
    ∃ events, (d.run events).floor = (attended.cancel d.number).1 ∧
      (d.run events).phase = .ended (.error (.client reason)) := by
  have hreaches := Floor.reaches_attend d.floor client
  rw [hattend] at hreaches
  obtain ⟨incidents, hpass⟩ := hreaches.exists_pass
  obtain ⟨run, hrun⟩ := hcheck
  obtain ⟨done, hdone⟩ := Floor.check_of_pass hrun incidents
  rw [hpass] at hdone
  obtain ⟨result, hresult⟩ := Option.ne_none_iff_exists'.mp (Floor.result?_act_cancel hdone)
  have hanswer : ({ d with floor := attended } : Debugging).step (.answer (some (.client reason))) =
      { d with floor := attended.act .cancel d.number, phase := .withdrawing (.client reason) } := by
    simp only [step, h, giveUp]
  have hresume : ({ d with
      floor := attended.act .cancel d.number
      phase := .withdrawing (.client reason) } : Debugging).step .resume =
        { d with
          floor := attended.act .cancel d.number
          phase := .ended (.error (.client reason)) } := by
    simp only [step, result?, hresult]
  refine ⟨incidents.map .incident ++ [.answer (some (.client reason)), .resume], ?_⟩
  have hlast : d.run (incidents.map .incident ++ [.answer (some (.client reason)), .resume]) =
      { d with
        floor := attended.act .cancel d.number
        phase := .ended (.error (.client reason)) } := by
    rw [run_append, run_incidents, hpass, ← hresume, ← hanswer]
    rfl
  rw [hlast, Floor.cancel_eq]
  exact ⟨rfl, rfl⟩

/-- What the program does once the client is told the port is what a caller does then. -/
theorem exists_events_serve (h : d.phase = .attaching)
    (hcheck : ∃ run, d.floor.tasks[d.number]? = some (.check run)) (client : Floor.Client) :
    ∃ events, (d.run events).floor = (d.floor.serve d.number client).1 ∧
      ((d.run events).phase = .ended (d.floor.serve d.number client).2 ∨
        (d.run events).phase = .awaiting ∧ (d.run events).result? = none) := by
  cases hattend : d.floor.attend client with
  | mk attended failure =>
      cases failure with
      | some reason =>
          obtain ⟨events, hfloor, hphase⟩ := exists_events_fail h hcheck hattend
          rw [Floor.serve, hattend]
          exact ⟨events, hfloor, Or.inl hphase⟩
      | none =>
          rw [Floor.serve, hattend]
          exact exists_events_attach h hattend

/-- So what the program does is what a caller does by some list of events. -/
theorem exists_events_debug (f : Floor) (spec : SpecFiles) (port : Int) (delay : Double)
    (client : Floor.Client) :
    ∃ events, let last := (begin f spec port).run events
      last.floor = (f.debug spec port delay client).1 ∧
        (last.phase = .ended (f.debug spec port delay client).2 ∨
          last.phase = .awaiting ∧ last.result? = none) := by
  rw [Floor.debug_eq]
  have hdelay := ((f.works_beginCheck spec (Floor.debuggerArguments port)).trans
    (Floor.works_awaitDelay _ f.tasks.length delay)).reaches
  generalize (f.beginCheck spec (Floor.debuggerArguments port)).1.awaitDelay f.tasks.length delay =
    waiting at hdelay ⊢
  obtain ⟨incidents, hpass⟩ := hdelay.exists_pass
  have hfirst := (begin f spec port).run_incidents incidents
  rw [show (begin f spec port).floor.pass incidents = waiting from hpass] at hfirst
  have hcheck : ∃ run, waiting.tasks[f.tasks.length]? = some (.check run) :=
    hpass ▸ Floor.check_of_pass List.getElem?_concat_length incidents
  simp only
  cases hresult : waiting.result? f.tasks.length with
  | some result =>
      have hresume : (⟨waiting, f.tasks.length, port, .delaying, []⟩ : Debugging).step .resume =
          ⟨waiting, f.tasks.length, port, .ended (Floor.reportOf (some result)), []⟩ := by
        simp only [step, result?, hresult]
      refine ⟨incidents.map .incident ++ [.resume], ?_⟩
      rw [run_concat, hfirst]
      exact ⟨congrArg floor hresume, Or.inl (congrArg phase hresume)⟩
  | none =>
      have hlapse : (⟨waiting, f.tasks.length, port, .delaying, []⟩ : Debugging).step .lapse =
          ⟨waiting.move (.attach port), f.tasks.length, port, .attaching, [port]⟩ := by
        simp only [step, result?, hresult, List.nil_append]
      obtain ⟨events, hevents⟩ := exists_events_serve
        (d := ⟨waiting.move (.attach port), f.tasks.length, port, .attaching, [port]⟩) rfl hcheck
        client
      have hrun : (begin f spec port).run (incidents.map .incident ++ .lapse :: events) =
          (⟨waiting.move (.attach port), f.tasks.length, port, .attaching, [port]⟩ :
            Debugging).run events := by
        rw [run_append, hfirst, ← hlapse]
        rfl
      refine ⟨incidents.map .incident ++ .lapse :: events, ?_⟩
      rw [hrun]
      exact hevents

/-! ## All events -/

/-- What a caller has done after all that happened, and what it does next. -/
structure Attends (first : Debugging) (events : List Event) (e : Event) : Prop where
  /-- The client has been told the port at most once. -/
  once : (first.run events).told = [] ∨ (first.run events).told = [first.port]
  /-- The client is told at the end of the delay, if the check has not ended. -/
  tells : ((first.run events).step e).told ≠ (first.run events).told ↔
    e = .lapse ∧ (first.run events).phase = .delaying ∧ (first.run events).result? = none
  /-- If the check has ended in the delay, the client is never told. -/
  spared : (first.run events).phase = .delaying → (first.run events).result? ≠ none →
    ∀ later, ((first.run events).run later).told = []
  /-- When the caller ends, the check has ended, unless the caller is cancelled in the delay while
  the check runs. -/
  ended : (first.run events).isOver = false → ((first.run events).step e).isOver = true →
    (((first.run events).step e).result? ≠ none ↔ ¬(first.run events).Leaks e)
  /-- If the caller has ended, nothing is left of the check, unless the caller was so cancelled or
  the check was given up while it waited for its tool to end. -/
  closed : (first.run events).isOver = true → (first.run events).Closed ∨
    (∃ before x rest, events = before ++ x :: rest ∧ (first.run before).Leaks x) ∨
      ∃ process, first.floor.Occurs (fun f i => f.Deserts first.number process i)
        (first.deeds events)

theorem Kept.attends {first : Debugging} (hfirst : first.Kept) (hgoing : first.isOver = false)
    (hopen : ∀ run, first.floor.tasks[first.number]? = some (.check run) → run.IsAdmitted →
      run.result = none) (events : List Event) (e : Event) : first.Attends events e where
  once := by
    have htold := (kept_run hfirst events).told
    rw [(first.number_run events).2] at htold
    exact htold.imp_right And.left
  tells := (first.run events).told_step_iff e
  spared hdelaying hended later := by
    have htold := (kept_run hfirst events).told.resolve_right fun htold => htold.2 hdelaying
    have hspared : (first.run events).IsSpared := ⟨htold, Or.inr ⟨hdelaying, hended⟩⟩
    exact (hspared.run later).1
  ended hbefore hover := (kept_run hfirst events).ended_iff hbefore hover
  closed hover := by
    rcases hfirst.ended_or_leaked hgoing hover with hended | hleaked
    · by_cases hdeserts : ∃ process, first.floor.Occurs
          (fun f i => f.Deserts first.number process i) (first.deeds events)
      · exact Or.inr (Or.inr hdeserts)
      · exact Or.inl (hfirst.closed hopen hended (not_exists.mp hdeserts))
    · exact Or.inr (Or.inl hleaked)

/-- Whatever happened before and happens while a caller runs a check for a client: the client is
told the port at most once and never of a check that has ended, and nothing is left of the check
when the caller has ended, with two exceptions. -/
theorem debugging_attends (host : Host) (config : Config) (attended : Bool)
    (javaBehavior : Behavior) (behaviors : List Behavior) (incidents : List Incident)
    (spec : SpecFiles) (port : Int) (events : List Event) (e : Event) :
    let f := (Floor.empty (.idle host config attended javaBehavior behaviors)).pass incidents
    (∀ holder, f.bench.slot.active = some holder →
      (begin f spec port).result? = some (.error (.busy ⟨holder⟩))) ∧
    (begin f spec port).Attends events e := by
  intro f
  have hempty := Floor.kept_idle host config attended javaBehavior behaviors
  have hkept : f.Kept := Floor.kept_pass hempty incidents
  have htickets : f.Ticketed := hempty.ticketed_pass (Floor.ticketed_empty _) incidents
  exact ⟨fun _ hactive => result?_begin_of_active hactive spec port,
    (kept_begin hkept htickets spec port).attends rfl (open_begin f spec port) events e⟩

/-- A caller that is cancelled in the delay leaves its check running. -/
theorem debugging_leaks :
    ¬ ∀ (host : Host) (config : Config) (attended : Bool) (javaBehavior : Behavior)
      (behaviors : List Behavior) (incidents : List Incident) (spec : SpecFiles) (port : Int)
      (events : List Event),
      let f := (Floor.empty (.idle host config attended javaBehavior behaviors)).pass incidents
      ((begin f spec port).run events).isOver = true → ((begin f spec port).run events).Closed := by
  intro h
  have hclosed := h Workshop.host Workshop.settings false Workshop.java [Workshop.deaf] []
    Workshop.spec 4321 (List.replicate 3 (.incident (.move (.act .step 0))) ++ [.cancel])
    (by decide)
  exact hclosed.ended (by decide)

end Debugging

end TlaRunner.Workflow
