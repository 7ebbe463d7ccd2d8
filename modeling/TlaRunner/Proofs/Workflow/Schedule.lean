import TlaRunner.Proofs.Workflow.Incident

/-!
# Schedules are lists of moves

Whatever a program does on a floor by turns is a list of moves (`Floor.Reaches`): a turn of a
task is a list of steps of it, a round is a turn of every task, and the clock is moved on
between rounds.  So what holds of a floor after every list of moves holds of it after a check,
a parse or a check with a debugger, however these are mixed.

Turns and the clock are all that there is while somebody waits for a task (`Floor.Works`).
-/

namespace TlaRunner.Workflow

open Decimal (Double)
open Files (SpecFiles)

/-- Whether a task goes on or time goes by. -/
def Move.isWork : Move → Bool
  | .act .step _ => true
  | .elapse _ => true
  | _ => false

namespace Floor

/-- Some list of moves leads from a floor to another. -/
def Reaches (f after : Floor) : Prop :=
  ∃ moves, f.run moves = after

theorem Reaches.refl (f : Floor) : f.Reaches f :=
  ⟨[], rfl⟩

theorem Reaches.trans {f middle after : Floor} (hfirst : f.Reaches middle)
    (hlast : middle.Reaches after) : f.Reaches after := by
  obtain ⟨first, rfl⟩ := hfirst
  obtain ⟨last, rfl⟩ := hlast
  exact ⟨first ++ last, List.foldl_append⟩

theorem reaches_move (f : Floor) (m : Move) : f.Reaches (f.move m) :=
  ⟨[m], rfl⟩

/-- Some list of moves does so by which tasks go on and time goes by. -/
def Works (f after : Floor) : Prop :=
  ∃ moves, (∀ m ∈ moves, m.isWork = true) ∧ f.run moves = after

theorem Works.refl (f : Floor) : f.Works f :=
  ⟨[], (fun _ h => by cases h), rfl⟩

theorem Works.trans {f middle after : Floor} (hfirst : f.Works middle)
    (hlast : middle.Works after) : f.Works after := by
  obtain ⟨first, hfirst, rfl⟩ := hfirst
  obtain ⟨last, hlast, rfl⟩ := hlast
  exact ⟨first ++ last, List.forall_mem_append.mpr ⟨hfirst, hlast⟩, List.foldl_append⟩

theorem works_move (f : Floor) {m : Move} (h : m.isWork = true) : f.Works (f.move m) :=
  ⟨[m], List.forall_mem_singleton.mpr h, rfl⟩

theorem Works.reaches {f after : Floor} (h : f.Works after) : f.Reaches after := by
  obtain ⟨moves, _, hrun⟩ := h
  exact ⟨moves, hrun⟩

/-! ## Turns -/

/-- A turn of a task is a list of steps of it. -/
theorem works_turn (limit : Nat) {f : Floor} {number : Nat} {task : Task}
    (htask : f.tasks[number]? = some task) :
    f.Works ⟨(turn limit f.bench task).1, f.tasks.set number (turn limit f.bench task).2⟩ := by
  have hsame : f.Works ⟨f.bench, f.tasks.set number task⟩ := by
    obtain ⟨_, rfl⟩ := List.getElem?_eq_some_iff.mp htask
    rw [List.set_getElem_self]
    exact .refl f
  induction limit generalizing f task with
  | zero => exact hsame
  | succ limit ih =>
      rw [turn]
      split
      · exact hsame
      · have hstep : f.Works ⟨(task.step f.bench).1, f.tasks.set number (task.step f.bench).2⟩ :=
          act_of_getElem? htask .step ▸ f.works_move (m := .act .step number) rfl
        rcases hnext : task.step f.bench with ⟨b, next⟩
        rw [hnext] at hstep
        simp only
        split
        · exact hstep
        · have hthere : (f.tasks.set number next)[number]? = some next :=
            List.getElem?_set_self (List.getElem?_eq_some_iff.mp htask).1
          have hlater := ih (f := ⟨b, f.tasks.set number next⟩) hthere ?_
          · rw [List.set_set] at hlater
            exact hstep.trans hlater
          · rw [List.set_set]
            exact .refl _

/-- Turns of the last tasks leave the first ones alone. -/
theorem works_turns (b : Bench) (first rest : List Task) :
    Works ⟨b, first ++ rest⟩ ⟨(turns b rest).1, first ++ (turns b rest).2⟩ := by
  induction rest generalizing b first with
  | nil => exact .refl _
  | cons task rest ih =>
      have hthere : (first ++ task :: rest)[first.length]? = some task :=
        List.getElem?_append_right (Nat.le_refl _) |>.trans (by rw [Nat.sub_self]; rfl)
      have hturn := works_turn turnLimit (f := ⟨b, first ++ task :: rest⟩) hthere
      have hrest := ih (turn turnLimit b task).1 (first ++ [(turn turnLimit b task).2])
      simp only [List.append_assoc, List.singleton_append] at hrest
      simp only [List.set_append_right _ _ (Nat.le_refl _), Nat.sub_self,
        List.set_cons_zero] at hturn
      exact hturn.trans hrest

theorem works_round (f : Floor) : f.Works f.round :=
  works_turns f.bench [] f.tasks

theorem works_settleFor (limit : Nat) (f : Floor) : f.Works (settleFor limit f) := by
  induction limit generalizing f with
  | zero => exact .refl f
  | succ limit ih =>
      rw [settleFor]
      split
      · exact .refl f
      · exact f.works_round.trans (ih f.round)

theorem works_awaitUntil (inTime : Nat → Bool) (limit : Nat) (f : Floor) (number : Nat) :
    f.Works (awaitUntil inTime limit f number) := by
  induction limit generalizing f with
  | zero => exact .refl f
  | succ limit ih =>
      rw [awaitUntil]
      split
      · exact .refl f
      · split
        · split
          next due _ =>
            split
            · exact (f.works_move (m := .elapse due) rfl).trans (ih _)
            · exact .refl f
          next => exact .refl f
        · exact f.works_round.trans (ih f.round)

/-- Waiting for a task is waiting without a time that is too late. -/
theorem awaitFor_eq (limit : Nat) (f : Floor) (number : Nat) :
    awaitFor limit f number = awaitUntil (fun _ => true) limit f number := by
  induction limit generalizing f with
  | zero => rfl
  | succ limit ih => simp only [awaitFor, awaitUntil, ih, if_true]

theorem works_await (f : Floor) (number : Nat) : f.Works (f.await number) := by
  rw [await, awaitFor_eq]
  exact works_awaitUntil _ _ f number

/-! ## Checks and parses -/

/-- A task that comes has its first turn at once. -/
theorem works_add (f : Floor) (next : Bench × Task) :
    Works ⟨next.1, f.tasks ++ [next.2]⟩ (f.add next).1 := by
  have hthere : (f.tasks ++ [next.2])[f.tasks.length]? = some next.2 :=
    List.getElem?_concat_length
  have hturn := works_turn turnLimit (f := ⟨next.1, f.tasks ++ [next.2]⟩) hthere
  simp only [List.set_append_right _ _ (Nat.le_refl _), Nat.sub_self, List.set_cons_zero] at hturn
  exact hturn

theorem works_beginCheck (f : Floor) (spec : SpecFiles) (extra : List Text) :
    (f.enter spec extra).Works (f.beginCheck spec extra).1 :=
  f.works_add ((CheckRun.begin f.bench spec extra).1, .check (CheckRun.begin f.bench spec extra).2)

theorem reaches_beginCheck (f : Floor) (spec : SpecFiles) (extra : List Text) :
    f.Reaches (f.beginCheck spec extra).1 :=
  (f.reaches_move (.check spec extra)).trans (f.works_beginCheck spec extra).reaches

theorem reaches_beginParse (f : Floor) (spec : SpecFiles) : f.Reaches (f.beginParse spec).1 :=
  (f.reaches_move (.parse spec)).trans (f.works_add (f.bench, .parse (.begin spec))).reaches

theorem reaches_stop (f : Floor) : f.Reaches f.stop.1 :=
  f.reaches_move .stop

/-- Giving a task up is something that happens to it. -/
theorem cancel_eq (f : Floor) (number : Nat) : (f.cancel number).1 = f.act .cancel number := by
  rw [cancel]
  split
  next htask => rw [Floor.act, htask]
  next task htask =>
    split
    next hended => exact (act_of_result? htask (Option.isSome_iff_ne_none.mp hended) .cancel).symm
    next => exact (act_of_getElem? htask .cancel).symm

theorem reaches_cancel (f : Floor) (number : Nat) : f.Reaches (f.cancel number).1 := by
  rw [cancel_eq]
  exact f.reaches_move (.act .cancel number)

/-- A check that has entered is run to its end by turns. -/
theorem works_check (f : Floor) (spec : SpecFiles) (extra : List Text) :
    (f.enter spec extra).Works (f.check spec extra).1 :=
  (f.works_beginCheck spec extra).trans (works_await _ _)

theorem reaches_check (f : Floor) (spec : SpecFiles) (extra : List Text) :
    f.Reaches (f.check spec extra).1 :=
  (f.reaches_move (.check spec extra)).trans (f.works_check spec extra).reaches

theorem reaches_checkAgain (f : Floor) : f.Reaches f.checkAgain.1 := by
  rw [checkAgain]
  split
  next => exact .refl f
  next request _ => exact f.reaches_check request.spec request.extra

theorem reaches_parse (f : Floor) (spec : SpecFiles) : f.Reaches (f.parse spec).1 :=
  (f.reaches_beginParse spec).trans (works_await _ _).reaches

/-! ## Checks with a debugger -/

theorem works_awaitDelay (f : Floor) (number : Nat) (delay : Double) :
    f.Works (f.awaitDelay number delay) := by
  rw [awaitDelay]
  split
  · exact works_awaitUntil _ _ f number
  · exact .refl f

theorem reaches_finishActive (f : Floor) : f.Reaches f.finishActive := by
  rw [finishActive]
  split
  next process _ => exact f.reaches_move (.finish process)
  next => exact .refl f

theorem reaches_attend (f : Floor) (client : Client) : f.Reaches (f.attend client).1 := by
  cases client with
  | listens => exact .refl f
  | refuses reason => exact .refl f
  | waits deed =>
      have hsettle : f.Reaches f.settle := (works_settleFor _ f).reaches
      cases deed with
      | finishes => exact hsettle.trans (reaches_finishActive _)
      | stops => exact hsettle.trans (reaches_stop _)
      | fails reason => exact hsettle

theorem reaches_debug (f : Floor) (spec : SpecFiles) (port : Int) (delay : Double)
    (client : Client) : f.Reaches (f.debug spec port delay client).1 := by
  have hdelay := (f.reaches_beginCheck spec (debuggerArguments port)).trans
    (works_awaitDelay _ (f.beginCheck spec (debuggerArguments port)).2 delay).reaches
  rw [debug]
  simp only
  split
  next => exact hdelay
  next =>
    have hattach := hdelay.trans (reaches_move _ (.attach port))
    split
    next attended reason hattend =>
      have hattended := hattach.trans (reaches_attend _ client)
      rw [move, hattend] at hattended
      exact hattended.trans (reaches_cancel attended _)
    next attended hattend =>
      have hattended := hattach.trans (reaches_attend _ client)
      rw [move, hattend] at hattended
      exact hattended.trans (works_await attended _).reaches

/-! ## What is kept -/

/-- What every move keeps, a program keeps that works by turns. -/
theorem Kept.of_reaches {f after : Floor} (h : f.Kept) (hreaches : f.Reaches after) :
    after.Kept := by
  obtain ⟨moves, rfl⟩ := hreaches
  exact kept_run h moves

/-- So what holds after all that may happen holds after what such a program does. -/
theorem Reaches.exists_pass {f after : Floor} (h : f.Reaches after) :
    ∃ incidents, f.pass incidents = after := by
  obtain ⟨moves, rfl⟩ := h
  exact ⟨moves.map .move, List.foldl_map⟩

end Floor

end TlaRunner.Workflow
