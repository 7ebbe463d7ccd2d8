import Mathlib.Data.List.Basic
import TlaRunner.Proofs.Workflow.Moves

/-!
# Moves and notices

A supervisor may learn of the end of a process before anybody waits for the process.  Nothing
that is done on a floor tells of that, so it is something of its own: an `Incident` is a move or
such a notice, and `Floor.pass` lets a list of incidents happen.

Notices make of the bench what may become of it and leave everything else alone, so incidents
keep what moves keep (`Floor.kept_pass`).
-/

namespace TlaRunner.Workflow

open Files (Host SpecFiles)
open Supervision (Behavior Child)

namespace Bench

/-- Lets the supervisor of a process learn of its end, if it has come. -/
def notice (b : Bench) (process : Nat) : Bench :=
  b.modifyChild process Child.notice

theorem becomes_notice (b : Bench) (process : Nat) : b.Becomes (b.notice process) :=
  becomes_modifyChild fun c _ => c.becomes_notice

end Bench

/-- Something that may happen on a floor or beside it. -/
inductive Incident
  /-- Something happens on the floor. -/
  | move (m : Move)
  /-- A supervisor learns of the end of its process. -/
  | notice (process : Nat)
  deriving DecidableEq, Repr

/-- Something happens to a task, or nothing does. -/
theorem Incident.acts_or (i : Incident) (number : Nat) :
    (∃ act, i = .move (.act act number)) ∨ ∀ act, i ≠ .move (.act act number) :=
  (Classical.em _).imp_right fun h act hact => h ⟨act, hact⟩

namespace Floor

/-- Lets something happen. -/
def meet (f : Floor) : Incident → Floor
  | .move m => f.move m
  | .notice process => { f with bench := f.bench.notice process }

/-- Lets a list of things happen. -/
def pass (f : Floor) (incidents : List Incident) : Floor :=
  incidents.foldl meet f

theorem pass_append (f : Floor) (a b : List Incident) : f.pass (a ++ b) = (f.pass a).pass b :=
  List.foldl_append

theorem pass_cons (f : Floor) (i : Incident) (rest : List Incident) :
    f.pass (i :: rest) = (f.meet i).pass rest := rfl

theorem pass_concat (f : Floor) (incidents : List Incident) (i : Incident) :
    f.pass (incidents ++ [i]) = (f.pass incidents).meet i :=
  f.pass_append incidents [i]

/-- A task stays as it is unless something happens to it. -/
theorem tasks_meet {f : Floor} {number : Nat} {task : Task} (htask : f.tasks[number]? = some task)
    {i : Incident} (hother : ∀ act, i ≠ .move (.act act number)) :
    (f.meet i).tasks[number]? = some task := by
  cases i with
  | move m => exact tasks_move htask fun act hact => hother act (congrArg Incident.move hact)
  | notice process => exact htask

/-- What an incident may lead to. -/
inductive Meets (f : Floor) (i : Incident) : Floor → Prop
  /-- Something happens to a task that has not ended. -/
  | acts {act : Act} {number : Nat} {task : Task} (hact : i = .move (.act act number))
      (htask : f.tasks[number]? = some task) (hresult : task.result? = none) :
      Meets f i ⟨(task.act f.bench act).1, f.tasks.set number (task.act f.bench act).2⟩
  /-- A check is begun. -/
  | enters {spec : SpecFiles} {extra : List Text}
      (hother : ∀ act number, i ≠ .move (.act act number)) : Meets f i (f.enter spec extra)
  /-- A parse is begun. -/
  | parses {spec : SpecFiles} (hother : ∀ act number, i ≠ .move (.act act number)) :
      Meets f i ⟨f.bench, f.tasks ++ [.parse (.begin spec)]⟩
  /-- Nothing happens to tasks. -/
  | passes {b : Bench} (hkeeps : f.bench.Keeps b) (hactive : b.slot.active = f.bench.slot.active) :
      Meets f i ⟨b, f.tasks⟩

/-- Whatever happens leads to one of these. -/
theorem meets (f : Floor) (i : Incident) : f.Meets i (f.meet i) := by
  cases i with
  | notice process => exact .passes (f.bench.keeps_modifyChild process _) rfl
  | move m =>
      cases m with
      | check spec extra => exact .enters fun act number hact => by cases hact
      | again =>
          rw [meet, move]
          split
          next request _ => exact .enters fun act number hact => by cases hact
          next => exact .passes (.refl _) rfl
      | parse spec => exact .parses fun act number hact => by cases hact
      | act act number =>
          cases htask : f.tasks[number]? with
          | none =>
              rw [meet, move, Floor.act, htask]
              exact .passes (.refl _) rfl
          | some task =>
              by_cases hresult : task.result? = none
              · rw [meet, move, act_of_getElem? htask]
                exact .acts rfl htask hresult
              · rw [meet, move, act_of_result? htask hresult]
                exact .passes (.refl _) rfl
      | stop => exact .passes f.bench.keeps_stop f.bench.slot_stop.1
      | attach port => exact .passes (f.bench.keeps_tell _) rfl
      | finish process => exact .passes (f.bench.keeps_modifyChild process _) rfl
      | close process => exact .passes (f.bench.keeps_modifyChild process _) rfl
      | elapse time => exact .passes ⟨rfl, rfl, rfl⟩ rfl

/-- A task that has not had a turn yet, or was turned away. -/
def IsNew : Task → Prop
  | .check run => run.stage = .locating ∧ run.result = none ∨
      ∃ error, run.stage = .ended (.error (.busy error)) ∧ run.result = some (.error (.busy error))
  | .parse run => run.stage = .transpiling .locating

theorem isNew_begin (b : Bench) (spec : SpecFiles) (extra : List Text) :
    IsNew (.check (CheckRun.begin b spec extra).2) := by
  rw [CheckRun.begin]
  split
  next busy _ => exact Or.inr ⟨busy, rfl, rfl⟩
  next => exact Or.inl ⟨rfl, rfl⟩

/-- Where a task comes from: it was there, or it is what happened to one that had not ended, or
it is new. -/
theorem task_of_meet {f : Floor} {i : Incident} {number : Nat} {task : Task}
    (h : (f.meet i).tasks[number]? = some task) :
    f.tasks[number]? = some task ∨
    (∃ act before, i = .move (.act act number) ∧ f.tasks[number]? = some before ∧
      before.result? = none ∧ (f.meet i).bench = (before.act f.bench act).1 ∧
        task = (before.act f.bench act).2) ∨
    f.tasks[number]? = none ∧ IsNew task := by
  have hadded {last : Task} (hnew : IsNew last) (h : (f.tasks ++ [last])[number]? = some task) :
      f.tasks[number]? = some task ∨ f.tasks[number]? = none ∧ IsNew task := by
    rcases getElem?_concat_iff.mp h with hold | ⟨rfl, rfl⟩
    · exact Or.inl hold
    · exact Or.inr ⟨List.getElem?_eq_none (Nat.le_refl _), hnew⟩
  have hmeets := f.meets i
  generalize f.meet i = after at hmeets h ⊢
  cases hmeets with
  | @acts act other before hact htask hresult =>
      by_cases hsame : other = number
      · subst hsame
        rw [List.getElem?_set_self (List.getElem?_eq_some_iff.mp htask).1] at h
        exact Or.inr (Or.inl ⟨act, before, hact, htask, hresult, rfl, (Option.some.inj h).symm⟩)
      · rw [List.getElem?_set_ne hsame] at h
        exact Or.inl h
  | @enters spec extra _ => exact (hadded (isNew_begin f.bench spec extra) h).imp_right Or.inr
  | @parses spec _ =>
      have hnew : IsNew (.parse (.begin spec)) := rfl
      exact (hadded hnew h).imp_right Or.inr
  | passes _ _ => exact Or.inl h

/-- No task is lost. -/
theorem length_meet (f : Floor) (i : Incident) : f.tasks.length ≤ (f.meet i).tasks.length := by
  have hmore (task : Task) : f.tasks.length ≤ (f.tasks ++ [task]).length := by
    rw [List.length_append]
    exact Nat.le_add_right _ _
  have hmeets := f.meets i
  generalize f.meet i = after at hmeets ⊢
  cases hmeets with
  | acts _ _ _ => exact Nat.le_of_eq List.length_set.symm
  | enters _ => exact hmore _
  | parses _ => exact hmore _
  | passes _ _ => exact Nat.le_refl _

/-- Whatever happens makes of the bench what may become of it. -/
theorem Kept.becomes_meet {f : Floor} (h : f.Kept) (i : Incident) :
    f.bench.Becomes (f.meet i).bench := by
  cases i with
  | move m => exact h.becomes_move m
  | notice process => exact f.bench.becomes_notice process

/-- Whatever happens keeps what is kept. -/
theorem kept_meet {f : Floor} (h : f.Kept) (i : Incident) : (f.meet i).Kept := by
  cases i with
  | move m => exact kept_move h m
  | notice process => exact h.of_bench (f.bench.becomes_notice process) rfl rfl

theorem kept_pass {f : Floor} (h : f.Kept) (incidents : List Incident) :
    (f.pass incidents).Kept := by
  induction incidents generalizing f with
  | nil => exact h
  | cons i rest ih => exact ih (kept_meet h i)

theorem Kept.becomes_pass {f : Floor} (h : f.Kept) (incidents : List Incident) :
    f.bench.Becomes (f.pass incidents).bench := by
  induction incidents generalizing f with
  | nil => exact .refl _
  | cons i rest ih => exact (h.becomes_meet i).trans (ih (kept_meet h i))

/-- Whether something was so when one of a list of incidents happened. -/
def Occurs (first : Floor) (what : Floor → Incident → Prop) (incidents : List Incident) : Prop :=
  ∃ before i rest, incidents = before ++ i :: rest ∧ what (first.pass before) i

theorem not_occurs_nil (first : Floor) (what : Floor → Incident → Prop) :
    ¬first.Occurs what [] := by
  rintro ⟨before, i, rest, hsplit, _⟩
  cases before with
  | nil => cases hsplit
  | cons x before => cases hsplit

/-- It was so before the last incident or when that happened. -/
theorem occurs_concat (first : Floor) (what : Floor → Incident → Prop)
    {incidents : List Incident} {i : Incident} :
    first.Occurs what (incidents ++ [i]) ↔
      first.Occurs what incidents ∨ what (first.pass incidents) i := by
  constructor
  · rintro ⟨before, x, rest, hsplit, hwhat⟩
    rcases List.eq_nil_or_concat' rest with rfl | ⟨rest, y, rfl⟩
    · obtain ⟨rfl, hlast⟩ := List.append_inj' hsplit rfl
      cases hlast
      exact Or.inr hwhat
    · rw [← List.cons_append, ← List.append_assoc] at hsplit
      obtain ⟨rfl, _⟩ := List.append_inj' hsplit rfl
      exact Or.inl ⟨before, x, rest, rfl, hwhat⟩
  · rintro (⟨before, x, rest, rfl, hwhat⟩ | hwhat)
    · exact ⟨before, x, rest ++ [i], by rw [List.append_assoc]; rfl, hwhat⟩
    · exact ⟨incidents, i, [], rfl, hwhat⟩

end Floor

end TlaRunner.Workflow
