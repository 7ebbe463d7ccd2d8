import TlaRunner.Proofs.Supervision.Child

/-!
# Interrupts that come too late

A supervisor asks a process to end, waits for it and learns of its end in any order, and the
process may end by itself in between.  A `Watch` keeps what became of the interrupts that were
attempted and what the waits were answered.

One interrupt is attempted at most, and none once the end is known, so all waits are answered
alike (`Watch.Sound`).  The flag tells that an interrupt was attempted.  That it was delivered is
the same thing exactly if no attempt found the process gone (`Watch.truthful_iff`).
-/

namespace TlaRunner.Supervision

/-- Something that happens to a process or is asked of its supervisor. -/
inductive Turn
  /-- The supervisor is asked to end the process. -/
  | cancel
  /-- A wait is answered, if the process has ended; else it goes on. -/
  | wait
  /-- The process ends by itself. -/
  | finish
  /-- The supervisor learns of the end, if it has come. -/
  | notice
  deriving DecidableEq, Repr

/-- What became of an interrupt. -/
inductive Attempt
  /-- It was delivered to the process. -/
  | delivered
  /-- It found the process gone. -/
  | missed
  deriving DecidableEq, Repr

/-- What becomes of the interrupt when a process is asked to end, if one is sent. -/
def Child.attempt? (c : Child) : Option Attempt :=
  if c.cancel.interrupts = c.interrupts then none
  else if c.isRunning && !c.program.gone then some .delivered
  else some .missed

/-- A process with what was attempted and answered. -/
structure Watch where
  /-- The process and what its supervisor knows. -/
  child : Child
  /-- What became of the interrupts, in order. -/
  attempts : List Attempt
  /-- What the waits were answered, in order. -/
  exits : List Exit
  deriving DecidableEq, Repr

namespace Watch

/-- The watch after a turn. -/
def turn (w : Watch) : Turn → Watch
  | .cancel => ⟨w.child.cancel, w.attempts ++ w.child.attempt?.toList, w.exits⟩
  | .wait =>
    match w.child.wait? with
    | some (exit, child) => ⟨child, w.attempts, w.exits ++ [exit]⟩
    | none => w
  | .finish => { w with child := w.child.finish }
  | .notice => { w with child := w.child.notice }

/-- The watch of a program after a list of turns. -/
def after (program : Program) (turns : List Turn) : Watch :=
  turns.foldl turn ⟨.start program, [], []⟩

/-- Whether all that is told of an interrupt is true: the flags say that one was delivered, and
a process that ended badly without one counts as a failure. -/
structure Truthful (w : Watch) : Prop where
  /-- The supervisor's own flag. -/
  signaled : w.child.signaled = true ↔ .delivered ∈ w.attempts
  /-- The flag that a wait is answered. -/
  cancelled : ∀ exit ∈ w.exits, exit.cancelled = true ↔ .delivered ∈ w.attempts
  /-- The failure of a process that was not interrupted. -/
  failure : ∀ exit ∈ w.exits, (exit.status < 0 ∨ 9 < exit.status) → .delivered ∉ w.attempts →
    ∀ tool, exit.failure? tool = some ⟨tool, exit.status, exit.errors⟩

/-! ## What every turn keeps -/

/-- What a watch keeps in every turn. -/
structure Sound (w : Watch) : Prop where
  /-- The supervisor has noted nothing untrue. -/
  child : w.child.Sound
  /-- What became of every interrupt is known. -/
  attempts : w.attempts.length = w.child.interrupts
  /-- A wait was answered with what is known of the end and of interrupts now. -/
  exits : ∀ exit ∈ w.exits, ∃ status, w.child.known = some status ∧ exit = w.child.exit status

theorem sound_start (program : Program) : Sound ⟨.start program, [], []⟩ :=
  ⟨Child.sound_start program, rfl, fun _ h => (List.not_mem_nil h).elim⟩

variable {w : Watch}

/-- An interrupt is sent once, and then it is known what became of it. -/
theorem length_attempt? (c : Child) :
    c.cancel.interrupts = c.interrupts + c.attempt?.toList.length := by
  have hcount : c.cancel.interrupts = c.interrupts ∨
      c.cancel.interrupts = c.interrupts + 1 := by
    rw [Child.cancel]
    split
    next => exact Or.inl rfl
    next => exact Or.inr c.interrupt_spec.2.2
  rw [Child.attempt?]
  rcases hcount with hsame | hmore
  · rw [if_pos hsame]
    exact hsame
  · rw [if_neg (by omega), hmore]
    split
    · rfl
    · rfl

/-- Nothing is sent to a process whose end is known. -/
theorem cancel_of_known {c : Child} {status : Int} (h : c.known = some status) :
    c.cancel = c := by
  rw [Child.cancel, if_pos (by rw [h, Option.isSome_some, Bool.or_true])]

theorem Sound.cancel (h : w.Sound) : (w.turn .cancel).Sound := by
  refine ⟨(w.child.becomes_cancel).sound h.child, ?_, fun exit hexit => ?_⟩
  · rw [turn, List.length_append, h.attempts]
    exact (length_attempt? w.child).symm
  · obtain ⟨status, hknown, hexit⟩ := h.exits exit hexit
    rw [turn, cancel_of_known hknown]
    exact ⟨status, hknown, hexit⟩

theorem Sound.wait (h : w.Sound) : (w.turn .wait).Sound := by
  rw [turn]
  split
  next exit child hwait =>
    have hsound := (Child.becomes_of_wait? hwait).1.sound h.child
    obtain ⟨status, hended, heq⟩ := Option.map_eq_some_iff.mp hwait
    obtain ⟨rfl, rfl⟩ := Prod.mk.inj heq
    refine ⟨hsound, h.attempts, List.forall_mem_append.mpr ⟨fun exit hexit => ?_, ?_⟩⟩
    · obtain ⟨before, hknown, rfl⟩ := h.exits exit hexit
      -- What was known before is the status that the process ended with.
      obtain rfl := Option.some.inj (hended.symm.trans (h.child.known before hknown))
      exact ⟨status, rfl, rfl⟩
    · exact List.forall_mem_singleton.mpr ⟨status, rfl, rfl⟩
  next => exact h

theorem Sound.finish (h : w.Sound) : (w.turn .finish).Sound :=
  ⟨w.child.becomes_finish.sound h.child, h.attempts, h.exits⟩

theorem Sound.notice (h : w.Sound) : (w.turn .notice).Sound := by
  refine ⟨w.child.becomes_notice.sound h.child, h.attempts, fun exit hexit => ?_⟩
  obtain ⟨status, hknown, hexit⟩ := h.exits exit hexit
  exact ⟨status, by rw [turn, Child.notice, hknown, Option.some_or], hexit⟩

theorem Sound.turn (h : w.Sound) (t : Turn) : (w.turn t).Sound := by
  cases t with
  | cancel => exact h.cancel
  | wait => exact h.wait
  | finish => exact h.finish
  | notice => exact h.notice

theorem sound_after (program : Program) (turns : List Turn) : (after program turns).Sound := by
  suffices hfrom : ∀ w : Watch, w.Sound → (turns.foldl Watch.turn w).Sound from
    hfrom _ (sound_start program)
  induction turns with
  | nil => exact fun _ h => h
  | cons t turns ih => exact fun w h => ih (w.turn t) (h.turn t)

/-! ## What the flags tell -/

/-- One interrupt is attempted at most, and the flag tells of it. -/
theorem Sound.attempts_cases (h : w.Sound) :
    w.attempts = [] ∧ w.child.signaled = false ∨
      ∃ attempt, w.attempts = [attempt] ∧ w.child.signaled = true := by
  have hlength := h.attempts
  rw [h.child.tally] at hlength
  cases hsignaled : w.child.signaled with
  | false =>
      rw [hsignaled] at hlength
      exact Or.inl ⟨List.eq_nil_of_length_eq_zero hlength, rfl⟩
  | true =>
      rw [hsignaled] at hlength
      obtain ⟨attempt, hone⟩ := List.length_eq_one_iff.mp hlength
      exact Or.inr ⟨attempt, hone, rfl⟩

/-- The flag that a wait was answered is the supervisor's own. -/
theorem Sound.cancelled_eq (h : w.Sound) {exit : Exit} (hexit : exit ∈ w.exits) :
    exit.cancelled = w.child.signaled := by
  obtain ⟨status, _, rfl⟩ := h.exits exit hexit
  rfl

/-- All waits are answered alike. -/
theorem Sound.exits_eq (h : w.Sound) {exit other : Exit} (hexit : exit ∈ w.exits)
    (hother : other ∈ w.exits) : exit = other := by
  obtain ⟨status, hknown, rfl⟩ := h.exits exit hexit
  obtain ⟨status', hknown', rfl⟩ := h.exits other hother
  rw [Option.some.inj (hknown.symm.trans hknown')]

end Watch

/-- A process that was not asked to end has failed if its status is no small number. -/
theorem Exit.failure?_of_status {exit : Exit} (hcancelled : exit.cancelled = false)
    (hstatus : exit.status < 0 ∨ 9 < exit.status) (tool : Text) :
    exit.failure? tool = some ⟨tool, exit.status, exit.errors⟩ := by
  have hcategory : exit.category = .toolingFailure := by
    rw [Exit.category, ExitCategory.ofStatus, ExitCategory.leastFailure, if_neg (by omega),
      if_neg (by omega)]
  rw [Exit.failure?, hcancelled, if_neg Bool.false_ne_true, hcategory]

/-- A process that was asked to end has not failed. -/
theorem Exit.failure?_of_cancelled {exit : Exit} (h : exit.cancelled = true) (tool : Text) :
    exit.failure? tool = none := by
  rw [Exit.failure?, if_pos h]

namespace Watch

/-- In any order of turns, the flags and failures are true to what was delivered exactly if no
interrupt came too late, and all waits are answered alike, with the process's own status and the
supervisor's flag.  An interrupt that comes too late is the only one, it counts as delivered all
the same, and then nothing is a failure. -/
theorem truthful_iff (program : Program) (turns : List Turn) :
    let w := after program turns
    (w.Truthful ↔ .missed ∉ w.attempts) ∧
      (∀ exit ∈ w.exits, ∀ other ∈ w.exits, exit = other) ∧
      (∀ exit ∈ w.exits, w.child.ended = some exit.status ∧
        exit.cancelled = w.child.signaled) ∧
      (.missed ∈ w.attempts → w.attempts = [.missed] ∧ w.child.signaled = true ∧
        ∀ exit ∈ w.exits, ∀ tool, exit.failure? tool = none) := by
  intro w
  have h : w.Sound := sound_after program turns
  refine ⟨⟨fun htrue hmissed => ?_, fun hmissed => ?_⟩, fun exit hexit other hother =>
    h.exits_eq hexit hother, fun exit hexit => ⟨?_, h.cancelled_eq hexit⟩, fun hmissed => ?_⟩
  · rcases h.attempts_cases with ⟨hnone, _⟩ | ⟨attempt, hone, hsignaled⟩
    · rw [hnone] at hmissed
      cases hmissed
    · have hdelivered := htrue.signaled.mp hsignaled
      rw [hone, List.mem_singleton] at hmissed hdelivered
      rw [← hmissed] at hdelivered
      cases hdelivered
  · have hflag : w.child.signaled = true ↔ .delivered ∈ w.attempts := by
      rcases h.attempts_cases with ⟨hnone, hsignaled⟩ | ⟨attempt, hone, hsignaled⟩
      · simp [hnone, hsignaled]
      · cases attempt with
        | delivered => simp [hone, hsignaled]
        | missed => exact absurd (by rw [hone]; exact List.mem_cons_self) hmissed
    refine ⟨hflag, fun exit hexit => ?_, fun exit hexit hstatus hdelivered tool => ?_⟩
    · rw [h.cancelled_eq hexit]
      exact hflag
    · refine Exit.failure?_of_status ?_ hstatus tool
      rw [h.cancelled_eq hexit]
      exact Bool.eq_false_iff.mpr (mt hflag.mp hdelivered)
  · obtain ⟨status, hknown, rfl⟩ := h.exits exit hexit
    exact h.child.known status hknown
  · rcases h.attempts_cases with ⟨hnone, _⟩ | ⟨attempt, hone, hsignaled⟩
    · rw [hnone] at hmissed
      cases hmissed
    · obtain rfl := List.mem_singleton.mp (hone ▸ hmissed)
      refine ⟨hone, hsignaled, fun exit hexit tool => Exit.failure?_of_cancelled ?_ tool⟩
      rw [h.cancelled_eq hexit, hsignaled]

/-- A process that ends badly by itself just before the interrupt counts as interrupted, and not
as a failure. -/
theorem not_truthful_of_late :
    let program : Program := ⟨some [], some [], 12, .onRequest, -2, true⟩
    let w := after program [.cancel, .wait]
    w.child.signaled = true ∧ .delivered ∉ w.attempts ∧ w.exits = [⟨12, [], true⟩] ∧
      (⟨12, [], true⟩ : Exit).failure? "TLC".toList = none ∧ ¬w.Truthful := by
  refine ⟨by decide, by decide, by decide, by decide, fun h => ?_⟩
  exact absurd (h.signaled.mp (by decide)) (by decide)

end Watch

end TlaRunner.Supervision
