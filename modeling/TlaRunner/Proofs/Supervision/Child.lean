import TlaRunner.Supervision.Child

/-!
# What becomes of a process

Whatever is done to a process, one that has ended stays ended, one that was asked to end
stays so, and what its supervisor knows of its end stays true and is not forgotten:
`Child.Becomes`.  Interrupts are counted by whether one was asked for (`Child.Sound`), so
there is one at most, and none any more once the end is known.
-/

namespace TlaRunner.Supervision.Child

/-- What the supervisor has noted of a process is so. -/
structure Sound (c : Child) : Prop where
  /-- The end that it knows of has come. -/
  known : ∀ status, c.known = some status → c.ended = some status
  /-- An interrupt was sent if one was asked for, and no other. -/
  tally : c.interrupts = if c.signaled then 1 else 0

/-- What may become of a process. -/
structure Becomes (c after : Child) : Prop where
  /-- Its end is final. -/
  ended : ∀ status, c.ended = some status → after.ended = some status
  /-- So is that it was asked to end. -/
  signaled : c.signaled = true → after.signaled = true
  /-- Nothing untrue is noted. -/
  sound : c.Sound → after.Sound
  /-- Its end is known for good. -/
  known : after.known = none → c.known = none
  /-- It is not asked to end any more once its end is known. -/
  asked : after.signaled = true → c.signaled = true ∨ c.known = none

theorem Becomes.refl (c : Child) : c.Becomes c :=
  ⟨fun _ h => h, fun h => h, fun h => h, fun h => h, Or.inl⟩

theorem Becomes.trans {c middle after : Child} (hfirst : c.Becomes middle)
    (hlast : middle.Becomes after) : c.Becomes after := by
  refine ⟨fun status h => hlast.ended status (hfirst.ended status h),
    fun h => hlast.signaled (hfirst.signaled h), fun h => hlast.sound (hfirst.sound h),
    fun h => hfirst.known (hlast.known h), fun h => ?_⟩
  rcases hlast.asked h with hmiddle | hunknown
  · exact hfirst.asked hmiddle
  · exact Or.inr (hfirst.known hunknown)

/-- A process whose end is known is interrupted no more. -/
theorem Becomes.interrupts {c after : Child} (h : c.Becomes after) (hsound : c.Sound)
    (hknown : c.known ≠ none) : after.interrupts = c.interrupts := by
  have hsignaled : after.signaled = c.signaled := by
    cases hbefore : c.signaled with
    | true => exact h.signaled hbefore
    | false =>
        refine Bool.eq_false_iff.mpr fun hafter => ?_
        rcases h.asked hafter with hbefore' | hunknown
        · rw [hbefore] at hbefore'
          cases hbefore'
        · exact hknown hunknown
  rw [(h.sound hsound).tally, hsound.tally, hsignaled]

theorem sound_start (program : Program) : (start program).Sound :=
  ⟨fun status h => (by cases h), rfl⟩

theorem becomes_endWith (c : Child) (status : Int) : c.Becomes (c.endWith status) := by
  have hended : ∀ s, c.ended = some s → (c.endWith status).ended = some s := by
    intro s h
    rw [endWith, h, Option.getD_some]
  exact ⟨hended, fun h => h, fun hsound => ⟨fun s hs => hended s (hsound.known s hs), hsound.tally⟩,
    fun h => h, Or.inl⟩

theorem becomes_finish (c : Child) : c.Becomes c.finish :=
  c.becomes_endWith c.program.status

theorem becomes_close (c : Child) : c.Becomes c.close :=
  ⟨fun _ h => h, fun h => h, fun h => ⟨h.known, h.tally⟩, fun h => h, Or.inl⟩

/-- Reading its output makes no difference to a process. -/
theorem becomes_unread (c : Child) (unread : Bytes) : c.Becomes { c with unread } :=
  ⟨fun _ h => h, fun h => h, fun h => ⟨h.known, h.tally⟩, fun h => h, Or.inl⟩

/-- An interrupt may end a process, and is counted. -/
theorem interrupt_spec (c : Child) :
    (∀ status, c.ended = some status → c.interrupt.ended = some status) ∧
      c.interrupt.known = c.known ∧ c.interrupt.interrupts = c.interrupts + 1 := by
  rw [interrupt]
  split
  · exact ⟨fun _ h => h, rfl, rfl⟩
  · exact ⟨(c.becomes_endWith _).ended, rfl, rfl⟩

theorem becomes_cancel (c : Child) : c.Becomes c.cancel := by
  rw [cancel]
  split
  next => exact .refl c
  next hdone =>
    obtain ⟨hsignaled, hnone⟩ := Bool.or_eq_false_iff.mp (Bool.eq_false_iff.mpr hdone)
    have hknown : c.known = none :=
      Option.isNone_iff_eq_none.mp (Option.isSome_eq_false_iff.mp hnone)
    obtain ⟨hended, hsame, hcount⟩ := c.interrupt_spec
    refine ⟨hended, fun _ => rfl, fun hsound => ⟨fun status hstatus => ?_, ?_⟩, fun _ => hknown,
      fun _ => Or.inr hknown⟩
    · exact hended status (hsound.known status (hsame ▸ hstatus))
    · change c.interrupt.interrupts = 1
      rw [hcount, hsound.tally, hsignaled]
      rfl

/-- A process is asked to end, unless it is known to have ended. -/
theorem signaled_cancel {c : Child} (h : c.known = none) : c.cancel.signaled = true := by
  rw [cancel]
  split
  next hdone =>
    rw [h, Option.isSome_none, Bool.or_false] at hdone
    exact hdone
  next => rfl

/-- Whoever waited for a process knows its end, which was there. -/
theorem becomes_of_wait? {c waited : Child} {exit : Exit} (h : c.wait? = some (exit, waited)) :
    c.Becomes waited ∧ c.isRunning = false := by
  obtain ⟨status, hended, heq⟩ := Option.map_eq_some_iff.mp h
  obtain ⟨_, rfl⟩ := Prod.mk.inj heq
  refine ⟨⟨fun _ h => h, fun h => h, fun hsound => ⟨fun s hs => ?_, hsound.tally⟩,
    fun h => (by cases h), Or.inl⟩, ?_⟩
  · cases hs
    exact hended
  · rw [isRunning, hended, Option.isNone_some]

/-- Lets the supervisor learn of the end of a process, if it has come. -/
def notice (c : Child) : Child :=
  { c with known := c.known.or c.ended }

theorem becomes_notice (c : Child) : c.Becomes c.notice := by
  refine ⟨fun _ h => h, fun h => h, fun hsound => ⟨fun status hstatus => ?_, hsound.tally⟩,
    fun h => (Option.or_eq_none_iff.mp h).1, Or.inl⟩
  rcases Option.or_eq_some_iff.mp hstatus with hknown | ⟨_, hended⟩
  · exact hsound.known status hknown
  · exact hended

/-- The pieces of an output make the output. -/
theorem flatten_pieces {size : Nat} (hsize : 0 < size) {fuel : Nat} {bytes : Bytes}
    (h : bytes.length ≤ fuel) : (pieces size fuel bytes).flatten = bytes := by
  induction fuel generalizing bytes with
  | zero => exact (List.eq_nil_of_length_eq_zero (Nat.le_zero.mp h)).symm
  | succ fuel ih =>
      cases bytes with
      | nil => rfl
      | cons byte rest =>
          have hshorter : ((byte :: rest).drop size).length ≤ fuel := by
            rw [List.length_drop]
            omega
          rw [pieces, List.isEmpty_cons, if_neg Bool.false_ne_true, List.flatten_cons, ih hshorter,
            List.take_append_drop]

end TlaRunner.Supervision.Child
