import TlaRunner.Proofs.Supervision.Child
import TlaRunner.Workflow.Bench

/-!
# What becomes of a bench

The processes of a bench are never forgotten, and each of them becomes what a process may
become: `Bench.Becomes`.  So a process that has ended (`Bench.Exited`) has ended for good.

Of the check slot two things matter here: who holds it, and which process belongs to which
ticket (`Slot.processes`).
-/

namespace TlaRunner.Workflow

open Supervision (Behavior Child)

/-- The entries of a list with one more at its end. -/
theorem getElem?_concat_iff {α : Type} {l : List α} {last x : α} {i : Nat} :
    (l ++ [last])[i]? = some x ↔ l[i]? = some x ∨ i = l.length ∧ last = x := by
  rw [List.getElem?_append]
  split
  next hlength =>
    exact ⟨Or.inl, fun h => h.resolve_right fun hlast => absurd hlast.1 (Nat.ne_of_lt hlength)⟩
  next hlength =>
    rw [List.getElem?_eq_none (Nat.le_of_not_lt hlength), List.getElem?_singleton]
    constructor
    · intro h
      split at h
      next hzero => exact Or.inr ⟨by omega, Option.some.inj h⟩
      next => cases h
    · rintro (h | ⟨rfl, rfl⟩)
      · cases h
      · rw [Nat.sub_self, if_pos rfl]

/-- An entry that the list itself has not is the one at its end. -/
theorem eq_of_getElem?_concat {α : Type} {l : List α} {last x : α} {i : Nat} (hnone : l[i]? = none)
    (h : (l ++ [last])[i]? = some x) : last = x := by
  rcases getElem?_concat_iff.mp h with hold | ⟨_, hsame⟩
  · rw [hnone] at hold
    cases hold
  · exact hsame

/-! ## The slot -/

namespace Slot

/-- The processes of the tickets, by number. -/
def processes (s : Slot) : List (Option Nat) :=
  s.tickets.map (·.process)

theorem processes_attach (s : Slot) (ticket process : Nat) :
    (s.attach ticket process).1.processes = s.processes.set ticket (some process) := by
  refine List.ext_getElem? fun i => ?_
  simp only [processes, attach, List.getElem?_map, List.getElem?_modify, List.getElem?_set,
    List.length_map]
  by_cases hi : ticket = i
  · subst hi
    by_cases hlength : ticket < s.tickets.length
    · simp [hlength]
    · simp [hlength]
  · simp [hi]

theorem processes_cancel (s : Slot) (ticket : Nat) :
    (s.cancel ticket).1.processes = s.processes := by
  refine List.ext_getElem? fun i => ?_
  simp only [processes, cancel, List.getElem?_map, List.getElem?_modify, Option.map_eq_map,
    Option.map_map]
  congr 1
  funext t
  by_cases hi : ticket = i
  · simp [hi]
  · simp [hi]

theorem processes_release (s : Slot) (ticket : Nat) :
    (s.release ticket).processes = s.processes := by
  rw [release]
  split
  · rfl
  · rfl

/-- Whether a stop was asked for on a ticket. -/
def asked (s : Slot) (ticket : Nat) : Bool :=
  s.tickets[ticket]?.any (·.stopRequested)

theorem asked_attach (s : Slot) (ticket process other : Nat) :
    (s.attach ticket process).1.asked other = s.asked other := by
  rw [asked, asked, attach, List.getElem?_modify]
  cases s.tickets[other]? with
  | none => rfl
  | some stay =>
      by_cases hother : ticket = other
      · simp [hother]
      · simp [hother]

theorem asked_cancel (s : Slot) (ticket other : Nat) :
    (s.cancel ticket).1.asked other =
      (s.asked other || (ticket == other && s.tickets[other]?.isSome)) := by
  rw [asked, asked, cancel, List.getElem?_modify]
  cases s.tickets[other]? with
  | none => simp
  | some stay =>
      by_cases hother : ticket = other
      · simp [hother]
      · simp [hother]

theorem asked_release (s : Slot) (ticket other : Nat) :
    (s.release ticket).asked other = s.asked other := by
  rw [release]
  split
  · rfl
  · rfl

/-- Who is to be interrupted when a process is attached is said by the ticket. -/
theorem attach_eq (s : Slot) (ticket process : Nat) :
    (s.attach ticket process).2 = s.asked ticket := by
  rw [attach, asked]
  cases s.tickets[ticket]? with
  | none => rfl
  | some stay => rfl

/-- The process of the check in the slot is that of its ticket. -/
theorem process_activeTicket {s : Slot} {ticket : Nat} (h : s.active = some ticket) :
    s.activeTicket.bind (·.process) = s.processes[ticket]?.join := by
  rw [activeTicket, h, Option.bind_some, processes, List.getElem?_map]
  cases s.tickets[ticket]? with
  | none => rfl
  | some stay => rfl

/-- Nobody asked for a stop on a new ticket. -/
theorem asked_append (s : Slot) (request : Request) (active : Option Nat) (last : Option Request)
    (ticket : Nat) :
    (⟨s.tickets ++ [⟨request, none, false⟩], active, last⟩ : Slot).asked ticket =
      s.asked ticket := by
  rw [asked, asked, List.getElem?_append]
  split
  next => rfl
  next hlength =>
    rw [List.getElem?_singleton, List.getElem?_eq_none (Nat.le_of_not_lt hlength)]
    split
    · rfl
    · rfl

end Slot

namespace Bench

/-! ## Processes -/

/-- What is known of the ends of processes is so. -/
def Sound (b : Bench) : Prop :=
  ∀ process c, b.child? process = some c → c.Sound

/-- What may become of a bench. -/
structure Becomes (b after : Bench) : Prop where
  /-- Its processes are still there. -/
  child : ∀ process c, b.child? process = some c →
    ∃ c', after.child? process = some c' ∧ c.Becomes c'
  /-- Nothing untrue is learned of their ends. -/
  sound : b.Sound → after.Sound

theorem Becomes.trans {b middle after : Bench} (hfirst : b.Becomes middle)
    (hlast : middle.Becomes after) : b.Becomes after := by
  refine ⟨fun process c hc => ?_, fun h => hlast.sound (hfirst.sound h)⟩
  obtain ⟨c', hc', hbecomes⟩ := hfirst.child process c hc
  obtain ⟨c'', hc'', hlater⟩ := hlast.child process c' hc'
  exact ⟨c'', hc'', hbecomes.trans hlater⟩

theorem Becomes.isSome {b after : Bench} (h : b.Becomes after) {process : Nat}
    (hthere : (b.child? process).isSome = true) : (after.child? process).isSome = true := by
  obtain ⟨c, hc⟩ := Option.isSome_iff_exists.mp hthere
  obtain ⟨c', hc', _⟩ := h.child process c hc
  exact Option.isSome_iff_exists.mpr ⟨c', hc'⟩

theorem child?_of_calls {b after : Bench} (h : after.calls = b.calls) (process : Nat) :
    after.child? process = b.child? process := by
  rw [child?, child?, h]

/-- What leaves the commands alone leaves the processes alone. -/
theorem becomes_of_calls {b after : Bench} (h : after.calls = b.calls) : b.Becomes after := by
  refine ⟨fun process c hc => ⟨c, (child?_of_calls h process).trans hc, .refl c⟩,
    fun hsound process c hc => ?_⟩
  exact hsound process c ((child?_of_calls h process).symm.trans hc)

theorem Becomes.refl (b : Bench) : b.Becomes b := becomes_of_calls rfl

/-- What changes processes one by one changes a bench. -/
theorem becomes_of_children {b after : Bench}
    (h : ∀ process, ∃ f : Child → Child, after.child? process = (b.child? process).map f ∧
      ∀ c, b.child? process = some c → c.Becomes (f c)) : b.Becomes after := by
  refine ⟨fun process c hc => ?_, fun hsound process c' hc' => ?_⟩
  · obtain ⟨f, hafter, hf⟩ := h process
    exact ⟨f c, by rw [hafter, hc, Option.map_some], hf c hc⟩
  · obtain ⟨f, hafter, hf⟩ := h process
    obtain ⟨c, hc, rfl⟩ := Option.map_eq_some_iff.mp (hafter ▸ hc')
    exact (hf c hc).sound (hsound process c hc)

theorem child?_modifyChild (b : Bench) (process : Nat) (f : Child → Child) (other : Nat) :
    (b.modifyChild process f).child? other =
      (b.child? other).map (if process = other then f else id) := by
  simp only [child?, modifyChild, List.getElem?_modify]
  cases b.calls[other]? with
  | none => rfl
  | some call =>
      by_cases hother : process = other
      · simp [hother]
      · simp [hother]

theorem becomes_modifyChild {b : Bench} {process : Nat} {f : Child → Child}
    (h : ∀ c, b.child? process = some c → c.Becomes (f c)) :
    b.Becomes (b.modifyChild process f) := by
  refine becomes_of_children fun other => ⟨_, b.child?_modifyChild process f other, fun c hc => ?_⟩
  split
  next heq =>
    subst heq
    exact h c hc
  next => exact .refl c

theorem becomes_interrupt (b : Bench) (process : Nat) : b.Becomes (b.interrupt process) :=
  becomes_modifyChild fun c _ => c.becomes_cancel

theorem becomes_finish (b : Bench) (process : Nat) : b.Becomes (b.finish process) :=
  becomes_modifyChild fun c _ => c.becomes_finish

theorem becomes_closeOutput (b : Bench) (process : Nat) : b.Becomes (b.closeOutput process) :=
  becomes_modifyChild fun c _ => c.becomes_close

/-- Time ends some processes and leaves the others alone. -/
theorem becomes_elapse (b : Bench) (time : Nat) : b.Becomes (b.elapse time) := by
  refine becomes_of_children fun process => ?_
  simp only [child?, elapse, List.getElem?_map]
  cases b.calls[process]? with
  | none => exact ⟨id, rfl, fun c hc => by cases hc⟩
  | some call =>
      obtain ⟨command, directory, child, due⟩ := call
      cases due with
      | none => exact ⟨id, by simp, fun c _ => .refl c⟩
      | some due =>
          by_cases hdue : due ≤ time
          · exact ⟨Child.finish, by simp [hdue], fun c _ => c.becomes_finish⟩
          · exact ⟨id, by simp [hdue], fun c _ => .refl c⟩

/-- A command that is started or refused comes behind the others. -/
theorem becomes_append {b : Bench} {after : Bench} {call : Call}
    (h : after.calls = b.calls ++ [call]) (hcall : ∀ c ∈ call.child, c.Sound) :
    b.Becomes after := by
  have hchild {process : Nat} (hlength : process < b.calls.length) :
      after.child? process = b.child? process := by
    rw [child?, h, List.getElem?_append_left hlength, child?]
  refine ⟨fun process c hc => ⟨c, ?_, .refl c⟩, fun hsound process c hc => ?_⟩
  · obtain ⟨call, hcall, _⟩ := Option.bind_eq_some_iff.mp hc
    rw [hchild (List.getElem?_eq_some_iff.mp hcall).1, hc]
  · by_cases hlength : process < b.calls.length
    · exact hsound process c (hchild hlength ▸ hc)
    · rw [child?, h, List.getElem?_append_right (Nat.le_of_not_lt hlength)] at hc
      obtain ⟨last, hlast, hc⟩ := Option.bind_eq_some_iff.mp hc
      rw [List.mem_singleton.mp (List.mem_of_getElem? hlast)] at hc
      exact hcall c hc

/-- A command that is refused has no process. -/
theorem start_error {b after : Bench} {behavior : Behavior} {executable : Text}
    {arguments : List Text} {directory : Option Path} {failure : Supervision.StartFailure}
    (h : b.start behavior executable arguments directory = (after, .error failure)) :
    b.Becomes after ∧ after.slot = b.slot ∧ after.child? b.calls.length = none := by
  cases behavior with
  | refused reason =>
      obtain ⟨rfl, _⟩ := Prod.mk.inj h
      refine ⟨becomes_append rfl fun c hc => ?_, rfl, by simp [child?]⟩
      cases hc
  | runs program => cases h

/-- A command that is started has the next process. -/
theorem start_ok {b after : Bench} {behavior : Behavior} {executable : Text}
    {arguments : List Text} {directory : Option Path} {process : Nat}
    (h : b.start behavior executable arguments directory = (after, .ok process)) :
    b.Becomes after ∧ after.slot = b.slot ∧ process = b.calls.length ∧
      (after.child? process).isSome = true := by
  cases behavior with
  | refused reason => cases h
  | runs program =>
      obtain ⟨rfl, hprocess⟩ := Prod.mk.inj h
      cases hprocess
      refine ⟨becomes_append rfl fun c hc => ?_, rfl, rfl, by simp [child?]⟩
      obtain rfl := Option.some.inj hc
      exact Child.sound_start program

theorem becomes_behaviors (b : Bench) (behaviors : List Behavior) :
    b.Becomes { b with behaviors } :=
  becomes_of_calls rfl

theorem startTool_error {b after : Bench} {executable : Path} {arguments : List Text}
    {directory : Path} {failure : Supervision.StartFailure}
    (h : b.startTool executable arguments directory = (after, .error failure)) :
    b.Becomes after ∧ after.slot = b.slot ∧ after.child? b.calls.length = none := by
  obtain ⟨hbecomes, hslot, hnone⟩ := start_error h
  exact ⟨(b.becomes_behaviors _).trans hbecomes, hslot, hnone⟩

theorem startTool_ok {b after : Bench} {executable : Path} {arguments : List Text}
    {directory : Path} {process : Nat}
    (h : b.startTool executable arguments directory = (after, .ok process)) :
    b.Becomes after ∧ after.slot = b.slot ∧ process = b.calls.length ∧
      (after.child? process).isSome = true := by
  obtain ⟨hbecomes, hslot, hprocess⟩ := start_ok h
  exact ⟨(b.becomes_behaviors _).trans hbecomes, hslot, hprocess⟩

/-- The next process is not there yet. -/
theorem child?_length (b : Bench) : b.child? b.calls.length = none := by
  rw [child?, List.getElem?_eq_none (Nat.le_refl _), Option.bind_none]

/-! ## Ends of processes -/

/-- A process that has ended. -/
def Exited (b : Bench) (process : Nat) : Prop :=
  ∃ c, b.child? process = some c ∧ c.isRunning = false

/-- A process that was asked to end. -/
def Signaled (b : Bench) (process : Nat) : Prop :=
  ∃ c, b.child? process = some c ∧ c.signaled = true

theorem Becomes.exited {b after : Bench} (h : b.Becomes after) {process : Nat}
    (hexited : b.Exited process) : after.Exited process := by
  obtain ⟨c, hc, hended⟩ := hexited
  obtain ⟨c', hc', hbecomes⟩ := h.child process c hc
  refine ⟨c', hc', ?_⟩
  obtain ⟨status, hstatus⟩ := Option.isSome_iff_exists.mp (Option.isNone_eq_false_iff.mp hended)
  rw [Child.isRunning, hbecomes.ended status hstatus, Option.isNone_some]

theorem isRunning_of_exited {b : Bench} {process : Nat} (h : b.Exited process) :
    b.isRunning process = false := by
  obtain ⟨c, hc, hended⟩ := h
  rw [isRunning, hc, Option.map_some, Option.getD_some, hended]

/-- A process that runs ran before. -/
theorem Becomes.isRunning {b after : Bench} (h : b.Becomes after) {process : Nat}
    (hthere : (b.child? process).isSome = true) (hrunning : after.isRunning process = true) :
    b.isRunning process = true := by
  obtain ⟨c, hc⟩ := Option.isSome_iff_exists.mp hthere
  rw [Bench.isRunning, hc, Option.map_some, Option.getD_some]
  cases hended : c.isRunning with
  | true => rfl
  | false =>
      rw [isRunning_of_exited (h.exited ⟨c, hc, hended⟩)] at hrunning
      cases hrunning

theorem Becomes.signaled {b after : Bench} (h : b.Becomes after) {process : Nat}
    (hsignaled : b.Signaled process) : after.Signaled process := by
  obtain ⟨c, hc, hasked⟩ := hsignaled
  obtain ⟨c', hc', hbecomes⟩ := h.child process c hc
  exact ⟨c', hc', hbecomes.signaled hasked⟩

instance (b : Bench) (process : Nat) : Decidable (b.Signaled process) :=
  decidable_of_iff ((b.child? process).any (·.signaled) = true) <| by
    rw [Option.any_eq_true]
    rfl

instance (b : Bench) (process : Nat) : Decidable (b.Exited process) :=
  decidable_of_iff ((b.child? process).any (!·.isRunning) = true) <| by
    rw [Option.any_eq_true]
    simp only [Bool.not_eq_true']
    rfl

/-- A process that has ended, or was asked to end. -/
def Settled (b : Bench) (process : Nat) : Prop :=
  b.Exited process ∨ b.Signaled process

instance (b : Bench) (process : Nat) : Decidable (b.Settled process) :=
  inferInstanceAs (Decidable (_ ∨ _))

theorem Becomes.settled {b after : Bench} (h : b.Becomes after) {process : Nat}
    (hsettled : b.Settled process) : after.Settled process :=
  hsettled.imp h.exited h.signaled

/-- Whoever interrupts a process leaves it settled. -/
theorem settled_interrupt {b : Bench} (hsound : b.Sound) {process : Nat}
    (hthere : (b.child? process).isSome = true) : (b.interrupt process).Settled process := by
  obtain ⟨c, hc⟩ := Option.isSome_iff_exists.mp hthere
  have hafter : (b.interrupt process).child? process = some c.cancel := by
    rw [interrupt, child?_modifyChild, if_pos rfl, hc, Option.map_some]
  cases hknown : c.known with
  | none => exact Or.inr ⟨c.cancel, hafter, Child.signaled_cancel hknown⟩
  | some status =>
      have hended := c.becomes_cancel.ended status ((hsound process c hc).known status hknown)
      refine Or.inl ⟨c.cancel, hafter, ?_⟩
      rw [Child.isRunning, hended, Option.isNone_some]

/-! ## Interrupts -/

/-- The exit status of a process, as far as it is known. -/
def known? (b : Bench) (process : Nat) : Option Int :=
  (b.child? process).bind (·.known)

/-- How many interrupts were sent to a process. -/
def attempts (b : Bench) (process : Nat) : Nat :=
  ((b.child? process).map (·.interrupts)).getD 0

/-- A process that was asked to end, unless its end is known. -/
def Heard (b : Bench) (process : Nat) : Prop :=
  b.known? process = none → b.Signaled process

/-- The end of a process is known for good. -/
theorem Becomes.known? {b after : Bench} (h : b.Becomes after) {process : Nat}
    (hafter : after.known? process = none) : b.known? process = none := by
  cases hchild : b.child? process with
  | none => rw [Bench.known?, hchild, Option.bind_none]
  | some c =>
      obtain ⟨c', hc', hbecomes⟩ := h.child process c hchild
      rw [Bench.known?, hc', Option.bind_some] at hafter
      rw [Bench.known?, hchild, Option.bind_some]
      exact hbecomes.known hafter

theorem Becomes.heard {b after : Bench} (h : b.Becomes after) {process : Nat}
    (hheard : b.Heard process) : after.Heard process :=
  fun hafter => h.signaled (hheard (h.known? hafter))

theorem heard_of_calls {b after : Bench} (h : after.calls = b.calls) {process : Nat}
    (hheard : b.Heard process) : after.Heard process :=
  (becomes_of_calls h).heard hheard

/-- Whoever interrupts a process asks it to end, unless its end is known. -/
theorem signaled_interrupt {b : Bench} {process : Nat} (hthere : (b.child? process).isSome = true)
    (hunknown : b.known? process = none) : (b.interrupt process).Signaled process := by
  obtain ⟨c, hc⟩ := Option.isSome_iff_exists.mp hthere
  rw [Bench.known?, hc, Option.bind_some] at hunknown
  refine ⟨c.cancel, ?_, Child.signaled_cancel hunknown⟩
  rw [interrupt, child?_modifyChild, if_pos rfl, hc, Option.map_some]

theorem heard_interrupt {b : Bench} {process : Nat} (hthere : (b.child? process).isSome = true) :
    (b.interrupt process).Heard process :=
  fun hafter => signaled_interrupt hthere ((b.becomes_interrupt process).known? hafter)

/-- A process has one interrupt behind it if it was asked to end, and else none. -/
theorem attempts_eq {b : Bench} (hsound : b.Sound) (process : Nat) :
    b.attempts process = if b.Signaled process then 1 else 0 := by
  rw [attempts]
  cases hchild : b.child? process with
  | none =>
      have hnot : ¬b.Signaled process := by
        rintro ⟨c, hc, _⟩
        rw [hchild] at hc
        cases hc
      rw [if_neg hnot]
      rfl
  | some c =>
      have hiff : b.Signaled process ↔ c.signaled = true := by
        rw [Signaled, hchild]
        simp
      rw [Option.map_some, Option.getD_some, (hsound process c hchild).tally]
      simp only [hiff]

/-- A process whose end is known is interrupted no more. -/
theorem Becomes.attempts {b after : Bench} (h : b.Becomes after) (hsound : b.Sound) {process : Nat}
    (hknown : b.known? process ≠ none) : after.attempts process = b.attempts process := by
  cases hchild : b.child? process with
  | none => exact absurd (by rw [Bench.known?, hchild, Option.bind_none]) hknown
  | some c =>
      obtain ⟨c', hc', hbecomes⟩ := h.child process c hchild
      rw [Bench.known?, hchild, Option.bind_some] at hknown
      rw [Bench.attempts, Bench.attempts, hchild, hc', Option.map_some, Option.map_some,
        hbecomes.interrupts (hsound process c hchild) hknown]

theorem signaled_of_calls {b after : Bench} (h : after.calls = b.calls) {process : Nat} :
    after.Signaled process ↔ b.Signaled process := by
  rw [Signaled, Signaled, child?_of_calls h]

theorem settled_of_calls {b after : Bench} (h : after.calls = b.calls) {process : Nat}
    (hsettled : b.Settled process) : after.Settled process := by
  rw [Settled, Exited, Signaled, child?_of_calls h]
  exact hsettled

/-! ## What everything else leaves alone -/

theorem becomes_slot (b : Bench) (slot : Slot) : b.Becomes { b with slot } :=
  becomes_of_calls rfl

theorem becomes_attach (b : Bench) (ticket process : Nat) :
    b.Becomes (b.attach ticket process) := by
  rw [attach]
  simp only
  split
  · exact (b.becomes_slot _).trans (becomes_interrupt _ process)
  · exact b.becomes_slot _

theorem slot_attach (b : Bench) (ticket process : Nat) :
    (b.attach ticket process).slot = (b.slot.attach ticket process).1 := by
  rw [attach]
  simp only
  split
  · rfl
  · rfl

/-- A process that is attached where a stop was asked for is interrupted. -/
theorem attach_of_asked {b : Bench} {ticket : Nat} (hasked : b.slot.asked ticket = true)
    (process : Nat) :
    b.attach ticket process =
      { b with slot := (b.slot.attach ticket process).1 }.interrupt process := by
  rw [attach]
  simp only [b.slot.attach_eq, hasked, if_true]

theorem heard_attach {b : Bench} {ticket process : Nat} (hasked : b.slot.asked ticket = true)
    (hthere : (b.child? process).isSome = true) : (b.attach ticket process).Heard process := by
  rw [attach_of_asked hasked]
  exact heard_interrupt hthere

/-- A process whose end was known before it was attached is not interrupted. -/
theorem attempts_attach {b : Bench} (hsound : b.Sound) {ticket process : Nat}
    (hasked : b.slot.asked ticket = true) (hthere : (b.child? process).isSome = true) :
    (b.attach ticket process).attempts process =
      if b.known? process = none then 1 else b.attempts process := by
  have hbecomes := b.becomes_attach ticket process
  split
  next hunknown =>
    rw [attempts_eq (hbecomes.sound hsound), if_pos]
    rw [attach_of_asked hasked]
    exact signaled_interrupt hthere hunknown
  next hknown => exact hbecomes.attempts hsound hknown

theorem becomes_stop (b : Bench) : b.Becomes b.stop.1 := by
  rw [stop]
  split
  · exact .refl b
  next ticket _ =>
    simp only
    cases (b.slot.cancel ticket).2 with
    | none => exact b.becomes_slot _
    | some process => exact (b.becomes_slot _).trans (becomes_interrupt _ process)

/-- A stop changes neither who holds the slot nor whose processes are whose. -/
theorem slot_stop (b : Bench) :
    b.stop.1.slot.active = b.slot.active ∧ b.stop.1.slot.processes = b.slot.processes := by
  rw [stop]
  split
  · exact ⟨rfl, rfl⟩
  next ticket _ =>
    simp only
    cases (b.slot.cancel ticket).2 with
    | none => exact ⟨rfl, b.slot.processes_cancel ticket⟩
    | some process => exact ⟨rfl, b.slot.processes_cancel ticket⟩

/-- A stop is noted on the ticket that holds the slot. -/
theorem asked_stop (b : Bench) (ticket : Nat) :
    b.stop.1.slot.asked ticket =
      (b.slot.asked ticket ||
        (b.slot.active == some ticket && b.slot.tickets[ticket]?.isSome)) := by
  rw [stop]
  split
  next hfree => simp [hfree]
  next holder hactive =>
    simp only
    cases (b.slot.cancel holder).2 with
    | none => simp [b.slot.asked_cancel, hactive]
    | some process => simp [b.slot.asked_cancel, hactive, interrupt, modifyChild]

/-- A stop interrupts the process of the check in the slot. -/
theorem stop_eq {b : Bench} {ticket process : Nat} (hactive : b.slot.active = some ticket)
    (hprocess : b.slot.processes[ticket]? = some (some process)) :
    b.stop.1 = { b with slot := (b.slot.cancel ticket).1 }.interrupt process := by
  have hcancel : (b.slot.cancel ticket).2 = some process := by
    rw [Slot.processes, List.getElem?_map] at hprocess
    obtain ⟨stay, hstay, hattached⟩ := Option.map_eq_some_iff.mp hprocess
    rw [Slot.cancel, hstay, Option.bind_some, hattached]
  rw [stop, hactive]
  simp only [hcancel]
  rfl

/-- The process of the check in the slot hears of a stop. -/
theorem heard_stop {b : Bench} {ticket process : Nat} (hactive : b.slot.active = some ticket)
    (hprocess : b.slot.processes[ticket]? = some (some process))
    (hthere : (b.child? process).isSome = true) : b.stop.1.Heard process := by
  rw [stop_eq hactive hprocess]
  exact heard_interrupt hthere

theorem calls_relay (b : Bench) (seen : List Protocol.Emission) :
    (b.relay seen).calls = b.calls ∧ (b.relay seen).slot = b.slot := by
  rw [relay]
  split
  · exact ⟨rfl, rfl⟩
  · exact ⟨rfl, rfl⟩

theorem calls_publish (b : Bench) (findings : Diagnostic.Collection) :
    (b.publish findings).calls = b.calls ∧ (b.publish findings).slot = b.slot := by
  rw [publish]
  split
  · exact ⟨rfl, rfl⟩
  · exact ⟨rfl, rfl⟩

/-! ## The last request and the findings -/

/-- What no run of a tool changes: what was checked last, and what is shown to whom. -/
structure Keeps (b after : Bench) : Prop where
  /-- What was checked last. -/
  last : after.slot.last = b.slot.last
  /-- Whether anybody follows. -/
  attended : after.attended = b.attended
  /-- What is shown. -/
  sink : after.sink = b.sink

theorem Keeps.refl (b : Bench) : b.Keeps b := ⟨rfl, rfl, rfl⟩

theorem Keeps.trans {b middle after : Bench} (hfirst : b.Keeps middle)
    (hlast : middle.Keeps after) : b.Keeps after :=
  ⟨hlast.last.trans hfirst.last, hlast.attended.trans hfirst.attended,
    hlast.sink.trans hfirst.sink⟩

theorem keeps_start (b : Bench) (behavior : Behavior) (executable : Text) (arguments : List Text)
    (directory : Option Path) : b.Keeps (b.start behavior executable arguments directory).1 := by
  cases behavior with
  | refused reason => exact ⟨rfl, rfl, rfl⟩
  | runs program => exact ⟨rfl, rfl, rfl⟩

theorem keeps_startTool (b : Bench) (executable : Path) (arguments : List Text)
    (directory : Path) : b.Keeps (b.startTool executable arguments directory).1 := by
  have hbehaviors : b.Keeps { b with behaviors := b.behaviors.tail } := ⟨rfl, rfl, rfl⟩
  exact hbehaviors.trans (keeps_start _ _ _ _ _)

theorem keeps_modifyChild (b : Bench) (process : Nat) (f : Child → Child) :
    b.Keeps (b.modifyChild process f) := ⟨rfl, rfl, rfl⟩

theorem keeps_tell (b : Bench) (notices : List Notice) : b.Keeps (b.tell notices) :=
  ⟨rfl, rfl, rfl⟩

theorem keeps_relay (b : Bench) (seen : List Protocol.Emission) : b.Keeps (b.relay seen) := by
  rw [relay]
  split
  · exact b.keeps_tell _
  · exact .refl b

theorem keeps_setTree (b : Bench) (tree : Files.Tree) : b.Keeps (b.setTree tree) :=
  ⟨rfl, rfl, rfl⟩

theorem keeps_attach (b : Bench) (ticket process : Nat) : b.Keeps (b.attach ticket process) := by
  rw [attach]
  simp only
  split
  · exact ⟨rfl, rfl, rfl⟩
  · exact ⟨rfl, rfl, rfl⟩

theorem keeps_release (b : Bench) (ticket : Nat) : b.Keeps (b.release ticket) := by
  refine ⟨?_, rfl, rfl⟩
  rw [release, Slot.release]
  split
  · rfl
  · rfl

theorem keeps_stop (b : Bench) : b.Keeps b.stop.1 := by
  rw [stop]
  split
  · exact .refl b
  next ticket _ =>
    simp only
    cases (b.slot.cancel ticket).2 with
    | none => exact ⟨rfl, rfl, rfl⟩
    | some process => exact ⟨rfl, rfl, rfl⟩

end Bench

end TlaRunner.Workflow
