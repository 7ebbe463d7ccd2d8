import Mathlib.Data.List.Induction
import TlaRunner.Workflow.Slot

/-!
# Histories of the slot

Any number of clients use the slot, in any order: they ask to enter it, attach processes to
tickets, ask for stops and give the slot back, also with tickets that have left it long ago, that
were given back before, or that nobody has.  A `Slot.Use` is one of these things, and `Slot.after`
is the slot after a list of them.

Of such a history it matters who was let in, and with which ticket (`Slot.Entered`).  The slot is
held by whoever was let in and has not given it back since (`Slot.active_iff`), so there is at most
one such client, and its going is the only way to a free slot.  What was checked last is what the
last one who was let in asked for (`Slot.last_iff`).

All of this is by induction on the history, and a use does one of three things (`Slot.Does`).
-/

namespace TlaRunner.Workflow

namespace Slot

/-- Something that a client may do with the slot. -/
inductive Use
  /-- It asks to enter. -/
  | acquire (request : Request)
  /-- It attaches a process to a ticket. -/
  | attach (ticket process : Nat)
  /-- It asks for a stop on a ticket. -/
  | cancel (ticket : Nat)
  /-- It gives the slot back with a ticket. -/
  | release (ticket : Nat)
  deriving DecidableEq, Repr

/-- Lets a client do something. -/
def use (s : Slot) : Use → Slot
  | .acquire request =>
    match s.acquire request with
    | .ok (_, next) => next
    | .error _ => s
  | .attach ticket process => (s.attach ticket process).1
  | .cancel ticket => (s.cancel ticket).1
  | .release ticket => s.release ticket

/-- The slot after all that clients did. -/
def after (uses : List Use) : Slot :=
  uses.foldl use free

theorem after_concat (uses : List Use) (u : Use) : after (uses ++ [u]) = (after uses).use u :=
  List.foldl_append

/-! ## One use -/

/-- The requests of the tickets, by number. -/
def requests (s : Slot) : List Request :=
  s.tickets.map (·.request)

/-- What becomes of tickets one by one leaves their requests alone if it leaves each alone. -/
theorem requests_modify (s : Slot) (ticket : Nat) {f : Ticket → Ticket}
    (hf : ∀ stay, (f stay).request = stay.request) :
    (s.tickets.modify ticket f).map (·.request) = s.requests := by
  refine List.ext_getElem? fun i => ?_
  rw [requests, List.getElem?_map, List.getElem?_map, List.getElem?_modify]
  cases s.tickets[i]? with
  | none => rfl
  | some stay =>
      by_cases hi : ticket = i
      · simp [hi, hf]
      · simp [hi]

/-- What a use may do. -/
inductive Does (s : Slot) (u : Use) : Slot → Prop
  /-- A client is let in, with the next ticket. -/
  | admits {request : Request} (huse : u = .acquire request) (hfree : s.active = none) :
      Does s u ⟨s.tickets ++ [⟨request, none, false⟩], some s.tickets.length, some request⟩
  /-- The client that holds the slot gives it back. -/
  | frees {ticket : Nat} (huse : u = .release ticket) (hholds : s.active = some ticket) :
      Does s u { s with active := none }
  /-- Nobody is let in and nobody goes. -/
  | stays {tickets : List Ticket} (hshut : ∀ request, u = .acquire request → s.active ≠ none)
      (hheld : ∀ ticket, u = .release ticket → s.active ≠ some ticket)
      (hrequests : tickets.map (·.request) = s.requests) : Does s u { s with tickets }

/-- Every use does one of these things. -/
theorem does (s : Slot) (u : Use) : s.Does u (s.use u) := by
  cases u with
  | acquire request =>
      cases hactive : s.active with
      | none =>
          rw [use, acquire, hactive]
          exact .admits rfl hactive
      | some holder =>
          rw [use, acquire, hactive]
          exact .stays (fun _ _ h => by rw [hactive] at h; cases h) (fun _ h => by cases h) rfl
  | attach ticket process =>
      exact .stays (fun _ h => by cases h) (fun _ h => by cases h)
        (s.requests_modify ticket fun _ => rfl)
  | cancel ticket =>
      exact .stays (fun _ h => by cases h) (fun _ h => by cases h)
        (s.requests_modify ticket fun _ => rfl)
  | release ticket =>
      by_cases hholds : s.active = some ticket
      · rw [use, release, if_pos hholds]
        exact .frees rfl hholds
      · rw [use, release_of_ne hholds]
        exact .stays (fun _ h => by cases h) (fun other h => by cases h; exact hholds) rfl

variable {s : Slot}

/-- Whoever asks is let in if and only if the slot is free, and gets the next ticket. -/
theorem acquire_ok_iff {request : Request} {ticket : Nat} :
    (∃ next, s.acquire request = .ok (ticket, next)) ↔
      s.active = none ∧ ticket = s.tickets.length := by
  rw [acquire]
  cases s.active with
  | none => simp [eq_comm]
  | some holder => simp

/-- Otherwise the holder is named. -/
theorem acquire_error_iff {request : Request} {error : Busy} :
    s.acquire request = .error error ↔ s.active = some error.holder := by
  rw [acquire]
  cases s.active with
  | none => simp
  | some holder =>
      obtain ⟨other⟩ := error
      simp

/-- Tickets stay, with what they were asked for. -/
theorem requests_use {ticket : Nat} {request : Request} (h : s.requests[ticket]? = some request)
    (u : Use) : (s.use u).requests[ticket]? = some request := by
  have hdoes := s.does u
  generalize s.use u = next at hdoes ⊢
  cases hdoes with
  | admits _ _ =>
      rw [requests, List.map_append]
      exact (List.getElem?_append_left (List.getElem?_eq_some_iff.mp h).1).trans h
  | frees _ _ => exact h
  | stays _ _ hrequests => rw [requests, hrequests, h]

/-! ## Who was let in -/

/-- A client that asked to enter was let in with a ticket, and this is what was done later. -/
def Entered (uses : List Use) (ticket : Nat) (request : Request) (later : List Use) : Prop :=
  ∃ before, uses = before ++ .acquire request :: later ∧
    ∃ next, (after before).acquire request = .ok (ticket, next)

variable {uses later : List Use} {u : Use} {ticket : Nat} {request : Request}

theorem not_entered_nil : ¬Entered [] ticket request later := by
  rintro ⟨before, huses, _⟩
  exact List.append_ne_nil_of_right_ne_nil before (List.cons_ne_nil _ later) huses.symm

/-- Whoever has been let in was let in before, or is let in now. -/
theorem entered_concat :
    Entered (uses ++ [u]) ticket request later ↔
      (∃ earlier, later = earlier ++ [u] ∧ Entered uses ticket request earlier) ∨
      later = [] ∧ u = .acquire request ∧
        (after uses).active = none ∧ ticket = (after uses).tickets.length := by
  constructor
  · rintro ⟨before, huses, hnext⟩
    rcases List.eq_nil_or_concat later with rfl | ⟨earlier, last, rfl⟩
    · obtain ⟨rfl, hu⟩ := List.append_inj' huses rfl
      exact Or.inr ⟨rfl, List.singleton_inj.mp hu, acquire_ok_iff.mp hnext⟩
    · rw [List.concat_eq_append, ← List.cons_append, ← List.append_assoc] at huses
      obtain ⟨rfl, hu⟩ := List.append_inj' huses rfl
      rw [List.singleton_inj.mp hu, List.concat_eq_append]
      exact Or.inl ⟨earlier, rfl, before, rfl, hnext⟩
  · rintro (⟨earlier, rfl, before, rfl, hnext⟩ | ⟨rfl, rfl, hadmitted⟩)
    · exact ⟨before, by rw [List.append_assoc, List.cons_append], hnext⟩
    · exact ⟨uses, rfl, acquire_ok_iff.mpr hadmitted⟩

/-- Where nobody is let in, whoever has been let in was let in before. -/
theorem entered_concat_of_shut
    (hshut : ∀ request, u = .acquire request → (after uses).active ≠ none) :
    Entered (uses ++ [u]) ticket request later ↔
      ∃ earlier, later = earlier ++ [u] ∧ Entered uses ticket request earlier :=
  entered_concat.trans (or_iff_left fun ⟨_, hu, hfree, _⟩ => hshut request hu hfree)

/-- The ticket of whoever was let in shows what it was asked for. -/
theorem Entered.requests (h : Entered uses ticket request later) :
    (after uses).requests[ticket]? = some request := by
  induction uses using List.reverseRecOn generalizing later with
  | nil => exact absurd h not_entered_nil
  | append_singleton uses u ih =>
      rw [after_concat]
      rcases entered_concat.mp h with ⟨earlier, _, hearlier⟩ | ⟨_, rfl, hfree, rfl⟩
      · exact requests_use (ih hearlier) u
      · rw [use, acquire, hfree, Slot.requests, List.map_append]
        rw [← List.length_map (·.request)]
        exact List.getElem?_concat_length

/-- The next ticket is nobody's yet. -/
theorem not_entered_length :
    ¬Entered uses (after uses).tickets.length request later := fun h => by
  have hthere := h.requests
  rw [Slot.requests, List.getElem?_map, List.getElem?_eq_none (Nat.le_refl _)] at hthere
  cases hthere

/-- No two clients were let in with the same ticket. -/
theorem Entered.unique (h : Entered uses ticket request later) {other : Request}
    {rest : List Use} (hother : Entered uses ticket other rest) :
    other = request ∧ rest = later := by
  induction uses using List.reverseRecOn generalizing later rest with
  | nil => exact absurd h not_entered_nil
  | append_singleton uses u ih =>
      rcases entered_concat.mp h with ⟨earlier, rfl, hearlier⟩ | ⟨rfl, hu, _, rfl⟩
      · rcases entered_concat.mp hother with ⟨first, rfl, hfirst⟩ | ⟨_, _, _, rfl⟩
        · obtain ⟨rfl, rfl⟩ := ih hearlier hfirst
          exact ⟨rfl, rfl⟩
        · exact absurd hearlier not_entered_length
      · rcases entered_concat.mp hother with ⟨_, _, hfirst⟩ | ⟨rfl, hsame, _⟩
        · exact absurd hfirst not_entered_length
        · rw [hu] at hsame
          exact ⟨(Use.acquire.inj hsame).symm, rfl⟩

/-! ## Who holds the slot -/

/-- A client that was let in with a ticket and has not given the slot back since. -/
def Stays (uses : List Use) (ticket : Nat) : Prop :=
  ∃ request later, Entered uses ticket request later ∧ .release ticket ∉ later

/-- Where nobody is let in, whoever stays then has stayed and does not go now. -/
theorem stays_concat (hshut : ∀ request, u = .acquire request → (after uses).active ≠ none) :
    Stays (uses ++ [u]) ticket ↔ Stays uses ticket ∧ u ≠ .release ticket := by
  constructor
  · rintro ⟨request, later, hentered, hstays⟩
    obtain ⟨earlier, rfl, hearlier⟩ := (entered_concat_of_shut hshut).mp hentered
    rw [List.mem_append, not_or, List.mem_singleton] at hstays
    exact ⟨⟨request, earlier, hearlier, hstays.1⟩, Ne.symm hstays.2⟩
  · rintro ⟨⟨request, earlier, hearlier, hstays⟩, hu⟩
    refine ⟨request, earlier ++ [u],
      (entered_concat_of_shut hshut).mpr ⟨earlier, rfl, hearlier⟩, ?_⟩
    rw [List.mem_append, not_or, List.mem_singleton]
    exact ⟨hstays, hu.symm⟩

/-- The slot is held by whoever was let in and has not given it back since. -/
theorem active_iff (uses : List Use) (ticket : Nat) :
    (after uses).active = some ticket ↔ Stays uses ticket := by
  induction uses using List.reverseRecOn generalizing ticket with
  | nil =>
      refine iff_of_false (fun h => by cases h) ?_
      rintro ⟨request, later, h, _⟩
      exact not_entered_nil h
  | append_singleton uses u ih =>
      rw [after_concat]
      have hdoes := (after uses).does u
      generalize (after uses).use u = next at hdoes ⊢
      cases hdoes with
      | @admits request huse hfree =>
          constructor
          · intro h
            exact ⟨request, [], entered_concat.mpr
              (Or.inr ⟨rfl, huse, hfree, (Option.some.inj h).symm⟩), List.not_mem_nil⟩
          · rintro ⟨asked, later, hentered, hstays⟩
            rcases entered_concat.mp hentered with ⟨earlier, rfl, hearlier⟩ | ⟨_, _, _, rfl⟩
            · have hheld := (ih ticket).mpr ⟨asked, earlier, hearlier, fun h =>
                hstays (List.mem_append_left _ h)⟩
              rw [hfree] at hheld
              cases hheld
            · rfl
      | @frees holder huse hholds =>
          subst huse
          rw [stays_concat (fun _ h => by cases h), ← ih, hholds]
          refine iff_of_false (fun h => by cases h) ?_
          rintro ⟨hsame, hother⟩
          exact hother (congrArg Use.release (Option.some.inj hsame))
      | stays hshut hheld _ =>
          rw [stays_concat hshut, ← ih]
          exact ⟨fun h => ⟨h, fun hrelease => hheld ticket hrelease h⟩, And.left⟩

/-- So it is free if and only if everybody who was let in has given it back since. -/
theorem active_eq_none_iff (uses : List Use) :
    (after uses).active = none ↔
      ∀ ticket request later, Entered uses ticket request later → .release ticket ∈ later := by
  rw [Option.eq_none_iff_forall_ne_some]
  simp only [Ne, active_iff, Stays, not_exists, not_and, not_not]

/-- Tickets that left long ago, and tickets that nobody has, free the slot for nobody. -/
example (request : Request) :
    (after [.acquire request, .release 0, .acquire request, .release 0, .release 7]).active =
      some 1 :=
  rfl

/-! ## What was checked last -/

/-- A request with which a client was let in, and nobody was let in later. -/
def IsLast (uses : List Use) (request : Request) : Prop :=
  ∃ ticket later, Entered uses ticket request later ∧
    ∀ other asked rest, Entered uses other asked rest → later.length ≤ rest.length

/-- Where nobody is let in, the last request stays the last one. -/
theorem isLast_concat (hshut : ∀ request, u = .acquire request → (after uses).active ≠ none) :
    IsLast (uses ++ [u]) request ↔ IsLast uses request := by
  constructor
  · rintro ⟨ticket, later, hentered, hlast⟩
    obtain ⟨earlier, rfl, hearlier⟩ := (entered_concat_of_shut hshut).mp hentered
    refine ⟨ticket, earlier, hearlier, fun other asked rest h => ?_⟩
    have hlength := hlast other asked (rest ++ [u])
      ((entered_concat_of_shut hshut).mpr ⟨rest, rfl, h⟩)
    rw [List.length_append, List.length_append] at hlength
    exact Nat.le_of_add_le_add_right hlength
  · rintro ⟨ticket, later, hentered, hlast⟩
    refine ⟨ticket, later ++ [u], (entered_concat_of_shut hshut).mpr ⟨later, rfl, hentered⟩,
      fun other asked rest h => ?_⟩
    obtain ⟨earlier, rfl, hearlier⟩ := (entered_concat_of_shut hshut).mp h
    rw [List.length_append, List.length_append]
    exact Nat.add_le_add_right (hlast other asked earlier hearlier) _

/-- What was checked last is what the last one who was let in asked for. -/
theorem last_iff (uses : List Use) (request : Request) :
    (after uses).last = some request ↔ IsLast uses request := by
  induction uses using List.reverseRecOn with
  | nil =>
      refine iff_of_false (fun h => by cases h) ?_
      rintro ⟨ticket, later, h, _⟩
      exact not_entered_nil h
  | append_singleton uses u ih =>
      rw [after_concat]
      have hdoes := (after uses).does u
      generalize (after uses).use u = next at hdoes ⊢
      cases hdoes with
      | @admits asked huse hfree =>
          have hnow : Entered (uses ++ [u]) (after uses).tickets.length asked [] :=
            entered_concat.mpr (Or.inr ⟨rfl, huse, hfree, rfl⟩)
          constructor
          · intro h
            obtain rfl := Option.some.inj h
            exact ⟨_, [], hnow, fun _ _ rest _ => Nat.zero_le rest.length⟩
          · rintro ⟨ticket, later, hentered, hlast⟩
            obtain rfl := List.length_eq_zero_iff.mp (Nat.le_zero.mp (hlast _ asked [] hnow))
            rcases entered_concat.mp hentered with ⟨_, hnil, _⟩ | ⟨_, hsame, _⟩
            · exact absurd hnil.symm (List.append_ne_nil_of_right_ne_nil _ (List.cons_ne_nil _ _))
            · rw [Use.acquire.inj (huse.symm.trans hsame)]
      | frees huse _ =>
          subst huse
          rw [isLast_concat (fun _ h => by cases h)]
          exact ih
      | stays hshut _ _ =>
          rw [isLast_concat hshut]
          exact ih

end Slot

end TlaRunner.Workflow
