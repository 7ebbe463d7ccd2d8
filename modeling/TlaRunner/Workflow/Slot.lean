import TlaRunner.Files.Spec

/-!
# The check slot

At most one check runs at a time: it holds the slot.  Whoever enters gets a ticket
and gives the slot back with it; giving it back with a ticket that does not hold the
slot does nothing.  Tickets outlive their time in the slot, and stay as they were.

A ticket knows the process of its check once there is one.  A stop is asked for on
the ticket: the process is interrupted then, or as soon as it is attached.
-/

namespace TlaRunner.Workflow

open Files (SpecFiles)

/-- What is checked. -/
structure Request where
  /-- The files. -/
  spec : SpecFiles
  /-- Arguments besides the user's options. -/
  extra : List Text
  deriving DecidableEq, Repr

/-- A stay in the slot. -/
structure Ticket where
  /-- What is checked. -/
  request : Request
  /-- The process of the check, by its number. -/
  process : Option Nat
  /-- Whether a stop was asked for. -/
  stopRequested : Bool
  deriving DecidableEq, Repr

/-- The slot and all tickets. -/
structure Slot where
  /-- The tickets, by number. -/
  tickets : List Ticket
  /-- The number of the ticket that holds the slot. -/
  active : Option Nat
  /-- What was checked last. -/
  last : Option Request
  deriving DecidableEq, Repr

/-- The slot is held. -/
structure Busy where
  /-- The number of the ticket that holds it. -/
  holder : Nat
  deriving DecidableEq, Repr

/-- The wording of a held slot. -/
def Busy.message (_ : Busy) : Text :=
  "Another model checking process is currently running".toList

namespace Slot

/-- The slot that nobody has entered. -/
def free : Slot := ⟨[], none, none⟩

/-- The ticket that holds the slot. -/
def activeTicket (s : Slot) : Option Ticket :=
  s.active.bind (s.tickets[·]?)

/-- Enters the slot: the number of the new ticket. -/
def acquire (s : Slot) (request : Request) : Except Busy (Nat × Slot) :=
  match s.active with
  | some holder => .error ⟨holder⟩
  | none =>
    let number := s.tickets.length
    .ok (number, ⟨s.tickets ++ [⟨request, none, false⟩], some number, some request⟩)

/-- Attaches a process to a ticket, and says whether it is to be interrupted. -/
def attach (s : Slot) (ticket process : Nat) : Slot × Bool :=
  ({ s with tickets := s.tickets.modify ticket fun t => { t with process := some process } },
    ((s.tickets[ticket]?).map (·.stopRequested)).getD false)

/-- Asks for a stop on a ticket, and names the process to be interrupted. -/
def cancel (s : Slot) (ticket : Nat) : Slot × Option Nat :=
  ({ s with tickets := s.tickets.modify ticket fun t => { t with stopRequested := true } },
    (s.tickets[ticket]?).bind (·.process))

/-- Gives the slot back. -/
def release (s : Slot) (ticket : Nat) : Slot :=
  if s.active = some ticket then { s with active := none } else s

theorem release_of_ne {s : Slot} {ticket : Nat} (h : s.active ≠ some ticket) :
    s.release ticket = s := by
  simp [release, h]

end Slot

end TlaRunner.Workflow
