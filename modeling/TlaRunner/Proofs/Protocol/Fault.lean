import TlaRunner.Proofs.Protocol.Matching
import TlaRunner.Proofs.Protocol.Transcript

/-!
# Where reading stops

Lines are refused for two reasons.  The numbers of a marker may be past the limit, which
they are not where the line is within it (`shortLine_of_length_le`); or the decoder refuses
what the protocol hands on.  The end of the output is never refused, so a run of short lines
stops at the first delivery that the decoder refuses, if any (`fault_readLines`).

What is handed on consists of lines of the output (`mem_of_mem_fates`).
-/

namespace TlaRunner.Protocol

variable {σ ρ : Type} {d : Decoder σ ρ} {g : Gathered σ}

/-! ## Deliveries -/

/-- Why a step was refused. -/
def Step.fault? (step : Step σ) : Option Fault :=
  match step.events with
  | .ok _ => none
  | .error fault => some fault

theorem fault_deliver_cons (d : Decoder σ ρ) (g : Gathered σ) (x : Delivery)
    (rest : List Delivery) :
    (deliver d g (x :: rest)).fault? =
      (x.carry d g).fault?.or (deliver d (x.carry d g).gathered rest).fault? := by
  rw [deliver]
  rcases x.carry d g with ⟨middle, result⟩
  cases result with
  | error fault => rfl
  | ok events =>
      simp only [Step.fault?, Option.none_or]
      rcases (deliver d middle rest).events with fault | later
      · rfl
      · rfl

theorem fault_deliver_append (d : Decoder σ ρ) (g : Gathered σ) (a b : List Delivery) :
    (deliver d g (a ++ b)).fault? =
      (deliver d g a).fault?.or (deliver d (deliver d g a).gathered b).fault? := by
  induction a generalizing g with
  | nil => rfl
  | cons x a ih =>
      rw [List.cons_append, fault_deliver_cons, ih, fault_deliver_cons, deliver]
      rcases x.carry d g with ⟨middle, result⟩
      cases result with
      | error fault => rfl
      | ok events => rfl

/-- A step without a fault tells events. -/
theorem Step.fault?_eq_none {step : Step σ} :
    step.fault? = none ↔ ∃ events, step = ⟨step.gathered, .ok events⟩ := by
  rcases step with ⟨after, result⟩
  cases result with
  | error fault => simp [Step.fault?]
  | ok events => simp [Step.fault?]

/-! ## Lines -/

theorem shortLine_of_length_le {line : Text} (h : line.length ≤ Text.digitLimit) :
    ShortLine line :=
  fun _ hm => short_of_length_le hm h

theorem fault_ofReply (echo : Option Text) (step : Step σ) :
    (Emissions.ofReply ⟨echo, step.events⟩).fault = step.fault? := by
  rcases step with ⟨after, result⟩
  cases result with
  | error fault => rfl
  | ok events => rfl

namespace Reading

theorem fault_andThen {α : Type} (here : α × Emissions) (next : α → α × Emissions) :
    (Emissions.andThen here next).2.fault = here.2.fault.or (next here.1).2.fault := by
  cases hfault : here.2.fault with
  | none => rw [Emissions.andThen_of_ok hfault, Option.none_or]
  | some fault => rw [Emissions.andThen_of_fault hfault, hfault, Option.some_or]

/-- Lines are refused where the decoder refuses what they hand on. -/
theorem fault_feedLines (m : Option OpenMessage) {lines : List Text}
    (hshort : ∀ line ∈ lines, ShortLine line) :
    (feedLines d ⟨m, g, none⟩ lines).2.fault = (deliver d g (drive m lines).2).fault? := by
  induction lines generalizing m g with
  | nil => rfl
  | cons line lines ih =>
      obtain ⟨hline, hlines⟩ := List.forall_mem_cons.mp hshort
      rw [feedLines_cons, fault_andThen, feed_eq d m g hline, drive, fault_deliver_append]
      simp only
      rw [fault_ofReply, ih _ hlines]

/-- Short lines and their end are refused where the decoder refuses what becomes of them. -/
theorem fault_readLines {lines : List Text} (hshort : ∀ line ∈ lines, ShortLine line)
    (stopped : Bool) :
    (readLines d (.start g) lines stopped).2.fault = (deliver d g (fates [] lines)).fault? := by
  have hstart : outside [] = (none : Option OpenMessage).isNone := rfl
  have hdrive : driveAll none lines = fates [] lines := driveAll_eq hstart lines
  rw [readLines, fault_andThen, Session.start, fault_feedLines none hshort, ← hdrive, driveAll,
    fault_deliver_append]
  -- The end hands on an anomaly at most, which no decoder reads.
  cases hlines : (deliver d g (drive none lines).2).fault? with
  | some fault => rfl
  | none =>
      obtain ⟨events, hread⟩ := Step.fault?_eq_none.mp hlines
      obtain ⟨hsession, -⟩ := feedLines_of_ok hshort hread
      obtain ⟨after, hcut, hclose⟩ :=
        closeLines_eq d (drive none lines).1 (deliver d g (drive none lines).2).gathered stopped
      rw [hsession, hclose, hcut]
      rfl

end Reading

/-! ## What is handed on -/

/-- The lines of a delivery. -/
def Delivery.content : Delivery → List Text
  | .item i => i.content
  | .condition _ => []

theorem content_settled {m : OpenMessage} {after : List Text} {line : Text}
    (h : line ∈ (m.settled after).content) : line ∈ m.lines ∨ line ∈ after := by
  rw [OpenMessage.settled] at h
  split at h
  next code _ =>
    rw [OpenMessage.closedBy] at h
    split at h
    next => exact (List.mem_append.mp h).imp_right fun hbody => (List.takeWhile_subset _) hbody
    next => cases h
  next => cases h
  next => cases h

/-- What becomes of lines consists of these lines. -/
theorem mem_of_mem_fates {before lines : List Text} {x : Delivery} {line : Text}
    (hx : x ∈ fates before lines) (hline : line ∈ x.content) : line ∈ lines := by
  induction lines generalizing before with
  | nil => cases hx
  | cons first after ih =>
      rcases List.mem_append.mp hx with hhere | hlater
      · rw [Option.mem_toList, fate] at hhere
        split at hhere
        next code subCode _ =>
          cases hhere
          rcases content_settled hline with hnone | hafter
          · cases hnone
          · exact List.mem_cons_of_mem first hafter
        next => cases hhere
        next =>
          split at hhere
          next =>
            cases hhere
            rw [List.mem_singleton.mp hline]
            exact List.mem_cons_self
          next => cases hhere
      · exact List.mem_cons_of_mem first (ih hlater)

end TlaRunner.Protocol
