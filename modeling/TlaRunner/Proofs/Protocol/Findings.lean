import TlaRunner.Proofs.Diagnostic.Collection
import TlaRunner.Proofs.Protocol.Delivery
import TlaRunner.Protocol.Plain

/-!
# Findings and the events that announce them

A finding that is new is added and announced, one that is known is neither.  `Gains`
says this of any part of a run: a collection that held some files and findings holds
besides the files that the part names and the findings that its events announce, and no
anomaly is noted.  A decoder that `Announces` says it of every line and message, and then
it holds of a whole run (`holds_of_readLines`).
-/

namespace TlaRunner

namespace Protocol

open Diagnostic (Record)

/-- The finding that an event announces. -/
def Event.finding? : Event → Option Record
  | .diagnostic _ r => some r
  | .progress .. => none
  | .report .. => none

/-- Whether an event announces a finding. -/
def Event.IsFinding (e : Event) : Prop :=
  e.finding?.isSome

/-- The findings that events announce, in order. -/
def announced (events : List Event) : List Record :=
  events.filterMap Event.finding?

theorem announced_append (a b : List Event) : announced (a ++ b) = announced a ++ announced b :=
  List.filterMap_append

namespace Gathered

variable {σ : Type}

/-- What is left by a decoder that named these files and told these events. -/
structure Gains (g after : Gathered σ) (files : List Text) (events : List Event) : Prop where
  /-- No anomaly was noted. -/
  conditions : after.conditions = g.conditions
  /-- What was named and announced is held besides. -/
  holds : ∀ {named found}, g.diagnostics.Holds named found →
    after.diagnostics.Holds (named ++ files) (found ++ announced events)

/-- Events that announce nothing go with findings that stay. -/
theorem gains_of_silent {g after : Gathered σ} {events : List Event}
    (hsilent : announced events = []) (hdiagnostics : after.diagnostics = g.diagnostics)
    (hconditions : after.conditions = g.conditions) : Gains g after [] events := by
  refine ⟨hconditions, fun hheld => ?_⟩
  rw [hsilent, hdiagnostics, List.append_nil, List.append_nil]
  exact hheld

theorem gains_of_eq {g after : Gathered σ} (hdiagnostics : after.diagnostics = g.diagnostics)
    (hconditions : after.conditions = g.conditions) : Gains g after [] [] :=
  gains_of_silent rfl hdiagnostics hconditions

theorem Gains.trans {g middle after : Gathered σ} {files more : List Text}
    {first last : List Event} (hfirst : Gains g middle files first)
    (hlast : Gains middle after more last) : Gains g after (files ++ more) (first ++ last) := by
  refine ⟨hlast.conditions.trans hfirst.conditions, fun hheld => ?_⟩
  rw [announced_append, ← List.append_assoc, ← List.append_assoc]
  exact hlast.holds (hfirst.holds hheld)

theorem gains_addFile (g : Gathered σ) (file : Text) : Gains g (g.addFile file) [file] [] := by
  refine ⟨rfl, fun hheld => ?_⟩
  rw [show announced [] = [] from rfl, List.append_nil]
  exact hheld.addFile file

theorem gains_addRecord (tool : Tool) (g : Gathered σ) (r : Record) :
    Gains g (g.addRecord tool r).1 [] (g.addRecord tool r).2 := by
  rw [addRecord, Diagnostic.Collection.add]
  cases hknown : g.diagnostics.knows r with
  | true => exact gains_of_eq rfl rfl
  | false =>
      refine ⟨rfl, fun hheld => ?_⟩
      rw [List.append_nil]
      exact hheld.append hknown

theorem gains_addRecords (tool : Tool) (g : Gathered σ) (rs : List Record) :
    Gains g (g.addRecords tool rs).1 [] (g.addRecords tool rs).2 := by
  induction rs generalizing g with
  | nil => exact gains_of_eq rfl rfl
  | cons r rs ih => exact (gains_addRecord tool g r).trans (ih _)

/-- Adding a finding tells of findings only. -/
theorem findings_addRecord (tool : Tool) (g : Gathered σ) (r : Record) :
    ∀ e ∈ (g.addRecord tool r).2, e.IsFinding := by
  intro e he
  simp only [addRecord] at he
  split at he
  · rw [List.mem_singleton.mp he]
    rfl
  · cases he

theorem findings_addRecords (tool : Tool) (g : Gathered σ) (rs : List Record) :
    ∀ e ∈ (g.addRecords tool rs).2, e.IsFinding := by
  induction rs generalizing g with
  | nil => exact fun e he => absurd he List.not_mem_nil
  | cons r rs ih => exact List.forall_mem_append.mpr ⟨findings_addRecord tool g r, ih _⟩

theorem grammar_addRecords (tool : Tool) (g : Gathered σ) (rs : List Record) :
    (g.addRecords tool rs).1.grammar = g.grammar := by
  induction rs generalizing g with
  | nil => rfl
  | cons r rs ih => exact ih (g.addRecord tool r).1

end Gathered

/-! ## Decoders -/

variable {σ ρ : Type}

/-- A decoder that announces what it adds to the findings, given the files that it names
where it reads something. -/
structure Decoder.Announces (d : Decoder σ ρ) (names : σ → Item → List Text) : Prop where
  /-- It announces what it finds in a line. -/
  onLine : ∀ {g after line events}, d.onLine g line = ⟨after, .ok events⟩ →
    Gathered.Gains g after (names g.grammar (.line line)) events
  /-- It announces what it finds in a message. -/
  onMessage : ∀ {g after m events}, d.onMessage g m = ⟨after, .ok events⟩ →
    Gathered.Gains g after (names g.grammar (.message m)) events
  /-- It announces what it held back. -/
  onEnd : ∀ g, Gathered.Gains g (d.onEnd g).1 [] (d.onEnd g).2

/-- The files that are named where something is handed on. -/
def Delivery.names (names : σ → Item → List Text) (g : Gathered σ) : Delivery → List Text
  | .item content => names g.grammar content
  | .condition _ => []

/-- The files that are named along deliveries, in order. -/
def filesNamed (d : Decoder σ ρ) (names : σ → Item → List Text) (g : Gathered σ) :
    List Delivery → List Text
  | [] => []
  | x :: rest => x.names names g ++ filesNamed d names (x.carry d g).gathered rest

/-- Where nothing that is read names a file, deliveries name none. -/
theorem filesNamed_silent (d : Decoder σ ρ) (g : Gathered σ) (xs : List Delivery) :
    filesNamed d (fun _ _ => []) g xs = [] := by
  induction xs generalizing g with
  | nil => rfl
  | cons x xs ih =>
      rw [filesNamed, ih]
      cases x with
      | item content => rfl
      | condition c => rfl

section

variable {d : Decoder σ ρ} {names : σ → Item → List Text} {g after : Gathered σ}
  {named : List Text} {found : List Record}

theorem Decoder.Announces.keepsConditions (hd : d.Announces names) : d.KeepsConditions :=
  ⟨fun h => (hd.onLine h).conditions, fun h => (hd.onMessage h).conditions,
    fun g => (hd.onEnd g).conditions⟩

theorem holds_of_carry (hd : d.Announces names) (hheld : g.diagnostics.Holds named found)
    {x : Delivery} {events : List Event} (h : x.carry d g = ⟨after, .ok events⟩) :
    after.diagnostics.Holds (named ++ x.names names g) (found ++ announced events) := by
  cases x with
  | item i =>
      cases i with
      | line line => exact (hd.onLine h).holds hheld
      | message m => exact (hd.onMessage h).holds hheld
  | condition c =>
      cases h
      simpa [Delivery.names, announced, Gathered.note] using hheld

/-- Behind deliveries are held the files and findings from before, those named and those
announced. -/
theorem holds_of_deliver (hd : d.Announces names) (hheld : g.diagnostics.Holds named found)
    {xs : List Delivery} {events : List Event} (h : deliver d g xs = ⟨after, .ok events⟩) :
    after.diagnostics.Holds (named ++ filesNamed d names g xs) (found ++ announced events) := by
  induction xs generalizing g named found events with
  | nil =>
      cases h
      simpa [filesNamed, announced] using hheld
  | cons x xs ih =>
      obtain ⟨middle, first, last, hx, hxs, rfl⟩ := deliver_cons_eq_ok.mp h
      have hlater := ih (holds_of_carry hd hheld hx) hxs
      rw [filesNamed, hx, announced_append, ← List.append_assoc, ← List.append_assoc]
      exact hlater

/-- Behind lines are held the files and findings from before, those named and those
announced. -/
theorem holds_of_feedLines (hd : d.Announces names) (hheld : g.diagnostics.Holds named found)
    {m : Option OpenMessage} {lines : List Text}
    (hrun : (Reading.feedLines d ⟨m, g, none⟩ lines).2.fault = none) :
    (Reading.feedLines d ⟨m, g, none⟩ lines).1.gathered.diagnostics.Holds
      (named ++ filesNamed d names g (drive m lines).2)
      (found ++ announced (Reading.feedLines d ⟨m, g, none⟩ lines).2.events) := by
  obtain ⟨hshort, after, events, hread⟩ := Reading.ok_of_feedLines hrun
  obtain ⟨hsession, _, hevents⟩ := Reading.feedLines_of_ok hshort hread
  rw [hsession, hevents]
  exact holds_of_deliver hd hheld hread

/-- The report announces nothing. -/
theorem announced_lastEvents (d : Decoder σ ρ) (g : Gathered σ) (stopped : Bool) :
    announced (Reading.lastEvents d g stopped) = announced (d.onEnd g).2 := by
  rw [Reading.lastEvents, announced_append]
  exact List.append_nil _

/-- Behind a whole run are held the files and findings from before, those named and those
announced, the end of the output included. -/
theorem holds_of_readLines (hd : d.Announces names) (hheld : g.diagnostics.Holds named found)
    {lines : List Text} {stopped : Bool}
    (hrun : (Reading.readLines d (.start g) lines stopped).2.fault = none) :
    (Reading.readLines d (.start g) lines stopped).1.gathered.diagnostics.Holds
      (named ++ filesNamed d names g (drive none lines).2)
      (found ++ announced (Reading.readLines d (.start g) lines stopped).2.events) := by
  obtain ⟨hshort, after, events, hread⟩ := Reading.ok_of_readLines hrun
  obtain ⟨hsession, _, hevents⟩ := Reading.readLines_of_ok hshort hread stopped
  obtain ⟨middle, first, last, hlines, hcut, rfl⟩ := deliver_append_eq_ok.mp hread
  have hcutoff : filesNamed d names middle ((drive none lines).1.map OpenMessage.cutOff).toList =
      [] := by
    cases (drive none lines).1 with
    | none => rfl
    | some m => rfl
  have hlast := announced_lastEvents d after stopped
  have hend := (hd.onEnd after).holds
    (holds_of_deliver hd (holds_of_deliver hd hheld hlines) hcut)
  rw [hcutoff, List.append_nil, List.append_nil, ← hlast, List.append_assoc found,
    ← announced_append, List.append_assoc found, ← announced_append] at hend
  rw [Session.start, hsession, hevents]
  exact hend

end

/-- The decoder without a grammar announces nothing and adds nothing. -/
theorem Plain.announces : Plain.decoder.Announces fun _ _ => [] := by
  refine ⟨fun h => ?_, fun h => ?_, fun g => Gathered.gains_of_eq rfl rfl⟩
  · cases h
    exact Gathered.gains_of_eq rfl rfl
  · cases h
    exact Gathered.gains_of_silent rfl rfl rfl

end Protocol

end TlaRunner
