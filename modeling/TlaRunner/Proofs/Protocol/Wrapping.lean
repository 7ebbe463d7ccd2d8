import TlaRunner.Proofs.Protocol.Transcript

/-!
# Lines that are wrapped in messages

A run of lines may stand by itself or be wrapped between two markers.  The lines by
themselves are read one at a time, while those of a message are kept and read where it ends.
A decoder that reads a message as its lines cannot tell the difference
(`Reading.readLines_wrapped`): it has read the same lines in the same order, and nothing is
shown of the markers.
-/

namespace TlaRunner.Protocol

/-! ## Wrapped lines -/

/-- Two markers that open and close a message, written in any way. -/
structure Wrapper where
  /-- The line that opens the message. -/
  opening : Text
  /-- The line that closes it. -/
  closing : Text
  /-- The code of both. -/
  code : Nat
  /-- The class. -/
  subCode : Option Nat
  /-- The first line is a start marker. -/
  opens : signOf? opening = some (.start code subCode)
  /-- The last line is its end marker. -/
  closes : signOf? closing = some (.stop code)
  /-- The numbers of the start marker can be read. -/
  shortOpening : ShortLine opening
  /-- The number of the end marker can be read. -/
  shortClosing : ShortLine closing

/-- A line by itself, or lines that are wrapped. -/
inductive Part
  /-- A line by itself. -/
  | bare (line : Text)
  /-- Lines between two markers. -/
  | wrapped (wrapper : Wrapper) (body : List Text)

namespace Part

/-- The lines of a part, with the markers. -/
def lines : Part → List Text
  | .bare line => [line]
  | .wrapped wrapper body => wrapper.opening :: body ++ [wrapper.closing]

/-- What a part is handed on as. -/
def item : Part → Item
  | .bare line => .line line
  | .wrapped wrapper body => .message ⟨wrapper.code, wrapper.subCode, body⟩

/-- The lines of a part, without the markers. -/
def content (part : Part) : List Text :=
  part.item.content

end Part

section

variable {parts : List Part}
  (hunmarked : ∀ line ∈ parts.flatMap Part.content, Marker.ofLine? line = none)

include hunmarked

/-- Parts are handed on as their items. -/
theorem drive_parts :
    drive none (parts.flatMap Part.lines) = (none, (parts.map Part.item).map .item) := by
  induction parts with
  | nil => rfl
  | cons part parts ih =>
      rw [List.flatMap_cons, List.forall_mem_append] at hunmarked
      have hpart (rest : List Text) : drive none (part.lines ++ rest) =
          ((drive none rest).1, .item part.item :: (drive none rest).2) := by
        cases part with
        | bare line => exact drive_item (i := .line line) hunmarked.1 rest
        | wrapped wrapper body =>
            exact drive_message wrapper.opens wrapper.closes hunmarked.1 rest
      rw [List.flatMap_cons, hpart, ih hunmarked.2, List.map_cons, List.map_cons]

theorem driveAll_parts :
    driveAll none (parts.flatMap Part.lines) = (parts.map Part.item).map .item := by
  rw [driveAll, drive_parts hunmarked]
  exact List.append_nil _

/-- The numbers on the lines of parts can be read. -/
theorem short_parts : ∀ line ∈ parts.flatMap Part.lines, ShortLine line := by
  intro line hline
  obtain ⟨part, hpart, hmem⟩ := List.mem_flatMap.mp hline
  have hcontent : ∀ line ∈ part.content, ShortLine line := fun line hline =>
    short_of_unmarked (hunmarked line (List.mem_flatMap.mpr ⟨part, hpart, hline⟩))
  cases part with
  | bare content => exact hcontent line hmem
  | wrapped wrapper body =>
      simp only [Part.lines, List.cons_append, List.mem_cons, List.mem_append,
        List.not_mem_nil, or_false] at hmem
      rcases hmem with rfl | hmem | rfl
      · exact wrapper.shortOpening
      · exact hcontent line hmem
      · exact wrapper.shortClosing

end

/-- Nothing is shown of the markers. -/
theorem shown_parts (parts : List Part) :
    (parts.flatMap Part.lines).filterMap shown = (parts.flatMap Part.content).filterMap shown := by
  induction parts with
  | nil => rfl
  | cons part parts ih =>
      have hpart : part.lines.filterMap shown = part.content.filterMap shown := by
        cases part with
        | bare line => rfl
        | wrapped wrapper body =>
            have hopening : shown wrapper.opening = none := by rw [shown, wrapper.opens]; rfl
            have hclosing : shown wrapper.closing = none := by rw [shown, wrapper.closes]; rfl
            rw [Part.lines, List.filterMap_append, List.filterMap_cons_none hopening,
              List.filterMap_cons_none hclosing, List.filterMap_nil, List.append_nil]
            rfl
      rw [List.flatMap_cons, List.flatMap_cons, List.filterMap_append, List.filterMap_append,
        hpart, ih]

/-! ## What is shown of a run -/

/-- The lines that are shown among what was seen. -/
def Emissions.echoes (e : Emissions) : List Text :=
  e.seen.filterMap Emission.echo?

theorem echoes_ofReply (echo : Option Text) (events : List Event) :
    (Emissions.ofReply ⟨echo, .ok events⟩).echoes = echo.toList := by
  have hevents : (events.map Emission.event).filterMap Emission.echo? = [] := by
    rw [List.filterMap_map]
    exact List.filterMap_eq_nil_iff.mpr fun _ _ => rfl
  rw [Emissions.echoes, Emissions.ofReply, List.filterMap_append, hevents, List.append_nil]
  cases echo with
  | none => rfl
  | some line => rfl

theorem echoes_ofEvents (events : List Event) :
    (Emissions.ofEvents (.ok events)).echoes = [] := by
  rw [Emissions.echoes, Emissions.ofEvents, List.filterMap_map]
  exact List.filterMap_eq_nil_iff.mpr fun _ _ => rfl

section

variable {σ ρ : Type} {d : Decoder σ ρ}

namespace Reading

/-- A run without a fault shows its lines, whether they are read by themselves or in
messages. -/
theorem echoes_feedLines {m : Option OpenMessage} {g : Gathered σ} {lines : List Text}
    (h : (feedLines d ⟨m, g, none⟩ lines).2.fault = none) :
    (feedLines d ⟨m, g, none⟩ lines).2.echoes = lines.filterMap shown := by
  induction lines generalizing m g with
  | nil => rfl
  | cons line lines ih =>
      have hline := (ok_of_feedLines h).1 line List.mem_cons_self
      rw [feedLines_cons, feed_eq d m g hline] at h ⊢
      rcases hhere : deliver d g (advance m line).2.toList with ⟨middle, result⟩
      rw [hhere] at h
      cases result with
      | error fault => cases h
      | ok first =>
          rw [Emissions.andThen_of_ok (by rfl)] at h ⊢
          have hlater := ih h
          have hfirst := echoes_ofReply (shown line) first
          simp only [Emissions.echoes] at hlater hfirst ⊢
          rw [List.filterMap_append, hlater, hfirst]
          cases hshown : shown line with
          | none => rw [List.filterMap_cons_none hshown]; rfl
          | some text => rw [List.filterMap_cons_some hshown]; rfl

theorem echoes_readLines {m : Option OpenMessage} {g : Gathered σ} {lines : List Text}
    {stopped : Bool} (h : (readLines d ⟨m, g, none⟩ lines stopped).2.fault = none) :
    (readLines d ⟨m, g, none⟩ lines stopped).2.echoes = lines.filterMap shown := by
  rw [readLines] at h ⊢
  cases hfault : (feedLines d ⟨m, g, none⟩ lines).2.fault with
  | some fault =>
      rw [Emissions.andThen_of_fault hfault, hfault] at h
      cases h
  | none =>
      obtain ⟨hshort, middle, events, hlines⟩ := ok_of_feedLines hfault
      obtain ⟨hsession, -, -⟩ := feedLines_of_ok hshort hlines
      obtain ⟨after, -, hclose⟩ := closeLines_eq d (drive m lines).1 middle stopped
      have hfirst := echoes_feedLines hfault
      have hlast := echoes_ofEvents (lastEvents d after stopped)
      rw [Emissions.andThen_of_ok hfault, hsession, hclose]
      simp only [Emissions.echoes] at hfirst hlast ⊢
      rw [List.filterMap_append, hfirst, hlast, List.append_nil]

end Reading

/-! ## Decoders that cannot tell -/

/-- A decoder that reads a message as its lines. -/
def Decoder.ReadsByLine (d : Decoder σ ρ) : Prop :=
  ∀ g m, d.onMessage g m = deliver d g (m.lines.map fun line => .item (.line line))

/-- What is read as the lines of items is read as the items. -/
theorem deliver_items (hd : d.ReadsByLine) {g after : Gathered σ} {items : List Item}
    {events : List Event}
    (h : deliver d g ((items.flatMap Item.content).map fun line => .item (.line line)) =
      ⟨after, .ok events⟩) :
    deliver d g (items.map .item) = ⟨after, .ok events⟩ := by
  induction items generalizing g events with
  | nil => exact h
  | cons i items ih =>
      rw [List.flatMap_cons, List.map_append] at h
      obtain ⟨middle, first, last, hhere, hlater, rfl⟩ := deliver_append_eq_ok.mp h
      have hcarry : (Delivery.item i).carry d g = ⟨middle, .ok first⟩ := by
        cases i with
        | line content =>
            rw [← deliver_singleton]
            exact hhere
        | message m => exact (hd g m).trans hhere
      exact deliver_cons_eq_ok.mpr ⟨middle, first, last, hcarry, ih hlater, rfl⟩

/-- Where the lines by themselves are read without a fault, the wrapped ones are, too, with
the same session, events and shown lines. -/
theorem Reading.readLines_wrapped (hd : d.ReadsByLine) {g : Gathered σ} {parts : List Part}
    (hunmarked : ∀ line ∈ parts.flatMap Part.content, Marker.ofLine? line = none)
    {stopped : Bool}
    (hfault : (readLines d ⟨none, g, none⟩ (parts.flatMap Part.content) stopped).2.fault = none) :
    let bare := readLines d ⟨none, g, none⟩ (parts.flatMap Part.content) stopped
    let wrapped := readLines d ⟨none, g, none⟩ (parts.flatMap Part.lines) stopped
    wrapped.1 = bare.1 ∧ wrapped.2.fault = none ∧ wrapped.2.events = bare.2.events ∧
      wrapped.2.echoes = bare.2.echoes := by
  obtain ⟨hshort, after, events, hbare⟩ := ok_of_readLines hfault
  have hwrapped : deliver d g (driveAll none (parts.flatMap Part.lines)) =
      ⟨after, .ok events⟩ := by
    rw [driveAll_parts hunmarked]
    refine deliver_items hd ?_
    rw [driveAll_unmarked hunmarked] at hbare
    rw [List.flatMap_map]
    exact hbare
  obtain ⟨hsession, -, hevents⟩ := readLines_of_ok hshort hbare stopped
  obtain ⟨hsession', hfault', hevents'⟩ :=
    readLines_of_ok (short_parts hunmarked) hwrapped stopped
  refine ⟨hsession'.trans hsession.symm, hfault', hevents'.trans hevents.symm, ?_⟩
  rw [echoes_readLines hfault', echoes_readLines hfault, shown_parts]

end

end TlaRunner.Protocol
