import TlaRunner.Proofs.Protocol.Chunking
import TlaRunner.Proofs.Protocol.Marker
import TlaRunner.Proofs.Result

/-!
# What the protocol hands on

A session does two things with a line.  The protocol decides, from the open message
and the line alone, what is handed on: a line, a finished message, or an anomaly
(`advance`).  The decoder of the tool reads what is handed on (`deliver`).

`feed_eq` takes a session apart into the two, for every line whose numbers can be
read, and `feedLines_of_ok` does so for every run without a fault.  What is proved of
`drive` then holds of every decoder.
-/

namespace TlaRunner.Protocol

/-- What a decoder reads. -/
inductive Item
  /-- A line outside messages. -/
  | line (content : Text)
  /-- A finished message. -/
  | message (content : Message)
  deriving DecidableEq, Repr

/-- What the protocol hands on. -/
inductive Delivery
  /-- Something for the decoder. -/
  | item (content : Item)
  /-- An anomaly of the stream. -/
  | condition (content : Condition)
  deriving DecidableEq, Repr

/-- The anomaly of a delivery. -/
def Delivery.condition? : Delivery → Option Condition
  | .item _ => none
  | .condition c => some c

/-- A line that is no marker, or one whose numbers are within the limit. -/
def ShortLine (line : Text) : Prop :=
  ∀ m ∈ Marker.ofLine? line, m.Short

instance (line : Text) : Decidable (ShortLine line) :=
  inferInstanceAs (Decidable (∀ m ∈ Marker.ofLine? line, m.Short))

/-! ## The protocol alone -/

/-- What a message becomes at an end marker. -/
def OpenMessage.closedBy (m : OpenMessage) (code : Nat) : Delivery :=
  if m.code = code then .item (.message ⟨m.code, m.subCode, m.lines⟩)
  else .condition ⟨.violation, Session.misclosed m.code code⟩

/-- What a message becomes at another start marker. -/
def OpenMessage.interruptedBy (m : OpenMessage) (code : Nat) : Delivery :=
  .condition ⟨.violation, Session.interrupted m.code code⟩

/-- What a message becomes at the end of the output. -/
def OpenMessage.cutOff (m : OpenMessage) : Delivery :=
  .condition ⟨.truncated, Session.cutOff m.code⟩

/-- The open message after a line, and what is handed on. -/
def advance (m : Option OpenMessage) (line : Text) : Option OpenMessage × Option Delivery :=
  match signOf? line with
  | some (.start code subCode) => (some ⟨code, subCode, []⟩, m.map (·.interruptedBy code))
  | some (.stop code) => (none, m.map (·.closedBy code))
  | none =>
    match m with
    | some m => (some { m with lines := m.lines ++ [line] }, none)
    | none => (none, some (.item (.line line)))

/-- The open message after lines, and what is handed on. -/
def drive (m : Option OpenMessage) : List Text → Option OpenMessage × List Delivery
  | [] => (m, [])
  | line :: lines =>
    let here := advance m line
    let later := drive here.1 lines
    (later.1, here.2.toList ++ later.2)

/-- What is handed on by lines and the end of the output behind them. -/
def driveAll (m : Option OpenMessage) (lines : List Text) : List Delivery :=
  (drive m lines).2 ++ ((drive m lines).1.map OpenMessage.cutOff).toList

theorem drive_append (m : Option OpenMessage) (a b : List Text) :
    drive m (a ++ b) =
      ((drive (drive m a).1 b).1, (drive m a).2 ++ (drive (drive m a).1 b).2) := by
  induction a generalizing m with
  | nil => rfl
  | cons line a ih =>
      rw [List.cons_append, drive, ih, drive]
      simp only [List.append_assoc]

theorem driveAll_cons (m : Option OpenMessage) (line : Text) (lines : List Text) :
    driveAll m (line :: lines) =
      (advance m line).2.toList ++ driveAll (advance m line).1 lines := by
  simp only [driveAll, drive, List.append_assoc]

/-! ## Handing on -/

variable {σ ρ : Type}

/-- Hands one delivery to a decoder. -/
def Delivery.carry (d : Decoder σ ρ) (g : Gathered σ) : Delivery → Step σ
  | .item (.line line) => d.onLine g line
  | .item (.message m) => d.onMessage g m
  | .condition c => ⟨g.note c.kind c.detail, .ok []⟩

/-- Hands deliveries to a decoder in order, up to the first fault. -/
def deliver (d : Decoder σ ρ) (g : Gathered σ) : List Delivery → Step σ
  | [] => ⟨g, .ok []⟩
  | x :: rest =>
    let here := x.carry d g
    match here.events with
    | .error fault => ⟨here.gathered, .error fault⟩
    | .ok events =>
      let later := deliver d here.gathered rest
      ⟨later.gathered, later.events.map (events ++ ·)⟩

/-- A delivery and the ones behind it were all read exactly if each part was. -/
theorem deliver_cons_eq_ok {d : Decoder σ ρ} {g after : Gathered σ} {x : Delivery}
    {rest : List Delivery} {events : List Event} :
    deliver d g (x :: rest) = ⟨after, .ok events⟩ ↔
      ∃ middle first last, x.carry d g = ⟨middle, .ok first⟩ ∧
        deliver d middle rest = ⟨after, .ok last⟩ ∧ events = first ++ last := by
  rw [deliver]
  constructor
  · intro h
    rcases hx : x.carry d g with ⟨middle, result⟩
    simp only [hx] at h
    cases result with
    | error fault => cases h
    | ok first =>
        obtain ⟨rfl, hevents⟩ := Step.mk.inj h
        obtain ⟨last, hlast, rfl⟩ := map_eq_ok_iff.mp hevents
        refine ⟨middle, first, last, rfl, ?_, rfl⟩
        rw [← hlast]
  · rintro ⟨middle, first, last, hx, hrest, rfl⟩
    simp only [hx, hrest, Except.map]

theorem deliver_append_eq_ok {d : Decoder σ ρ} {g after : Gathered σ} {a b : List Delivery}
    {events : List Event} :
    deliver d g (a ++ b) = ⟨after, .ok events⟩ ↔
      ∃ middle first last, deliver d g a = ⟨middle, .ok first⟩ ∧
        deliver d middle b = ⟨after, .ok last⟩ ∧ events = first ++ last := by
  induction a generalizing g events with
  | nil =>
      constructor
      · intro h
        exact ⟨g, [], events, rfl, h, rfl⟩
      · rintro ⟨_, _, last, hnil, h, rfl⟩
        cases hnil
        exact h
  | cons x a ih =>
      rw [List.cons_append, deliver_cons_eq_ok]
      constructor
      · rintro ⟨middle, first, _, hx, hrest, rfl⟩
        obtain ⟨middle', more, last, ha, hb, rfl⟩ := ih.mp hrest
        refine ⟨middle', first ++ more, last, ?_, hb, by rw [List.append_assoc]⟩
        exact deliver_cons_eq_ok.mpr ⟨middle, first, more, hx, ha, rfl⟩
      · rintro ⟨middle', _, last, hxa, hb, rfl⟩
        obtain ⟨middle, first, more, hx, ha, rfl⟩ := deliver_cons_eq_ok.mp hxa
        refine ⟨middle, first, more ++ last, hx, ?_, by rw [List.append_assoc]⟩
        exact ih.mpr ⟨middle', more, last, ha, hb, rfl⟩

theorem deliver_singleton (d : Decoder σ ρ) (g : Gathered σ) (x : Delivery) :
    deliver d g [x] = x.carry d g := by
  rw [deliver]
  obtain ⟨middle, result⟩ := x.carry d g
  cases result with
  | error fault => rfl
  | ok events => simp only [deliver, Except.map, List.append_nil]

/-! ## Sessions -/

/-- What is shown of a line: the text without markers, and nothing of a marker. -/
def shown (line : Text) : Option Text :=
  if (signOf? line).isSome then none else stripMarkers line

/-- A session reads a line by the protocol and the decoder one after the other. -/
theorem feed_eq (d : Decoder σ ρ) (m : Option OpenMessage) (g : Gathered σ) {line : Text}
    (hshort : ShortLine line) :
    (⟨m, g, none⟩ : Session σ ρ).feed d line =
      let step := deliver d g (advance m line).2.toList
      (⟨(advance m line).1, step.gathered, none⟩, ⟨shown line, step.events⟩) := by
  cases hline : Marker.ofLine? line with
  | none =>
      have hsign : signOf? line = none := by rw [signOf?, hline, Option.map_none]
      simp only [Session.feed, hline, advance, shown, hsign]
      cases m with
      | none => simp [deliver_singleton, Delivery.carry]
      | some m => simp [deliver]
  | some marker =>
      have hsign : signOf? line = some marker.sign := by rw [signOf?, hline, Option.map_some]
      have hread := readMarker_of_short hline (hshort marker hline)
      cases marker with
      | start code subCode =>
          simp only [Session.feed, hline, advance, shown, hsign, hread, Marker.sign, Sign.numbers]
          cases m with
          | none => simp [Session.openMessage, deliver]
          | some m =>
              simp [Session.openMessage, deliver_singleton, Delivery.carry,
                OpenMessage.interruptedBy]
      | stop code =>
          simp only [Session.feed, hline, advance, shown, hsign, hread, Marker.sign, Sign.numbers]
          cases m with
          | none => simp [Session.closeMessage, deliver]
          | some m =>
              by_cases hcode : m.code = Text.digitsValue code
              · simp [Session.closeMessage, deliver_singleton, Delivery.carry,
                  OpenMessage.closedBy, hcode]
              · simp [Session.closeMessage, deliver_singleton, Delivery.carry,
                  OpenMessage.closedBy, hcode]

/-- A line that is not short is a marker with a numeral past the limit. -/
theorem not_shortLine_iff {line : Text} :
    ¬ShortLine line ↔
      ∃ marker digits, Marker.ofLine? line = some marker ∧ marker.long? = some digits := by
  simp only [ShortLine, Option.mem_def, not_forall, ← long?_eq_none_iff, Option.ne_none_iff_exists',
    exists_prop, exists_and_left]

/-- A line whose numbers cannot be read is refused. -/
theorem feed_of_long? (d : Decoder σ ρ) (m : Option OpenMessage) (g : Gathered σ)
    {line digits : Text} {marker : Marker} (hline : Marker.ofLine? line = some marker)
    (hlong : marker.long? = some digits) :
    (⟨m, g, none⟩ : Session σ ρ).feed d line =
      (⟨m, g, none⟩, ⟨none, .error (.numeral (.tooLong digits.length))⟩) := by
  have hread := readMarker_eq hline
  rw [hlong] at hread
  simp only [Session.feed, Option.isSome_none, Bool.false_eq_true, if_false, hline, hread]

theorem feed_of_long (d : Decoder σ ρ) (m : Option OpenMessage) (g : Gathered σ) {line : Text}
    (hlong : ¬ShortLine line) :
    ∃ n, (⟨m, g, none⟩ : Session σ ρ).feed d line =
      (⟨m, g, none⟩, ⟨none, .error (.numeral (.tooLong n))⟩) := by
  obtain ⟨marker, digits, hline, hdigits⟩ := not_shortLine_iff.mp hlong
  exact ⟨digits.length, feed_of_long? d m g hline hdigits⟩

/-- A session that has not ended shows the cleaned line, unless it is a marker, and has not ended
after it. -/
theorem feed_unfinished (d : Decoder σ ρ) (m : Option OpenMessage) (g : Gathered σ) (line : Text) :
    ∃ m' g', ((⟨m, g, none⟩ : Session σ ρ).feed d line).1 = ⟨m', g', none⟩ ∧
      ((⟨m, g, none⟩ : Session σ ρ).feed d line).2.echo = shown line := by
  by_cases hshort : ShortLine line
  · rw [feed_eq d m g hshort]
    exact ⟨_, _, rfl, rfl⟩
  · obtain ⟨n, hfeed⟩ := feed_of_long d m g hshort
    rw [hfeed]
    refine ⟨m, g, rfl, ?_⟩
    obtain ⟨marker, _, hline, _⟩ := not_shortLine_iff.mp hshort
    have hmarker : (signOf? line).isSome = true := by
      rw [signOf?, hline]
      rfl
    rw [shown, if_pos hmarker]

/-! ## Runs -/

/-- The events among what was seen. -/
def Emissions.events (e : Emissions) : List Event :=
  e.seen.filterMap Emission.event?

theorem events_ofReply (echo : Option Text) (events : List Event) :
    (Emissions.ofReply ⟨echo, .ok events⟩).events = events := by
  have hecho : (echo.toList.map Emission.echo).filterMap Emission.event? = [] := by
    cases echo with
    | none => rfl
    | some line => rfl
  have hevents : (events.map Emission.event).filterMap Emission.event? = events := by
    rw [List.filterMap_map]
    exact List.filterMap_some
  rw [Emissions.events, Emissions.ofReply, List.filterMap_append, hecho, hevents, List.nil_append]

theorem events_ofEvents (events : List Event) :
    (Emissions.ofEvents (.ok events)).events = events := by
  rw [Emissions.events, Emissions.ofEvents, List.filterMap_map]
  exact List.filterMap_some

namespace Reading

/-- Lines that hand on what the decoder reads lead to what it makes of them. -/
theorem feedLines_of_ok {d : Decoder σ ρ} {m : Option OpenMessage} {g after : Gathered σ}
    {lines : List Text} {events : List Event} (hshort : ∀ line ∈ lines, ShortLine line)
    (h : deliver d g (drive m lines).2 = ⟨after, .ok events⟩) :
    (feedLines d ⟨m, g, none⟩ lines).1 = ⟨(drive m lines).1, after, none⟩ ∧
      (feedLines d ⟨m, g, none⟩ lines).2.fault = none ∧
      (feedLines d ⟨m, g, none⟩ lines).2.events = events := by
  induction lines generalizing m g events with
  | nil =>
      cases h
      exact ⟨rfl, rfl, rfl⟩
  | cons line lines ih =>
      have hline := hshort line List.mem_cons_self
      obtain ⟨middle, first, last, hhere, hlater, rfl⟩ := deliver_append_eq_ok.mp h
      obtain ⟨hsession, hfault, hevents⟩ :=
        ih (fun l hl => hshort l (List.mem_cons_of_mem _ hl)) hlater
      rw [feedLines_cons, feed_eq d m g hline, hhere, Emissions.andThen_of_ok (by rfl)]
      refine ⟨hsession, hfault, ?_⟩
      have hfirst := events_ofReply (shown line) first
      simp only [Emissions.events] at hevents hfirst ⊢
      rw [List.filterMap_append, hevents, hfirst]

/-- A run without a fault has read the numbers of every marker and all that was handed
on. -/
theorem ok_of_feedLines {d : Decoder σ ρ} {m : Option OpenMessage} {g : Gathered σ}
    {lines : List Text} (h : (feedLines d ⟨m, g, none⟩ lines).2.fault = none) :
    (∀ line ∈ lines, ShortLine line) ∧
      ∃ after events, deliver d g (drive m lines).2 = ⟨after, .ok events⟩ := by
  induction lines generalizing m g with
  | nil => exact ⟨by simp, g, [], rfl⟩
  | cons line lines ih =>
      rw [feedLines_cons] at h
      by_cases hline : ShortLine line
      · rw [feed_eq d m g hline] at h
        rcases hhere : deliver d g (advance m line).2.toList with ⟨middle, result⟩
        rw [hhere] at h
        cases result with
        | error fault => cases h
        | ok first =>
            rw [Emissions.andThen_of_ok (by rfl)] at h
            obtain ⟨hshort, after, last, hlater⟩ := ih h
            refine ⟨List.forall_mem_cons.mpr ⟨hline, hshort⟩, after, first ++ last, ?_⟩
            exact deliver_append_eq_ok.mpr ⟨middle, first, last, hhere, hlater, rfl⟩
      · obtain ⟨n, hfeed⟩ := feed_of_long d m g hline
        rw [hfeed] at h
        cases h

/-- The session that a decoder leaves behind at the end of the output. -/
def ended (d : Decoder σ ρ) (g : Gathered σ) (stopped : Bool) : Session σ ρ :=
  ⟨none, (d.onEnd g).1, some (d.report (d.onEnd g).1 stopped)⟩

/-- The events at the end of the output. -/
def lastEvents (d : Decoder σ ρ) (g : Gathered σ) (stopped : Bool) : List Event :=
  (d.onEnd g).2 ++ [.report d.tool (d.wrap (d.report (d.onEnd g).1 stopped))]

/-- The end of the output hands on the open message as cut off. -/
theorem closeLines_eq (d : Decoder σ ρ) (m : Option OpenMessage) (g : Gathered σ)
    (stopped : Bool) :
    ∃ after, deliver d g (m.map OpenMessage.cutOff).toList = ⟨after, .ok []⟩ ∧
      closeLines d stopped ⟨m, g, none⟩ =
        (ended d after stopped, .ofEvents (.ok (lastEvents d after stopped))) := by
  cases m with
  | none => exact ⟨g, rfl, rfl⟩
  | some m =>
      refine ⟨g.note .truncated (Session.cutOff m.code), ?_, rfl⟩
      rw [Option.map_some, Option.toList_some, deliver_singleton]
      rfl

/-- Lines and an end that hand on what the decoder reads lead to what it makes of
them. -/
theorem readLines_of_ok {d : Decoder σ ρ} {m : Option OpenMessage} {g after : Gathered σ}
    {lines : List Text} {events : List Event} (hshort : ∀ line ∈ lines, ShortLine line)
    (h : deliver d g (driveAll m lines) = ⟨after, .ok events⟩) (stopped : Bool) :
    (readLines d ⟨m, g, none⟩ lines stopped).1 = ended d after stopped ∧
      (readLines d ⟨m, g, none⟩ lines stopped).2.fault = none ∧
      (readLines d ⟨m, g, none⟩ lines stopped).2.events =
        events ++ lastEvents d after stopped := by
  obtain ⟨middle, first, last, hlines, hend, rfl⟩ := deliver_append_eq_ok.mp h
  obtain ⟨hsession, hfault, hevents⟩ := feedLines_of_ok hshort hlines
  obtain ⟨_, hcut, hclose⟩ := closeLines_eq d (drive m lines).1 middle stopped
  cases hend.symm.trans hcut
  rw [readLines, Emissions.andThen_of_ok hfault, hsession, hclose]
  refine ⟨rfl, rfl, ?_⟩
  have hlast := events_ofEvents (lastEvents d after stopped)
  simp only [Emissions.events] at hevents hlast ⊢
  rw [List.filterMap_append, hevents, hlast, List.append_nil]

/-- A run without a fault, its end included. -/
theorem ok_of_readLines {d : Decoder σ ρ} {m : Option OpenMessage} {g : Gathered σ}
    {lines : List Text} {stopped : Bool}
    (h : (readLines d ⟨m, g, none⟩ lines stopped).2.fault = none) :
    (∀ line ∈ lines, ShortLine line) ∧
      ∃ after events, deliver d g (driveAll m lines) = ⟨after, .ok events⟩ := by
  rw [readLines] at h
  cases hfault : (feedLines d ⟨m, g, none⟩ lines).2.fault with
  | some fault =>
      rw [Emissions.andThen_of_fault hfault, hfault] at h
      cases h
  | none =>
      obtain ⟨hshort, middle, events, hlines⟩ := ok_of_feedLines hfault
      obtain ⟨after, hcut, _⟩ := closeLines_eq d (drive m lines).1 middle stopped
      exact ⟨hshort, after, events ++ [], deliver_append_eq_ok.mpr
        ⟨middle, events, [], hlines, hcut, rfl⟩⟩

end Reading

/-! ## Anomalies -/

/-- A decoder that leaves the anomalies to the protocol. -/
structure Decoder.KeepsConditions (d : Decoder σ ρ) : Prop where
  /-- It notes none on a line that it reads. -/
  onLine : ∀ {g after line events}, d.onLine g line = ⟨after, .ok events⟩ →
    after.conditions = g.conditions
  /-- It notes none on a message that it reads. -/
  onMessage : ∀ {g after m events}, d.onMessage g m = ⟨after, .ok events⟩ →
    after.conditions = g.conditions
  /-- It notes none at the end. -/
  onEnd : ∀ g, (d.onEnd g).1.conditions = g.conditions

/-- The anomalies of a run are those that the protocol handed on. -/
theorem conditions_of_deliver {d : Decoder σ ρ} (hd : d.KeepsConditions) {g after : Gathered σ}
    {xs : List Delivery} {events : List Event} (h : deliver d g xs = ⟨after, .ok events⟩) :
    after.conditions = g.conditions ++ xs.filterMap Delivery.condition? := by
  induction xs generalizing g events with
  | nil =>
      cases h
      rw [List.filterMap_nil, List.append_nil]
  | cons x xs ih =>
      obtain ⟨middle, first, last, hx, hxs, _⟩ := deliver_cons_eq_ok.mp h
      rw [ih hxs]
      cases x with
      | item i =>
          have hmiddle : middle.conditions = g.conditions := by
            cases i with
            | line line => exact hd.onLine hx
            | message m => exact hd.onMessage hx
          rw [hmiddle, List.filterMap_cons_none rfl]
      | condition c =>
          have hc : (Delivery.condition c).condition? = some c := rfl
          cases hx
          rw [List.filterMap_cons_some hc, Gathered.note, List.append_assoc]
          rfl

end TlaRunner.Protocol
