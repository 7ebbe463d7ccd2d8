import TlaRunner.Proofs.Protocol.Findings

/-!
# Which markers belong together

What becomes of a line can be said without an open message.  A line that starts a
message is settled by the next marker behind it: an end marker of its own code
delivers the message with the lines between the two, any other marker makes it a
violation, and without a marker behind it the output was cut off.  A line without a
marker is handed on if the last marker before it, if any, is an end.

`fate` says this of one line between the lines before and the lines behind it, and
`fates` lists it for every line.  `driveAll_eq` shows that the protocol hands on
exactly that, and the last section that a run is nothing else.
-/

namespace TlaRunner.Protocol

/-! ## Lines among lines -/

/-- The last marker of lines. -/
def lastSign (before : List Text) : Option Sign :=
  (before.filterMap signOf?).getLast?

/-- The first marker of lines. -/
def nextSign (after : List Text) : Option Sign :=
  (after.filterMap signOf?).head?

/-- The lines before the first marker. -/
def bodyOf (after : List Text) : List Text :=
  after.takeWhile fun line => (signOf? line).isNone

/-- Whether a marker starts a message. -/
def Sign.isStart : Sign → Bool
  | .start .. => true
  | .stop _ => false

/-- Whether a line behind these is outside messages. -/
def outside (before : List Text) : Bool :=
  !(lastSign before).any Sign.isStart

/-- What becomes of a message that is open before lines. -/
def OpenMessage.settled (m : OpenMessage) (after : List Text) : Delivery :=
  match nextSign after with
  | some (.stop code) => { m with lines := m.lines ++ bodyOf after }.closedBy code
  | some (.start code _) => m.interruptedBy code
  | none => m.cutOff

/-- What becomes of a line between others. -/
def fate (before : List Text) (line : Text) (after : List Text) : Option Delivery :=
  match signOf? line with
  | some (.start code subCode) => some (OpenMessage.settled ⟨code, subCode, []⟩ after)
  | some (.stop _) => none
  | none => if outside before then some (.item (.line line)) else none

/-- What becomes of lines that stand behind others. -/
def fates (before : List Text) : List Text → List Delivery
  | [] => []
  | line :: after => (fate before line after).toList ++ fates (before ++ [line]) after

theorem lastSign_of_none {before : List Text} {line : Text} (h : signOf? line = none) :
    lastSign (before ++ [line]) = lastSign before := by
  rw [lastSign, List.filterMap_append, List.filterMap_cons_none h, List.filterMap_nil,
    List.append_nil]
  rfl

theorem lastSign_of_some {before : List Text} {line : Text} {sign : Sign}
    (h : signOf? line = some sign) : lastSign (before ++ [line]) = some sign := by
  rw [lastSign, List.filterMap_append, List.filterMap_cons_some h, List.filterMap_nil,
    List.getLast?_concat]

theorem nextSign_of_none {line : Text} {after : List Text} (h : signOf? line = none) :
    nextSign (line :: after) = nextSign after := by
  rw [nextSign, List.filterMap_cons_none h]
  rfl

theorem nextSign_of_some {line : Text} {after : List Text} {sign : Sign}
    (h : signOf? line = some sign) : nextSign (line :: after) = some sign := by
  rw [nextSign, List.filterMap_cons_some h, List.head?_cons]

theorem bodyOf_of_none {line : Text} {after : List Text} (h : signOf? line = none) :
    bodyOf (line :: after) = line :: bodyOf after := by
  rw [bodyOf, List.takeWhile_cons_of_pos (by rw [h]; rfl)]
  rfl

theorem bodyOf_of_some {line : Text} {after : List Text} {sign : Sign}
    (h : signOf? line = some sign) : bodyOf (line :: after) = [] := by
  rw [bodyOf, List.takeWhile_cons_of_neg (by rw [h]; exact Bool.false_ne_true)]

theorem settled_of_none (m : OpenMessage) {line : Text} {after : List Text}
    (h : signOf? line = none) :
    m.settled (line :: after) = { m with lines := m.lines ++ [line] }.settled after := by
  rw [OpenMessage.settled, OpenMessage.settled, nextSign_of_none h, bodyOf_of_none h]
  cases nextSign after with
  | none => rfl
  | some sign =>
      cases sign with
      | start code subCode => rfl
      | stop code => simp only [List.append_assoc, List.singleton_append]

theorem settled_of_start (m : OpenMessage) {line : Text} {after : List Text} {code : Nat}
    {subCode : Option Nat} (h : signOf? line = some (.start code subCode)) :
    m.settled (line :: after) = m.interruptedBy code := by
  rw [OpenMessage.settled, nextSign_of_some h]

theorem settled_of_stop (m : OpenMessage) {line : Text} {after : List Text} {code : Nat}
    (h : signOf? line = some (.stop code)) :
    m.settled (line :: after) = m.closedBy code := by
  rw [OpenMessage.settled, nextSign_of_some h]
  simp only [bodyOf_of_some h, List.append_nil]

/-! ## The protocol and the fates -/

/-- A message is open exactly where a line is not outside messages. -/
theorem outside_concat {m : Option OpenMessage} {before : List Text}
    (hopen : outside before = m.isNone) (line : Text) :
    outside (before ++ [line]) = (advance m line).1.isNone := by
  rw [outside]
  cases hsign : signOf? line with
  | none =>
      rw [lastSign_of_none hsign, ← outside, hopen]
      cases m with
      | none => simp only [advance, hsign]
      | some m => simp only [advance, hsign, Option.isNone_some]
  | some sign =>
      rw [lastSign_of_some hsign]
      cases sign with
      | start code subCode => simp only [advance, hsign, Option.isNone_some]; rfl
      | stop code => simp only [advance, hsign]; rfl

theorem outside_append {m : Option OpenMessage} {before : List Text}
    (hopen : outside before = m.isNone) (lines : List Text) :
    outside (before ++ lines) = (drive m lines).1.isNone := by
  induction lines generalizing m before with
  | nil => rw [List.append_nil, hopen, drive]
  | cons line after ih =>
      rw [List.append_cons, drive]
      exact ih (outside_concat hopen line)

/-- What is handed on at a line, and what becomes of the message that is open behind
it, are what becomes of the message that was open and of the line. -/
theorem advance_settled {m : Option OpenMessage} {before : List Text}
    (hopen : outside before = m.isNone) (line : Text) (after : List Text) :
    (advance m line).2.toList ++ ((advance m line).1.map (·.settled after)).toList =
      (m.map (·.settled (line :: after))).toList ++ (fate before line after).toList := by
  rw [fate]
  cases hsign : signOf? line with
  | none =>
      simp only [advance, hsign, hopen]
      cases m with
      | none => rfl
      | some m =>
          rw [Option.map_some, Option.map_some, settled_of_none m hsign]
          rfl
  | some sign =>
      cases sign with
      | start code subCode =>
          simp only [advance, hsign]
          cases m with
          | none => rfl
          | some m =>
              rw [Option.map_some, Option.map_some, Option.map_some, settled_of_start m hsign]
      | stop code =>
          simp only [advance, hsign]
          cases m with
          | none => rfl
          | some m =>
              rw [Option.map_some, Option.map_some, settled_of_stop m hsign]
              rfl

/-- The protocol hands on what becomes of the open message, and then what becomes of
the lines. -/
theorem driveAll_eq {m : Option OpenMessage} {before : List Text}
    (hopen : outside before = m.isNone) (lines : List Text) :
    driveAll m lines = (m.map (·.settled lines)).toList ++ fates before lines := by
  induction lines generalizing m before with
  | nil =>
      rw [fates, List.append_nil]
      rfl
  | cons line after ih =>
      rw [driveAll_cons, ih (outside_concat hopen line), fates, ← List.append_assoc,
        advance_settled hopen line after, List.append_assoc]

/-! ## Accounting -/

/-- Whether a line starts a message. -/
def startsMessage (line : Text) : Bool :=
  (signOf? line).any Sign.isStart

/-- Whether a delivery says what became of a message. -/
def Delivery.settles : Delivery → Bool
  | .item (.line _) => false
  | .item (.message _) => true
  | .condition _ => true

theorem settles_settled (m : OpenMessage) (after : List Text) :
    (m.settled after).settles = true := by
  rw [OpenMessage.settled]
  split
  next code _ =>
    rw [OpenMessage.closedBy]
    split
    · rfl
    · rfl
  · rfl
  · rfl

/-- Each line that starts a message is accounted for once. -/
theorem countP_fates (before lines : List Text) :
    (fates before lines).countP Delivery.settles = lines.countP startsMessage := by
  induction lines generalizing before with
  | nil => rfl
  | cons line after ih =>
      rw [fates, List.countP_append, ih, List.countP_cons, Nat.add_comm, fate, startsMessage]
      congr 1
      cases signOf? line with
      | none =>
          cases outside before with
          | true => rfl
          | false => rfl
      | some sign =>
          cases sign with
          | start code subCode =>
              simp [Option.toList, settles_settled, Sign.isStart]
          | stop code => rfl

theorem violation_of_advance {m : Option OpenMessage} {line : Text} {c : Condition}
    (h : (advance m line).2 = some (.condition c)) : c.kind = .violation := by
  cases hsign : signOf? line with
  | none =>
      simp only [advance, hsign] at h
      cases m with
      | none => cases h
      | some m => cases h
  | some sign =>
      cases sign with
      | start code subCode =>
          simp only [advance, hsign] at h
          obtain ⟨m, _, hm⟩ := Option.map_eq_some_iff.mp h
          cases hm
          rfl
      | stop code =>
          simp only [advance, hsign] at h
          obtain ⟨m, _, hm⟩ := Option.map_eq_some_iff.mp h
          rw [OpenMessage.closedBy] at hm
          split at hm
          · cases hm
          · cases hm
            rfl

/-- No anomaly before the end of the output says that it was cut off. -/
theorem violation_of_drive {m : Option OpenMessage} {lines : List Text} {c : Condition}
    (h : .condition c ∈ (drive m lines).2) : c.kind = .violation := by
  induction lines generalizing m with
  | nil => cases h
  | cons line after ih =>
      rw [drive, List.mem_append, Option.mem_toList] at h
      rcases h with h | h
      · exact violation_of_advance h
      · exact ih h

/-- Nothing is handed on behind the anomaly of an output that was cut off. -/
theorem truncated_last {m : Option OpenMessage} {lines : List Text} {xs ys : List Delivery}
    {c : Condition} (h : driveAll m lines = xs ++ .condition c :: ys)
    (hc : c.kind = .truncated) : ys = [] := by
  have hlate : .condition c ∉ (drive m lines).2 := fun hmem => by
    rw [violation_of_drive hmem] at hc
    cases hc
  have hone : ((drive m lines).1.map OpenMessage.cutOff).toList.length ≤ 1 :=
    Option.length_toList_le
  rcases List.append_eq_append_iff.mp h with ⟨as, _, hlast⟩ | ⟨bs, hxs, hlast⟩
  · rw [hlast, List.length_append, List.length_cons] at hone
    exact List.length_eq_zero_iff.mp (by omega)
  · cases bs with
    | nil =>
        rw [← List.nil_append (Option.toList _), ← hlast, List.length_cons] at hone
        exact List.length_eq_zero_iff.mp (by omega)
    | cons b bs =>
        cases hlast
        refine absurd ?_ hlate
        rw [hxs]
        exact List.mem_append_right _ List.mem_cons_self

/-! ## Runs -/

namespace Reading

variable {σ ρ : Type} {d : Decoder σ ρ} {g : Gathered σ}

/-- An end marker outside messages changes nothing. -/
theorem readLines_stray {before : List Text} {line : Text} {code : Nat}
    (hout : outside before = true) (hsign : signOf? line = some (.stop code))
    (hshort : ShortLine line) (later : List Text) (stopped : Bool) :
    readLines d (.start g) (before ++ line :: later) stopped =
      readLines d (.start g) (before ++ later) stopped := by
  have hstart : outside [] = (none : Option OpenMessage).isNone := rfl
  have hnone : (drive none before).1 = none :=
    Option.isNone_iff_eq_none.mp ((outside_append hstart before).symm.trans hout)
  rw [readLines_append, readLines_append]
  cases hfault : (feedLines d (.start g) before).2.fault with
  | some fault => rw [Emissions.andThen_of_fault hfault, Emissions.andThen_of_fault hfault]
  | none =>
      obtain ⟨hbefore, middle, events, hread⟩ := ok_of_feedLines hfault
      obtain ⟨hsession, _, _⟩ := feedLines_of_ok hbefore hread
      have hline : (⟨none, middle, none⟩ : Session σ ρ).feed d line =
          (⟨none, middle, none⟩, ⟨none, .ok []⟩) := by
        rw [feed_eq d none middle hshort]
        simp only [advance, shown, hsign]
        rfl
      rw [Emissions.andThen_of_ok hfault, Emissions.andThen_of_ok hfault, Session.start,
        hsession, hnone, readLines, readLines, feedLines_cons, hline]
      rfl

/-- A run without a fault hands on what becomes of each line, and then ends. -/
theorem fates_of_readLines {lines : List Text} {stopped : Bool}
    (hrun : (readLines d (.start g) lines stopped).2.fault = none) :
    ∃ after events, deliver d g (fates [] lines) = ⟨after, .ok events⟩ ∧
      (readLines d (.start g) lines stopped).1 = ended d after stopped ∧
      (readLines d (.start g) lines stopped).2.events =
        events ++ lastEvents d after stopped := by
  obtain ⟨hshort, after, events, hread⟩ := ok_of_readLines hrun
  obtain ⟨hsession, _, hevents⟩ := readLines_of_ok hshort hread stopped
  have hstart : outside [] = (none : Option OpenMessage).isNone := rfl
  have hdrive : driveAll none lines = fates [] lines := driveAll_eq hstart lines
  exact ⟨after, events, hdrive ▸ hread, hsession, hevents⟩

/-- A run of lines hands on what becomes of each, in order, and then ends.  Its
anomalies are those of messages that were not closed; each message that was started is
accounted for once, one that was cut off is the last, and end markers outside messages
change nothing. -/
theorem readLines_fates {after : Gathered σ} {lines : List Text} {events : List Event}
    (hshort : ∀ line ∈ lines, ShortLine line)
    (hread : deliver d g (fates [] lines) = ⟨after, .ok events⟩) (stopped : Bool) :
    ((readLines d (.start g) lines stopped).1 = ended d after stopped ∧
      (readLines d (.start g) lines stopped).2.fault = none ∧
      (readLines d (.start g) lines stopped).2.events =
        events ++ lastEvents d after stopped) ∧
    (d.KeepsConditions →
      (readLines d (.start g) lines stopped).1.gathered.conditions =
        g.conditions ++ (fates [] lines).filterMap Delivery.condition?) ∧
    (fates [] lines).countP Delivery.settles = lines.countP startsMessage ∧
    (∀ xs c ys, fates [] lines = xs ++ .condition c :: ys → c.kind = .truncated → ys = []) ∧
    ∀ before line later code, lines = before ++ line :: later → outside before = true →
      signOf? line = some (.stop code) →
        readLines d (.start g) lines stopped =
          readLines d (.start g) (before ++ later) stopped := by
  have hstart : outside [] = (none : Option OpenMessage).isNone := rfl
  have hdrive : driveAll none lines = fates [] lines := driveAll_eq hstart lines
  have hrun := readLines_of_ok hshort (hdrive ▸ hread) stopped
  refine ⟨hrun, fun hkeeps => ?_, countP_fates [] lines, fun xs c ys hsplit hc => ?_,
    fun before line later code hsplit hout hsign => ?_⟩
  · have hafter := conditions_of_deliver hkeeps hread
    have hsession : readLines d (.start g) lines stopped =
        (ended d after stopped, (readLines d (.start g) lines stopped).2) :=
      Prod.ext hrun.1 rfl
    rw [hsession, ← hafter]
    exact hkeeps.onEnd after
  · exact truncated_last (hdrive.trans hsplit) hc
  · rw [hsplit]
    refine readLines_stray hout hsign (hshort line ?_) later stopped
    rw [hsplit]
    exact List.mem_append_right _ List.mem_cons_self

/-- Lines with a stray end, a start inside a message, a foreign end and no end. -/
def entangled : List Text :=
  ["free".toList, (Sign.stop 7).line, (Sign.start 1 none).line, "lost".toList,
    (Sign.start 2 (some 3)).line, "a".toList, [], (Sign.stop 2).line,
    (Sign.start 4 none).line, (Sign.stop 5).line, (Sign.start 6 none).line, "late".toList]

theorem readLines_fates_entangled :
    let run := readLines Plain.decoder Plain.session entangled false
    let anomalies : List Condition :=
      [⟨.violation, Session.interrupted 1 2⟩, ⟨.violation, Session.misclosed 4 5⟩,
        ⟨.truncated, Session.cutOff 6⟩]
    run.2.fault = none ∧
      run.2.events =
        [.progress Plain.tool (Plain.spell ⟨2, some 3, ["a".toList, []]⟩) none,
          .report Plain.tool (.parse ⟨Plain.tool, [], [], anomalies⟩)] ∧
      run.1.gathered.conditions = anomalies := by
  have hshort : ∀ line ∈ entangled, ShortLine line := by decide
  obtain ⟨⟨_, hfault, hevents⟩, hconditions, _⟩ :=
    readLines_fates (d := Plain.decoder) (g := ⟨(), .empty, []⟩) hshort rfl false
  exact ⟨hfault, hevents, hconditions Plain.announces.keepsConditions⟩

end Reading

end TlaRunner.Protocol
