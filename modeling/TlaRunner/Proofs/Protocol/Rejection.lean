import TlaRunner.Proofs.Protocol.Delivery

/-!
# Refused calls

A session is fed lines and closed, in any order (`Call`).  Apart from a decoder that `Objects` to
what is handed on to it, there are two reasons to refuse a call (`Refused`): the output has ended,
or the line is a marker with a numeral past the limit.

A call that is refused for one of these two reasons leaves no trace (`refused_leaves`): whether
the output has ended is looked at first, and all numerals of a marker are read before anything is
changed or shown.
-/

namespace TlaRunner.Protocol.Session

variable {σ ρ : Type}

/-- What a session is asked to do. -/
inductive Call
  /-- To read a line. -/
  | feed (line : Text)
  /-- To end the output. -/
  | close (stopped : Bool)
  deriving DecidableEq, Repr

/-- Answers a call.  Nothing is shown when the output ends. -/
def answer (d : Decoder σ ρ) (s : Session σ ρ) : Call → Session σ ρ × Reply
  | .feed line => s.feed d line
  | .close stopped => ((s.close d stopped).1, ⟨none, (s.close d stopped).2⟩)

/-- Answers calls one after the other, whether they are refused or not. -/
def answers (d : Decoder σ ρ) (s : Session σ ρ) : List Call → Session σ ρ × List Reply
  | [] => (s, [])
  | c :: calls =>
    let here := s.answer d c
    let later := answers d here.1 calls
    (later.1, here.2 :: later.2)

/-- Whether the output ends in some calls. -/
def Ended (calls : List Call) : Prop :=
  ∃ stopped, .close stopped ∈ calls

/-- Why a session refuses a call behind others. -/
inductive Refused (d : Decoder σ ρ) (before : List Call) : Call → Fault → Prop
  /-- The output has ended. -/
  | finished {c : Call} (h : Ended before) : Refused d before c (.finished d.tool)
  /-- The line is a marker, and a numeral of it is past the limit. -/
  | tooLong {line digits : Text} {marker : Marker} (h : ¬Ended before)
      (hwritten : marker.Written (Text.strip line)) (hlong : marker.long? = some digits) :
      Refused d before (.feed line) (.numeral (.tooLong digits.length))

/-- What a line hands on to the decoder. -/
inductive Hands : Option OpenMessage → Text → Item → Prop
  /-- The line itself, outside messages. -/
  | line {line : Text} (hplain : ∀ marker : Marker, ¬marker.Written (Text.strip line)) :
      Hands none line (.line line)
  /-- The message that the line ends. -/
  | message {m : OpenMessage} {line code : Text}
      (hwritten : (Marker.stop code).Written (Text.strip line))
      (hcode : m.code = Text.digitsValue code) :
      Hands (some m) line (.message ⟨m.code, m.subCode, m.lines⟩)

/-- Why a decoder refuses what a call hands on to it. -/
inductive Objects (d : Decoder σ ρ) (s : Session σ ρ) : Call → Fault → Prop
  /-- The line hands on something that the decoder cannot read. -/
  | intro {line : Text} {item : Item} {fault : Fault} (hresult : s.result = none)
      (hshort : ShortLine line) (hitem : Hands s.message line item)
      (h : (Delivery.carry d s.gathered (.item item)).events = .error fault) :
      Objects d s (.feed line) fault

/-! ## Reasons to refuse a call -/

/-- What is handed on to a decoder is what the protocol says. -/
theorem advance_eq_item_iff {m : Option OpenMessage} {line : Text} {item : Item} :
    (advance m line).2 = some (.item item) ↔ Hands m line item := by
  constructor
  · intro h
    cases hline : Marker.ofLine? line with
    | none =>
        have hsign : signOf? line = none := by rw [signOf?, hline, Option.map_none]
        simp only [advance, hsign] at h
        cases m with
        | none =>
            cases h
            exact .line fun marker hwritten => by
              rw [ofLine?_eq_some_iff.mpr hwritten] at hline
              cases hline
        | some m => cases h
    | some marker =>
        have hsign : signOf? line = some marker.sign := by rw [signOf?, hline, Option.map_some]
        cases marker with
        | start code subCode =>
            simp only [advance, hsign, Marker.sign] at h
            obtain ⟨m, rfl, hcondition⟩ := Option.map_eq_some_iff.mp h
            cases hcondition
        | stop code =>
            simp only [advance, hsign, Marker.sign] at h
            obtain ⟨m, rfl, hclosed⟩ := Option.map_eq_some_iff.mp h
            rw [OpenMessage.closedBy] at hclosed
            split at hclosed
            next hcode =>
              cases hclosed
              exact .message (ofLine?_eq_some_iff.mp hline) hcode
            next => cases hclosed
  · rintro (hplain | ⟨hwritten, hcode⟩)
    · have hline : Marker.ofLine? line = none :=
        Option.eq_none_iff_forall_ne_some.mpr fun marker hline =>
          hplain marker (ofLine?_eq_some_iff.mp hline)
      have hsign : signOf? line = none := by rw [signOf?, hline, Option.map_none]
      simp only [advance, hsign]
    · have hline := ofLine?_eq_some_iff.mpr hwritten
      simp only [advance, signOf?, hline, Option.map_some, Marker.sign, OpenMessage.closedBy,
        if_pos hcode]

/-- Of what is handed on, a decoder refuses items alone. -/
theorem deliver_eq_error_iff {d : Decoder σ ρ} {g : Gathered σ} {x : Option Delivery}
    {fault : Fault} :
    (deliver d g x.toList).events = .error fault ↔
      ∃ item, x = some (.item item) ∧ (Delivery.carry d g (.item item)).events = .error fault := by
  cases x with
  | none =>
      constructor
      · intro h
        cases h
      · rintro ⟨item, hnone, -⟩
        cases hnone
  | some x =>
      rw [Option.toList_some, deliver_singleton]
      cases x with
      | item item =>
          constructor
          · exact fun h => ⟨item, rfl, h⟩
          · rintro ⟨other, hother, h⟩
            cases hother
            exact h
      | condition c =>
          constructor
          · intro h
            cases h
          · rintro ⟨item, hitem, -⟩
            cases hitem

/-- Once no numeral is past the limit, it is the decoder alone that refuses a line. -/
theorem feed_eq_error_iff {d : Decoder σ ρ} {s : Session σ ρ} (hresult : s.result = none)
    {line : Text} (hshort : ShortLine line) {fault : Fault} :
    (s.feed d line).2.events = .error fault ↔ Objects d s (.feed line) fault := by
  obtain ⟨m, g, result⟩ := s
  obtain rfl : result = none := hresult
  rw [feed_eq d m g hshort, deliver_eq_error_iff]
  constructor
  · rintro ⟨item, hitem, h⟩
    exact .intro rfl hshort (advance_eq_item_iff.mp hitem) h
  · rintro ⟨-, -, hitem, h⟩
    exact ⟨_, advance_eq_item_iff.mpr hitem, h⟩

/-! ## Refused calls -/

theorem answer_of_result {d : Decoder σ ρ} {s : Session σ ρ} (h : s.result.isSome = true)
    (c : Call) : s.answer d c = (s, ⟨none, .error (.finished d.tool)⟩) := by
  cases c with
  | feed line => rw [answer, feed, if_pos h]
  | close stopped => rw [answer, close, if_pos h]

/-- It is the end of the output that gives a session its result. -/
theorem isSome_result_answer {d : Decoder σ ρ} {s : Session σ ρ} {c : Call} :
    (s.answer d c).1.result.isSome = true ↔
      s.result.isSome = true ∨ ∃ stopped, .close stopped = c := by
  by_cases hresult : s.result.isSome = true
  · rw [answer_of_result hresult]
    exact ⟨Or.inl, fun _ => hresult⟩
  · rw [or_iff_right hresult]
    cases c with
    | feed line =>
        obtain ⟨m, g, result⟩ := s
        obtain rfl : result = none := Option.not_isSome_iff_eq_none.mp hresult
        obtain ⟨m', g', hnext, -⟩ := feed_unfinished d m g line
        rw [answer, hnext]
        constructor
        · intro h
          cases h
        · rintro ⟨stopped, h⟩
          cases h
    | close stopped =>
        rw [answer, close, if_neg hresult]
        exact ⟨fun _ => ⟨stopped, rfl⟩, fun _ => rfl⟩

/-- A session has its result once the output has ended. -/
theorem isSome_result_answers {d : Decoder σ ρ} {s : Session σ ρ} {calls : List Call} :
    (s.answers d calls).1.result.isSome = true ↔ s.result.isSome = true ∨ Ended calls := by
  induction calls generalizing s with
  | nil => exact ⟨Or.inl, fun h => h.resolve_right fun ⟨_, hmem⟩ => by cases hmem⟩
  | cons c calls ih =>
      rw [answers]
      simp only [ih, isSome_result_answer, Ended, List.mem_cons, exists_or, or_assoc]

section

variable {d : Decoder σ ρ} {s : Session σ ρ} {before : List Call}

/-- A refused call is answered with its fault alone. -/
theorem Refused.answer_eq (hended : s.result.isSome = true ↔ Ended before) {c : Call}
    {fault : Fault} (h : Refused d before c fault) :
    s.answer d c = (s, ⟨none, .error fault⟩) := by
  cases h with
  | finished hend => exact answer_of_result (hended.mpr hend) c
  | tooLong hend hwritten hlong =>
      obtain ⟨m, g, result⟩ := s
      obtain rfl : result = none := Option.not_isSome_iff_eq_none.mp (mt hended.mp hend)
      exact feed_of_long? d m g (ofLine?_eq_some_iff.mpr hwritten) hlong

/-- There are no other reasons to refuse a call. -/
theorem refused_or_objects (hended : s.result.isSome = true ↔ Ended before) {c : Call}
    {fault : Fault} (h : (s.answer d c).2.events = .error fault) :
    Refused d before c fault ∨ Objects d s c fault := by
  by_cases hend : Ended before
  · rw [answer_of_result (hended.mpr hend)] at h
    cases h
    exact Or.inl (.finished hend)
  · have hresult : s.result = none := Option.not_isSome_iff_eq_none.mp (mt hended.mp hend)
    cases c with
    | feed line =>
        by_cases hshort : ShortLine line
        · exact Or.inr ((feed_eq_error_iff hresult hshort).mp h)
        · obtain ⟨marker, digits, hline, hlong⟩ := not_shortLine_iff.mp hshort
          obtain ⟨m, g, result⟩ := s
          obtain rfl : result = none := hresult
          rw [answer, feed_of_long? d m g hline hlong] at h
          cases h
          exact Or.inl (.tooLong hend (ofLine?_eq_some_iff.mp hline) hlong)
    | close stopped =>
        rw [answer, close, if_neg (mt hended.mp hend)] at h
        cases h

end

/-- From the start a session has answered calls.  It refuses the next one exactly if the output
has ended, if the line is a marker with a numeral past the limit, or if the decoder refuses what
is handed on.  In the first two cases the session stays what it was and shows nothing, and later
calls are answered as they would be without the refused one. -/
theorem refused_leaves (d : Decoder σ ρ) (g : Gathered σ) (before : List Call) :
    let s := ((start g : Session σ ρ).answers d before).1
    (∀ c fault, (s.answer d c).2.events = .error fault ↔
      Refused d before c fault ∨ Objects d s c fault) ∧
    ∀ c fault, Refused d before c fault →
      s.answer d c = (s, ⟨none, .error fault⟩) ∧
      ∀ later, s.answers d (c :: later) =
        ((s.answers d later).1, ⟨none, .error fault⟩ :: (s.answers d later).2) := by
  intro s
  have hended : s.result.isSome = true ↔ Ended before := by
    rw [isSome_result_answers, or_iff_right]
    exact Bool.false_ne_true
  refine ⟨fun c fault => ⟨refused_or_objects hended, ?_⟩, fun c fault h => ?_⟩
  · rintro (hrefused | hobjects)
    · rw [hrefused.answer_eq hended]
    · obtain ⟨hresult, hshort, hitem, hcarry⟩ := hobjects
      exact (feed_eq_error_iff hresult hshort).mpr (.intro hresult hshort hitem hcarry)
  · have hanswer := h.answer_eq hended
    exact ⟨hanswer, fun later => by rw [answers, hanswer]⟩

end TlaRunner.Protocol.Session
