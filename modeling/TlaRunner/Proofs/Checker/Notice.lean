import TlaRunner.Proofs.Checker.Tally

/-!
# Notices of the model checker

A `Notice` is a message by what it is meant to say: an error, a warning, a state of the error
trace, or none of them.  `Notice.message` is how it is printed, and the codes and classes of
notices are such that each is read by its own role (`Notice.Proper`).

Each notice enters what it says and nothing else (`tally_notice`), so a run of notices in any
order is read back as what they say (`report_of_notices`).
-/

namespace TlaRunner.Checker

open Text (Scan)
open Protocol (Gathered Event Message Item Delivery Marker deliver)

/-! ## Notices -/

/-- What a message is meant to say. -/
inductive Notice
  /-- An error, or a bug of the tool. -/
  | error (code : Nat) (toolBug : Bool) (lines : List Text)
  /-- A warning. -/
  | warning (code : Nat) (lines : List Text)
  /-- A state of the error trace. -/
  | traceState (number : Nat) (title : Text) (assignments : List Text)
  /-- Something else. -/
  | other (code : Nat) (lines : List Text)
  deriving DecidableEq, Repr

namespace Notice

/-- The line over a state of the error trace. -/
def titleLine (number : Nat) (title : Text) : Text :=
  Text.ofNat number ++ (": ".toList ++ title)

/-- The message that says it. -/
def message : Notice → Message
  | .error code toolBug lines => ⟨code, some (if toolBug then 2 else 1), lines⟩
  | .warning code lines => ⟨code, some 3, lines⟩
  | .traceState number title assignments => ⟨2217, some 4, titleLine number title :: assignments⟩
  | .other code lines => ⟨code, some 0, lines⟩

/-- What tells a notice from notices of another kind. -/
def Proper : Notice → Prop
  | .error code _ _ => code ∉ [2219, 2220]
  | .warning code _ => code ∉ [2219, 2220, 1000, 2110, 2114, 2121]
  | .traceState _ title assignments =>
    (title ≠ [] ∧ '\n' ∉ title ∧ title.getLast?.any Text.isBlank = false) ∧
      ∀ line ∈ assignments, Text.strip line ≠ []
  | .other code _ => code ∉ [1000, 2110, 2114, 2121, 2217, 2218]

instance (n : Notice) : Decidable n.Proper :=
  match n with
  | .error .. => inferInstanceAs (Decidable (_ ∉ _))
  | .warning .. => inferInstanceAs (Decidable (_ ∉ _))
  | .traceState .. => inferInstanceAs (Decidable (_ ∧ _))
  | .other .. => inferInstanceAs (Decidable (_ ∉ _))

/-- The error that it reports. -/
def error? : Notice → Option ErrorInfo
  | .error code _ lines => some ⟨code, filledLines lines⟩
  | _ => none

/-- The warning that it gives. -/
def warning? : Notice → Option Text
  | .warning _ lines => some (Text.join ['\n'] lines)
  | _ => none

/-- The state of the error trace that it shows. -/
def state? : Notice → Option TraceState
  | .traceState number title assignments => some ⟨number, title, assignments⟩
  | _ => none

/-- Its lines with its markers. -/
def lines (n : Notice) : List Text :=
  (Item.message n.message).lines

end Notice

/-! ## The title of a state -/

open Notice (titleLine)

theorem strip_titleLine (number : Nat) {title : Text} (hne : title ≠ [])
    (hback : title.getLast?.any Text.isBlank = false) :
    Text.strip (titleLine number title) = titleLine number title := by
  refine Text.strip_eq_self (fun c hc => ?_) ?_
  · rw [titleLine, List.head?_append_of_ne_nil _ (Text.isNumeral_ofNat number).1] at hc
    exact Text.isBlank_of_isDigit ((Text.isNumeral_ofNat number).2 c (List.mem_of_mem_head? hc))
  · rw [titleLine, List.getLast?_append_of_ne_nil _ (List.append_ne_nil_of_right_ne_nil _ hne),
      List.getLast?_append_of_ne_nil _ hne]
    exact (Option.any_eq_false _ _).mp hback

/-- A title is read as it is written. -/
theorem traceTitle_titleLine (number : Nat) {title : Text} (hline : '\n' ∉ title) :
    Scan.front traceTitle (titleLine number title) = some (Text.ofNat number, title) := by
  have hcolon : ∀ c ∈ (": ".toList ++ title).head?, Text.isDigit c = false := by
    intro c hc
    cases hc
    decide
  have htitle : Scan.many (· ≠ '\n') title = some (title, []) := by
    have hrun : Scan.many (· ≠ '\n') (title ++ []) = some (title, []) :=
      Scan.many_append (fun c hc => decide_eq_true fun heq => hline (heq ▸ hc))
        (fun c hc => by cases hc)
    rw [List.append_nil] at hrun
    exact hrun
  rw [Scan.front, titleLine, traceTitle, Scan.bind_apply,
    Protocol.digits_ofNat_append number hcolon, Option.bind_some, Scan.bind_apply,
    Scan.literal_append, Option.bind_some, Scan.bind_apply, htitle]
  rfl

theorem filledLines_eq_self {lines : List Text} (h : ∀ line ∈ lines, Text.strip line ≠ []) :
    filledLines lines = lines :=
  List.filter_eq_self.mpr fun line hline => by simp [h line hline]

/-- A state whose number is within the limit is read back. -/
theorem traceState?_message {number : Nat} {title : Text} {assignments : List Text}
    (h : (Notice.traceState number title assignments).Proper)
    (hshort : (Text.ofNat number).length ≤ Text.digitLimit) :
    traceState? (Notice.traceState number title assignments).message =
      some ⟨number, title, assignments⟩ := by
  obtain ⟨⟨hne, hline, hback⟩, hfilled⟩ := h
  have hread := Protocol.readNumber_of_short (Text.isNumeral_ofNat number) hshort
  rw [Text.digitsValue_ofNat] at hread
  simp only [traceState?, Notice.message, strip_titleLine number hne hback,
    traceTitle_titleLine number hline, hread, filledLines_eq_self hfilled]

/-- A state that was read without a fault has a number within the limit. -/
theorem short_of_onTraceState {g : Gathered Run} {number : Nat} {title : Text}
    {assignments : List Text} (h : (Notice.traceState number title assignments).Proper)
    (hok : (onTraceState g (Notice.traceState number title assignments).message).2 = .ok ()) :
    (Text.ofNat number).length ≤ Text.digitLimit := by
  obtain ⟨⟨hne, hline, hback⟩, _⟩ := h
  by_contra hlong
  have hread := Protocol.readNumber_of_long (Text.isNumeral_ofNat number) (Nat.lt_of_not_le hlong)
  simp only [onTraceState, Notice.message, strip_titleLine number hne hback,
    traceTitle_titleLine number hline, hread] at hok
  cases hok

/-! ## The roles of notices -/

theorem roleOf_error {m : Message} (hcode : m.code ∉ [2219, 2220])
    (hclass : m.subCode = some 1 ∨ m.subCode = some 2) : roleOf m = .failure := by
  simp only [List.mem_cons, List.not_mem_nil, or_false, not_or] at hcode
  simp only [roleOf]
  rw [if_neg (hcode.2 ∘ ofCode_eq_analyzerStart.mp), if_neg (hcode.1 ∘ ofCode_eq_analyzerEnd.mp),
    if_pos (hclass.imp_right Or.inl)]

theorem roleOf_warning {m : Message} (hcode : m.code ∉ [2219, 2220, 1000, 2110, 2114, 2121])
    (hclass : m.subCode = some 3) : roleOf m = .warning := by
  have hfailure : Topic.ofCode m.code ≠ .failure := fun h =>
    hcode (List.mem_append_right [2219, 2220] (ofCode_eq_failure.mp h))
  simp only [List.mem_cons, not_or] at hcode
  simp only [roleOf]
  rw [if_neg (hcode.2.1 ∘ ofCode_eq_analyzerStart.mp),
    if_neg (hcode.1 ∘ ofCode_eq_analyzerEnd.mp), if_neg (by simp [hclass, hfailure]),
    if_pos hclass]

/-- Other messages enter nothing, whether they are of the analyzer's part or not. -/
theorem next_other (t : Tally) {code : Nat} {lines : List Text}
    (h : (Notice.other code lines).Proper) : t.next (Notice.other code lines).message = t := by
  have hfailure : Topic.ofCode code ≠ .failure := fun hcode =>
    h (List.mem_append_left [2217, 2218] (ofCode_eq_failure.mp hcode))
  have htrace : Topic.ofCode code ≠ .traceState := fun hcode =>
    h (List.mem_append_right [1000, 2110, 2114, 2121] (ofCode_eq_traceState.mp hcode))
  have hrole : roleOf (Notice.other code lines).message =
      if Topic.ofCode code = .analyzerStart then .analyzerStart
      else if Topic.ofCode code = .analyzerEnd then .analyzerEnd
      else .status (Topic.ofCode code) := by
    simp [roleOf, Notice.message, hfailure, htrace]
  rw [Tally.next, hrole]
  split_ifs
  · rfl
  · rfl
  · rfl

/-! ## What notices enter -/

/-- The tally behind a notice. -/
def Tally.enter (t : Tally) (n : Notice) : Tally :=
  ⟨t.errors ++ n.error?.toList, t.warnings ++ n.warning?.toList, t.errorTrace ++ n.state?.toList⟩

/-- A notice that was read has entered what it says. -/
theorem tally_notice {n : Notice} (hn : n.Proper) {g after : Gathered Run} {events : List Event}
    (h : onMessage g n.message = ⟨after, .ok events⟩) : tally after = (tally g).enter n := by
  obtain ⟨hafter, hevents⟩ := Protocol.Step.mk.inj h
  obtain ⟨told, htold, _⟩ := map_eq_ok_iff.mp hevents
  rw [← hafter, tally_dispatch, Tally.enter]
  cases n with
  | error code toolBug lines =>
      have hclass : some (if toolBug then 2 else 1) = some 1 ∨
          some (if toolBug then 2 else 1) = some 2 := by
        cases toolBug with
        | false => exact Or.inl rfl
        | true => exact Or.inr rfl
      have hrole : roleOf (Notice.error code toolBug lines).message = .failure :=
        roleOf_error (by exact hn) (by exact hclass)
      rw [Tally.next, hrole]
      simp [Notice.error?, Notice.warning?, Notice.state?, Notice.message]
  | warning code lines =>
      have hrole : roleOf (Notice.warning code lines).message = .warning :=
        roleOf_warning (by exact hn) rfl
      rw [Tally.next, hrole]
      simp [Notice.error?, Notice.warning?, Notice.state?, Notice.message, Message.text]
  | traceState number title assignments =>
      have hrole : roleOf (Notice.traceState number title assignments).message = .traceState := rfl
      rw [dispatch_eq, hrole] at htold
      obtain ⟨_, hread, _⟩ := map_eq_ok_iff.mp htold
      rw [Tally.next, hrole, traceState?_message hn (short_of_onTraceState hn hread)]
      simp [Notice.error?, Notice.warning?, Notice.state?]
  | other code lines =>
      rw [next_other _ hn]
      simp [Notice.error?, Notice.warning?, Notice.state?]

/-- A run of notices that was read has entered what they say, in order. -/
theorem tally_notices {notices : List Notice} (hproper : ∀ n ∈ notices, n.Proper)
    {g after : Gathered Run} {events : List Event}
    (h : deliver decoder g (notices.map fun n => .item (.message n.message)) =
      ⟨after, .ok events⟩) :
    tally after = ⟨(tally g).errors ++ notices.filterMap Notice.error?,
      (tally g).warnings ++ notices.filterMap Notice.warning?,
      (tally g).errorTrace ++ notices.filterMap Notice.state?⟩ := by
  simp only [List.filterMap_eq_flatMap_toList]
  induction notices generalizing g events with
  | nil =>
      cases h
      simp only [List.flatMap_nil, List.append_nil]
  | cons n rest ih =>
      rw [List.forall_mem_cons] at hproper
      obtain ⟨middle, first, last, hhere, hrest, _⟩ := Protocol.deliver_cons_eq_ok.mp h
      rw [ih hproper.2 hrest, tally_notice hproper.1 hhere, Tally.enter]
      simp only [List.flatMap_cons, List.append_assoc]

/-! ## Runs of notices -/

/-- However notices follow each other, if they can be read, then the report has the errors,
the warnings and the states of the error trace that they say, each as it was said and in the
order in which they came, and nothing else in their lists. -/
theorem report_of_notices {spec : Option Text} {notices : List Notice} {stopped : Bool}
    (hproper : ∀ n ∈ notices, n.Proper)
    (hunmarked : ∀ n ∈ notices, ∀ line ∈ n.message.lines, Marker.ofLine? line = none)
    (hrun : (Protocol.Reading.readLines decoder (session spec) (notices.flatMap Notice.lines)
      stopped).2.fault = none) :
    let run := Protocol.Reading.readLines decoder (session spec) (notices.flatMap Notice.lines)
      stopped
    ∃ report, run.1.result = some report ∧
      report.errors = notices.filterMap Notice.error? ∧
      report.warnings = notices.filterMap Notice.warning? ∧
      report.errorTrace = notices.filterMap Notice.state? := by
  have hlines : notices.flatMap Notice.lines =
      (notices.map fun n => .message n.message).flatMap Item.lines := by
    rw [List.flatMap_map]
    rfl
  have hcontent : ∀ i ∈ notices.map fun n => Item.message n.message, ∀ line ∈ i.content,
      Marker.ofLine? line = none := List.forall_mem_map.mpr hunmarked
  have hdrive : Protocol.driveAll none (notices.flatMap Notice.lines) =
      notices.map fun n => .item (.message n.message) := by
    rw [hlines, Protocol.driveAll, Protocol.drive_flatMap hcontent, List.map_map]
    exact List.append_nil _
  obtain ⟨hshort, after, events, hread⟩ := Protocol.Reading.ok_of_readLines hrun
  obtain ⟨hsession, _⟩ := Protocol.Reading.readLines_of_ok hshort hread stopped
  rw [hdrive] at hread
  have htally := tally_notices hproper hread
  have hend : Tally.ofReport (decoder.report (flushAnalyzer after).1 stopped) = tally after := by
    rw [tally, ← soFar_flushAnalyzer after]
    rfl
  rw [htally] at hend
  obtain ⟨herrors, hwarnings, htrace⟩ := Tally.mk.inj hend
  exact ⟨_, congrArg (·.result) hsession, herrors, hwarnings, htrace⟩

/-- Notices of all kinds, with blank lines, and a state whose title has a colon. -/
def medley : List Notice :=
  [.other 2220 [], .error 2110 false ["Invariant Inv is violated.".toList, []],
    .traceState 1 "Initial predicate".toList ["x = 0".toList],
    .warning 2132 ["slow".toList, [], "symmetry".toList], .other 2219 [],
    .traceState 2 " A: line 3".toList ["/\\ x = 1".toList, " /\\ y = 2".toList],
    .error 1000 true [], .other 2193 ["done".toList]]

theorem report_of_notices_medley :
    let run := Protocol.Reading.readLines decoder (session none) (medley.flatMap Notice.lines) false
    ∃ report, run.1.result = some report ∧
      report.errors = [⟨2110, ["Invariant Inv is violated.".toList]⟩, ⟨1000, []⟩] ∧
      report.warnings = ["slow\n\nsymmetry".toList] ∧
      report.errorTrace = [⟨1, "Initial predicate".toList, ["x = 0".toList]⟩,
        ⟨2, " A: line 3".toList, ["/\\ x = 1".toList, " /\\ y = 2".toList]⟩] := by
  have hproper : ∀ n ∈ medley, n.Proper := by decide
  have hunmarked : ∀ n ∈ medley, ∀ line ∈ n.message.lines, Marker.ofLine? line = none := by decide
  have hrun : (Protocol.Reading.readLines decoder (session none) (medley.flatMap Notice.lines)
      false).2.fault = none := by decide +kernel
  obtain ⟨report, hresult, herrors, hwarnings, htrace⟩ := report_of_notices hproper hunmarked hrun
  exact ⟨report, hresult, herrors, hwarnings, htrace⟩

end TlaRunner.Checker
