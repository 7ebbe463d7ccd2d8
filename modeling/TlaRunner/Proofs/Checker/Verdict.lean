import Mathlib.Data.List.Basic
import Mathlib.Data.List.Induction
import TlaRunner.Proofs.Checker.Outcome
import TlaRunner.Proofs.Protocol.Matching

/-!
# When a check counts as passed

The outcome of a check is settled by the first message that says success or that the
run ended, unless an error message came before or comes behind it.  `Judged` says this
of the standing behind any deliveries, and `judged_deliver` shows it of every run.

A check that counts as passed has no error messages.  It may have findings that are
errors: success does not look at the findings, the end of the run looks at those that
are known by then, and nothing looks again at the end of the output.  The last section
says when exactly that happens.
-/

namespace TlaRunner.Checker

open Protocol (Gathered Event Message Delivery announced deliver fates)

/-- The message of a delivery. -/
def message? : Delivery → Option Message
  | .item (.message m) => some m
  | .item (.line _) => none
  | .condition _ => none

/-- The messages among deliveries, in order. -/
def messages (xs : List Delivery) : List Message :=
  xs.filterMap message?

/-- Whether a message settles the outcome of a run without errors. -/
def Decisive (m : Message) : Prop :=
  roleOf m = .status .success ∨ roleOf m = .status .finished

instance (m : Message) : Decidable (Decisive m) :=
  inferInstanceAs (Decidable (_ ∨ _))

/-- Whether a decisive message behind deliveries lets the check pass. -/
def Passes (g : Gathered Run) (before : List Delivery) (m : Message) : Prop :=
  roleOf m = .status .success ∨
    roleOf m = .status .finished ∧
      (deliver decoder g before).gathered.diagnostics.hasErrors = false

/-- Whether the first decisive message lets the check pass. -/
def Passed (g : Gathered Run) (xs : List Delivery) : Prop :=
  ∃ before m later, xs = before ++ .item (.message m) :: later ∧
    (∀ m ∈ messages before, ¬Decisive m) ∧ Passes g before m

theorem messages_concat (xs : List Delivery) (x : Delivery) :
    messages (xs ++ [x]) = messages xs ++ (message? x).toList := by
  rw [messages, List.filterMap_append, ← messages]
  cases hx : message? x with
  | none => rw [List.filterMap_cons_none hx, List.filterMap_nil, Option.toList_none]
  | some m => rw [List.filterMap_cons_some hx, List.filterMap_nil, Option.toList_some]

theorem messages_cons (x : Delivery) (xs : List Delivery) :
    messages (x :: xs) = (message? x).toList ++ messages xs := by
  rw [messages, messages, List.filterMap_eq_flatMap_toList, List.flatMap_cons,
    List.filterMap_eq_flatMap_toList]

/-- Whether the first message of a kind meets a condition on what came before it. -/
def First (Kind : Message → Prop) (Meets : List Delivery → Message → Prop)
    (xs : List Delivery) : Prop :=
  ∃ before m later, xs = before ++ .item (.message m) :: later ∧
    (∀ m ∈ messages before, ¬Kind m) ∧ Meets before m

section

variable (Kind : Message → Prop) (Meets : List Delivery → Message → Prop)

theorem not_first_nil : ¬First Kind Meets [] := by
  rintro ⟨before, m, later, hsplit, -⟩
  cases before with
  | nil => cases hsplit
  | cons x before => cases hsplit

/-- The last delivery counts only where no message of the kind came before. -/
theorem first_concat (xs : List Delivery) (x : Delivery) :
    First Kind Meets (xs ++ [x]) ↔ First Kind Meets xs ∨
      ∃ m, x = .item (.message m) ∧ (∀ m ∈ messages xs, ¬Kind m) ∧ Meets xs m := by
  constructor
  · rintro ⟨before, m, later, hsplit, hfirst, hmeets⟩
    rcases List.eq_nil_or_concat' later with rfl | ⟨later, y, rfl⟩
    · obtain ⟨rfl, hx⟩ := List.append_inj' hsplit rfl
      exact Or.inr ⟨m, List.singleton_inj.mp hx, hfirst, hmeets⟩
    · rw [← List.cons_append, ← List.append_assoc] at hsplit
      obtain ⟨rfl, _⟩ := List.append_inj' hsplit rfl
      exact Or.inl ⟨before, m, later, rfl, hfirst, hmeets⟩
  · rintro (⟨before, m, later, rfl, hfirst, hmeets⟩ | ⟨m, rfl, hfirst, hmeets⟩)
    · exact ⟨before, m, later ++ [x], by simp, hfirst, hmeets⟩
    · exact ⟨xs, m, [], rfl, hfirst, hmeets⟩

theorem first_concat_of_none (xs : List Delivery) {x : Delivery} (hx : message? x = none) :
    First Kind Meets (xs ++ [x]) ↔ First Kind Meets xs := by
  rw [first_concat]
  refine or_iff_left ?_
  rintro ⟨m, rfl, -⟩
  cases hx

theorem first_concat_message (xs : List Delivery) (m : Message) :
    First Kind Meets (xs ++ [.item (.message m)]) ↔
      First Kind Meets xs ∨ (∀ m' ∈ messages xs, ¬Kind m') ∧ Meets xs m := by
  rw [first_concat]
  refine or_congr_right ?_
  constructor
  · rintro ⟨m', heq, hfirst, hmeets⟩
    cases heq
    exact ⟨hfirst, hmeets⟩
  · rintro ⟨hfirst, hmeets⟩
    exact ⟨m, rfl, hfirst, hmeets⟩

end

/-! ## Standings behind deliveries -/

/-- What the standing behind deliveries is. -/
structure Judged (g : Gathered Run) (xs : List Delivery) (s : Standing) : Prop where
  /-- Every error message is among the errors. -/
  errors : s.errors = [] ↔ ∀ m ∈ messages xs, roleOf m ≠ .failure
  /-- Errors settle the outcome for good. -/
  failed : s.errors ≠ [] → s.outcome = .error ∨ s.outcome = .fatal
  /-- No message stops a run. -/
  going : s.outcome ≠ .stopped
  /-- Without errors there is no tool bug. -/
  sane : s.errors = [] → s.toolBug = false
  /-- Without errors the outcome is open until a decisive message. -/
  running : s.errors = [] → (s.outcome = .running ↔ ∀ m ∈ messages xs, ¬Decisive m)
  /-- Without errors the first decisive message decides. -/
  success : s.errors = [] → (s.outcome = .success ↔ Passed g xs)

section

variable {g : Gathered Run} {xs : List Delivery} {s : Standing}

theorem Judged.consistent (h : Judged g xs s) : s.Consistent :=
  ⟨h.failed, h.going, h.sane⟩

/-- A run succeeds so far if no error message came and the first decisive message let it
pass. -/
theorem Judged.success_iff (h : Judged g xs s) :
    s.outcome = .success ↔ (∀ m ∈ messages xs, roleOf m ≠ .failure) ∧ Passed g xs := by
  constructor
  · intro hsuccess
    have hnil := h.consistent.errors_eq_nil (by rw [hsuccess]; decide) (by rw [hsuccess]; decide)
    exact ⟨h.errors.mp hnil, (h.success hnil).mp hsuccess⟩
  · rintro ⟨hnone, hpassed⟩
    exact (h.success (h.errors.mpr hnone)).mpr hpassed

theorem judged_nil (g : Gathered Run) : Judged g [] .start := by
  have hnone : ¬Passed g [] := not_first_nil Decisive (Passes g)
  refine ⟨?_, fun h => absurd rfl h, by decide, fun _ => rfl, fun _ => ?_, fun _ => ?_⟩
  · simp [Standing.start, messages]
  · simp [Standing.start, messages]
  · simp [Standing.start, hnone]

/-- A delivery that is no message leaves the standing alone. -/
theorem Judged.skip {x : Delivery} (h : Judged g xs s) (hx : message? x = none) :
    Judged g (xs ++ [x]) s := by
  have hmessages : messages (xs ++ [x]) = messages xs := by
    rw [messages_concat, hx, Option.toList_none, List.append_nil]
  have hpassed : Passed g (xs ++ [x]) ↔ Passed g xs :=
    first_concat_of_none Decisive (Passes g) xs hx
  refine ⟨?_, h.failed, h.going, h.sane, ?_, ?_⟩
  · rw [hmessages]
    exact h.errors
  · rw [hmessages]
    exact h.running
  · rw [hpassed]
    exact h.success

theorem forall_mem_messages_concat {p : Message → Prop} (xs : List Delivery) (m : Message) :
    (∀ m' ∈ messages (xs ++ [.item (.message m)]), p m') ↔ (∀ m' ∈ messages xs, p m') ∧ p m := by
  rw [messages_concat, List.forall_mem_append]
  refine and_congr_right fun _ => ?_
  exact List.forall_mem_singleton

theorem passed_concat_message (g : Gathered Run) (xs : List Delivery) (m : Message) :
    Passed g (xs ++ [.item (.message m)]) ↔
      Passed g xs ∨ (∀ m' ∈ messages xs, ¬Decisive m') ∧ Passes g xs m :=
  first_concat_message Decisive (Passes g) xs m

/-- An error message settles the outcome for good. -/
theorem Judged.fail {m : Message} (h : Judged g xs s) (hrole : roleOf m = .failure) :
    Judged g (xs ++ [.item (.message m)]) (s.fail m) := by
  have herrors : (s.fail m).errors ≠ [] := by simp [Standing.fail]
  obtain ⟨hfailed, hgoing, _⟩ := h.consistent.fail m
  refine ⟨⟨fun hnil => absurd hnil herrors, fun hall => ?_⟩, hfailed, hgoing,
    fun hnil => absurd hnil herrors, fun hnil => absurd hnil herrors,
    fun hnil => absurd hnil herrors⟩
  exact absurd hrole ((forall_mem_messages_concat xs m).mp hall).2

/-- A message that is neither an error nor decisive leaves the standing alone. -/
theorem Judged.pass {m : Message} (h : Judged g xs s) (hfailure : roleOf m ≠ .failure)
    (hdecisive : ¬Decisive m) :
    Judged g (xs ++ [.item (.message m)]) s := by
  have hpasses : ¬Passes g xs m := fun hpasses => hdecisive (hpasses.imp_right And.left)
  refine ⟨?_, h.failed, h.going, h.sane, ?_, ?_⟩
  · rw [forall_mem_messages_concat, and_iff_left hfailure]
    exact h.errors
  · rw [forall_mem_messages_concat, and_iff_left hdecisive]
    exact h.running
  · rw [passed_concat_message, or_iff_left fun hlast => hpasses hlast.2]
    exact h.success

/-- A decisive message settles an open outcome. -/
theorem Judged.settle {m : Message} {outcome : Outcome} (h : Judged g xs s)
    (hdecisive : Decisive m)
    (hpasses : s.errors = [] → (outcome = .success ↔ Passes g xs m))
    (hrunning : outcome ≠ .running) (hstopped : outcome ≠ .stopped) :
    Judged g (xs ++ [.item (.message m)]) (s.settle outcome) := by
  have hfailure : roleOf m ≠ .failure := by
    rcases hdecisive with hrole | hrole
    · rw [hrole]
      decide
    · rw [hrole]
      decide
  by_cases hopen : s.outcome = .running
  · have herrors := h.consistent.errors_eq_nil (by rw [hopen]; decide) (by rw [hopen]; decide)
    have hfirst : ∀ m' ∈ messages xs, ¬Decisive m' := (h.running herrors).mp hopen
    have hnone : ¬Passed g xs := by
      rw [← h.success herrors, hopen]
      decide
    rw [Standing.settle, if_pos hopen]
    refine ⟨?_, fun hsome => absurd herrors hsome, hstopped, h.sane, fun _ => ?_, fun _ => ?_⟩
    · rw [forall_mem_messages_concat, and_iff_left hfailure]
      exact h.errors
    · rw [forall_mem_messages_concat]
      exact ⟨fun heq => absurd heq hrunning, fun hall => absurd hdecisive hall.2⟩
    · rw [passed_concat_message, or_iff_right hnone, and_iff_right hfirst]
      exact hpasses herrors
  · rw [Standing.settle, if_neg hopen]
    refine ⟨?_, h.failed, h.going, h.sane, fun _ => ?_, fun herrors => ?_⟩
    · rw [forall_mem_messages_concat, and_iff_left hfailure]
      exact h.errors
    · rw [forall_mem_messages_concat]
      exact ⟨fun heq => absurd heq hopen, fun hall => absurd hdecisive hall.2⟩
    · have hlate : ¬∀ m' ∈ messages xs, ¬Decisive m' := by
        rw [← h.running herrors]
        exact hopen
      rw [passed_concat_message, or_iff_left fun hlast => hlate hlast.1]
      exact h.success herrors

theorem terminal_eq_success (herrors : s.errors = []) (hbug : s.toolBug = false)
    (found : Bool) : s.terminal found = .success ↔ found = false := by
  rw [Standing.terminal, hbug, herrors]
  cases found with
  | true => decide
  | false => decide

/-- What a message does to the standing: it is an error, it is decisive, or it does
nothing. -/
theorem Standing.next_cases (s : Standing) (found : Bool) (m : Message) :
    roleOf m = .failure ∧ s.next found m = s.fail m ∨
      roleOf m = .status .success ∧ s.next found m = s.settle .success ∨
      roleOf m = .status .finished ∧ s.next found m = s.settle (s.terminal found) ∨
      (roleOf m ≠ .failure ∧ ¬Decisive m) ∧ s.next found m = s := by
  rw [Standing.next, Decisive]
  cases hrole : roleOf m with
  | failure => exact Or.inl ⟨rfl, rfl⟩
  | analyzerStart => exact Or.inr (Or.inr (Or.inr ⟨by decide, rfl⟩))
  | analyzerEnd => exact Or.inr (Or.inr (Or.inr ⟨by decide, rfl⟩))
  | warning => exact Or.inr (Or.inr (Or.inr ⟨by decide, rfl⟩))
  | traceState => exact Or.inr (Or.inr (Or.inr ⟨by decide, rfl⟩))
  | status topic =>
      by_cases hsuccess : topic = .success
      · subst hsuccess
        exact Or.inr (Or.inl ⟨rfl, rfl⟩)
      · by_cases hfinished : topic = .finished
        · subst hfinished
          exact Or.inr (Or.inr (Or.inl ⟨rfl, rfl⟩))
        · refine Or.inr (Or.inr (Or.inr ⟨⟨Role.noConfusion, ?_⟩, ?_⟩))
          · rintro (heq | heq)
            · exact hsuccess (Role.status.inj heq)
            · exact hfinished (Role.status.inj heq)
          · exact s.move_of_ne found hsuccess hfinished

theorem Judged.next (m : Message) (h : Judged g xs s) :
    Judged g (xs ++ [.item (.message m)])
      (s.next (deliver decoder g xs).gathered.diagnostics.hasErrors m) := by
  rcases s.next_cases (deliver decoder g xs).gathered.diagnostics.hasErrors m with
    ⟨hrole, hnext⟩ | ⟨hrole, hnext⟩ | ⟨hrole, hnext⟩ | ⟨⟨hfailure, hdecisive⟩, hnext⟩
  · rw [hnext]
    exact h.fail hrole
  · rw [hnext]
    have hpasses : Passes g xs m := Or.inl hrole
    exact h.settle (Or.inl hrole) (fun _ => iff_of_true rfl hpasses) (by decide) (by decide)
  · rw [hnext]
    obtain ⟨hrunning, hstopped⟩ :=
      s.terminal_settles (deliver decoder g xs).gathered.diagnostics.hasErrors
    refine h.settle (Or.inr hrole) (fun herrors => ?_) hrunning hstopped
    rw [terminal_eq_success herrors (h.sane herrors), Passes, hrole]
    exact ⟨fun hfound => Or.inr ⟨rfl, hfound⟩, fun hpasses =>
      hpasses.elim (fun heq => by cases heq) And.right⟩
  · rw [hnext]
    exact h.pass hfailure hdecisive

end

/-- What holds of the standing before any output, and is kept by every delivery, holds
behind a run. -/
theorem standing_induction {g after : Gathered Run} {xs : List Delivery} {events : List Event}
    {P : List Delivery → Standing → Prop} (hstart : P [] (standing g))
    (hskip : ∀ xs x s, message? x = none → P xs s → P (xs ++ [x]) s)
    (hnext : ∀ xs m s, P xs s → P (xs ++ [.item (.message m)])
      (s.next (deliver decoder g xs).gathered.diagnostics.hasErrors m))
    (h : deliver decoder g xs = ⟨after, .ok events⟩) : P xs (standing after) := by
  induction xs using List.reverseRecOn generalizing after events with
  | nil =>
      cases h
      exact hstart
  | append_singleton xs x ih =>
      obtain ⟨middle, first, last, hxs, hx, _⟩ := Protocol.deliver_append_eq_ok.mp h
      have hmiddle := ih hxs
      rw [Protocol.deliver_singleton] at hx
      cases x with
      | item i =>
          cases i with
          | line line =>
              have hline : standing after = standing middle := by
                rw [← standing_onLine middle line, show onLine middle line = _ from hx]
              rw [hline]
              exact hskip xs _ _ rfl hmiddle
          | message m =>
              have hmessage := standing_onMessage middle m
              rw [show onMessage middle m = _ from hx] at hmessage
              rw [hmessage]
              have hlast := hnext xs m _ hmiddle
              rw [hxs] at hlast
              exact hlast
      | condition c =>
          cases hx
          exact hskip xs _ _ rfl hmiddle

/-- The standing behind the deliveries of a run. -/
theorem judged_deliver {g after : Gathered Run} {xs : List Delivery} {events : List Event}
    (hstart : standing g = .start) (h : deliver decoder g xs = ⟨after, .ok events⟩) :
    Judged g xs (standing after) :=
  standing_induction (hstart ▸ judged_nil g) (fun _ _ _ hx hs => hs.skip hx)
    (fun _ m _ hs => hs.next m) h

/-! ## Reports -/

/-- A report says success if the run was not stopped and its standing is success. -/
theorem finalOutcome_eq_success {g : Gathered Run} {stopped : Bool} :
    finalOutcome g stopped = .success ↔ stopped = false ∧ (standing g).outcome = .success := by
  rw [finalOutcome]
  cases stopped with
  | true => simp
  | false =>
      simp only [Bool.false_eq_true, if_false, true_and]
      split
      next hrunning =>
        have houtcome : (standing g).outcome = .running := hrunning
        rw [houtcome]
        split
        · decide
        · decide
      next => exact Iff.rfl

/-- Before any output there are no findings, and the module is the only file. -/
theorem holds_session (spec : Option Text) :
    (session spec).gathered.diagnostics.Holds spec.toList [] := by
  cases spec with
  | none => exact Diagnostic.Collection.holds_empty
  | some file => exact Diagnostic.Collection.holds_empty.addFile file

/-- What a run without a fault says of its report. -/
theorem report_of_readLines {spec : Option Text} {lines : List Text} {stopped : Bool}
    (hrun : (Protocol.Reading.readLines decoder (session spec) lines stopped).2.fault = none) :
    let run := Protocol.Reading.readLines decoder (session spec) lines stopped
    ∃ s report, Judged (session spec).gathered (fates [] lines) s ∧ run.1.result = some report ∧
      report.errors = s.errors ∧
      (report.outcome = .success ↔ stopped = false ∧ s.outcome = .success) ∧
      ∀ r, r ∈ report.diagnostics.records ↔ r ∈ announced run.2.events := by
  obtain ⟨after, events, hread, hsession, _⟩ :=
    Protocol.Reading.fates_of_readLines (g := (session spec).gathered) hrun
  have hstart : standing (session spec).gathered = .start := rfl
  refine ⟨standing after, decoder.report (flushAnalyzer after).1 stopped,
    judged_deliver hstart hread, congrArg Protocol.Session.result hsession,
    congrArg Standing.errors (standing_flushAnalyzer after), ?_, fun r => ?_⟩
  · rw [← standing_flushAnalyzer after]
    exact finalOutcome_eq_success
  · have hheld := Protocol.holds_of_readLines announces (holds_session spec) hrun
    have hall := hheld.replays.mem_records r
    rw [hsession, List.nil_append] at hall
    exact hall

/-- A report of success never has error messages.  It has no findings that are errors
either, unless the run was not stopped, the first decisive message let it pass, no error
message came at all, and yet some finding was an error. -/
theorem report_sound_iff {spec : Option Text} {lines : List Text} {stopped : Bool}
    (hrun : (Protocol.Reading.readLines decoder (session spec) lines stopped).2.fault = none) :
    let run := Protocol.Reading.readLines decoder (session spec) lines stopped
    ∃ report, run.1.result = some report ∧
      (report.outcome = .success → report.errors = []) ∧
      ((report.outcome = .success →
          report.errors = [] ∧ ∀ r ∈ report.diagnostics.records, r.severity ≠ .error) ↔
        stopped = true ∨ (∃ m ∈ messages (fates [] lines), roleOf m = .failure) ∨
          ¬Passed (session spec).gathered (fates [] lines) ∨
          ∀ r ∈ announced run.2.events, r.severity ≠ .error) := by
  obtain ⟨s, report, hjudged, hresult, herrors, houtcome, hrecords⟩ := report_of_readLines hrun
  rw [hjudged.success_iff] at houtcome
  have hclean : report.outcome = .success → report.errors = [] := by
    intro hsuccess
    rw [herrors]
    exact hjudged.errors.mpr (houtcome.mp hsuccess).2.1
  refine ⟨report, hresult, hclean, ?_, ?_⟩
  · intro hsound
    by_contra hnot
    simp only [not_or, not_exists, not_and, not_not] at hnot
    obtain ⟨hstopped, hnone, hpassed, hfound⟩ := hnot
    refine hfound fun r hr => ?_
    have hok := houtcome.mpr ⟨Bool.not_eq_true _ ▸ hstopped, hnone, hpassed⟩
    exact (hsound hok).2 r ((hrecords r).mpr hr)
  · intro hcases hok
    obtain ⟨hstopped, hnone, hpassed⟩ := houtcome.mp hok
    refine ⟨hclean hok, fun r hr => ?_⟩
    rcases hcases with hyes | ⟨m, hm, hrole⟩ | hfirst | hfound
    · rw [hstopped] at hyes
      cases hyes
    · exact absurd hrole (hnone m hm)
    · exact absurd hpassed hfirst
    · exact hfound r ((hrecords r).mp hr)

/-- An error of the analyzer whose text the end of the run interrupts. -/
def overlooked : List Text :=
  [(Protocol.Sign.start 2220 (some 0)).line, (Protocol.Sign.stop 2220).line,
    "line 3, col 5 to line 3, col 6 of module Spec".toList, "Unknown operator".toList,
    (Protocol.Sign.start 2186 (some 0)).line, (Protocol.Sign.stop 2186).line]

theorem report_sound_iff_overlooked :
    let run := Protocol.Reading.readLines decoder (session none) overlooked false
    ∃ report, run.1.result = some report ∧
      ¬(report.outcome = .success →
        report.errors = [] ∧ ∀ r ∈ report.diagnostics.records, r.severity ≠ .error) := by
  have hrun : (Protocol.Reading.readLines decoder (session none) overlooked false).2.fault =
      none := by
    decide
  have hnone : ∀ m ∈ messages (fates [] overlooked), roleOf m ≠ .failure := by decide
  have hpassed : Passed (session none).gathered (fates [] overlooked) := by
    refine ⟨(fates [] overlooked).take 3, ⟨2186, some 0, []⟩, [], by decide, by decide, ?_⟩
    exact Or.inr ⟨by decide, by decide⟩
  have hfound : ⟨"Spec.tla".toList, .ofToolSpan 3 5 3 6, .error, "Unknown operator".toList⟩ ∈
      announced (Protocol.Reading.readLines decoder (session none) overlooked false).2.events := by
    decide
  obtain ⟨report, hresult, _, hsound⟩ := report_sound_iff hrun
  refine ⟨report, hresult, fun h => ?_⟩
  rcases hsound.mp h with hstopped | ⟨m, hm, hrole⟩ | hfirst | hclean
  · cases hstopped
  · exact hnone m hm hrole
  · exact hfirst hpassed
  · exact hclean _ hfound rfl

/-- Success with a finding that is an error. -/
theorem report_not_sound :
    ¬∀ (spec : Option Text) (lines : List Text) (stopped : Bool) (report : CheckReport),
      (Protocol.Reading.readLines decoder (session spec) lines stopped).2.fault = none →
        (Protocol.Reading.readLines decoder (session spec) lines stopped).1.result = some report →
          report.outcome = .success →
            report.errors = [] ∧ ∀ r ∈ report.diagnostics.records, r.severity ≠ .error := by
  intro hsound
  have hrun : (Protocol.Reading.readLines decoder (session none) overlooked false).2.fault =
      none := by
    decide
  have houtcome : (Protocol.Reading.readLines decoder (session none) overlooked false).1.result.map
      (fun report => (report.outcome, report.diagnostics.records.map (·.severity))) =
        some (.success, [.error]) := by
    decide
  obtain ⟨report, hresult, hpair⟩ := Option.map_eq_some_iff.mp houtcome
  obtain ⟨hsuccess, hseverities⟩ := Prod.mk.inj hpair
  obtain ⟨r, hr, hseverity⟩ := List.mem_map.mp (hseverities ▸ List.mem_singleton_self _)
  exact (hsound none overlooked false report hrun hresult hsuccess).2 r hr hseverity

end TlaRunner.Checker
