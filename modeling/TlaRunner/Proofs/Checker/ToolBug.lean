import TlaRunner.Proofs.Checker.Verdict

/-!
# Which failure a check is blamed on

The outcome that a check fails with is that of its first failure: a message that is an
error, a message that is a tool bug, or the end of the run behind a finding that is an
error.  Later failures are noted among the errors and change the outcome no more, so a
tool bug makes the check fatal exactly if it is the first failure (`fatal_iff_crashed`).

`Blamed` is the invariant: it adds to `Judged` what the standing says of a check that
failed.
-/

namespace TlaRunner.Checker

open Protocol (Gathered Message Delivery deliver fates)

/-- Whether a message says that the tool is broken. -/
def ToolBug (m : Message) : Prop :=
  m.subCode = some 2 ∧ m.code ≠ 2219 ∧ m.code ≠ 2220

instance (m : Message) : Decidable (ToolBug m) :=
  inferInstanceAs (Decidable (_ ∧ _ ∧ _))

/-- Whether the first decisive message ends the run behind a finding that is an error. -/
def Failed (g : Gathered Run) : List Delivery → Prop :=
  First Decisive fun before m => roleOf m = .status .finished ∧
    (deliver decoder g before).gathered.diagnostics.hasErrors = true

/-- Whether the first error message is a tool bug, and the check did not fail before it. -/
def Crashed (g : Gathered Run) : List Delivery → Prop :=
  First (fun m => roleOf m = .failure) fun before m => ToolBug m ∧ ¬Failed g before

/-- A message of the class of tool bugs is one, unless it opens or closes the analyzer's
part. -/
theorem toolBug_iff {m : Message} :
    ToolBug m ↔ roleOf m = .failure ∧ m.subCode = some 2 := by
  rw [ToolBug, roleOf]
  simp only [ofCode_eq_analyzerStart, ofCode_eq_analyzerEnd]
  constructor
  · rintro ⟨hclass, hend, hstart⟩
    simp [hclass, hend, hstart]
  · rintro ⟨hrole, hclass⟩
    refine ⟨hclass, ?_, ?_⟩
    · intro hend
      simp [hend] at hrole
    · intro hstart
      simp [hstart] at hrole

theorem First.exists_mem {Kind : Message → Prop} {Meets : List Delivery → Message → Prop}
    {xs : List Delivery} (h : First Kind Meets xs) :
    ∃ m ∈ messages xs, ∃ before, Meets before m := by
  obtain ⟨before, m, later, rfl, -, hmeets⟩ := h
  refine ⟨m, ?_, before, hmeets⟩
  simp [messages, message?]

/-! ## Standings behind deliveries -/

/-- What the standing behind deliveries says of a check that failed. -/
structure Blamed (g : Gathered Run) (xs : List Delivery) (s : Standing) : Prop where
  /-- The errors are the error messages. -/
  judged : Judged g xs s
  /-- Without errors only the end of the run can fail the check. -/
  failed : s.errors = [] → (s.outcome = .error ↔ Failed g xs)
  /-- The check is fatal if its first failure is a tool bug. -/
  crashed : s.outcome = .fatal ↔ Crashed g xs

section

variable {g : Gathered Run} {xs : List Delivery} {s : Standing}

theorem blamed_nil (g : Gathered Run) : Blamed g [] .start := by
  refine ⟨judged_nil g, fun _ => ?_, ?_⟩
  · exact iff_of_false (by decide) (not_first_nil _ _)
  · exact iff_of_false (by decide) (not_first_nil _ _)

/-- Without errors no tool bug came. -/
theorem Blamed.not_fatal (h : Blamed g xs s) (herrors : s.errors = []) : s.outcome ≠ .fatal := by
  intro hfatal
  obtain ⟨m, hm, before, hbug, -⟩ := (h.crashed.mp hfatal).exists_mem
  exact h.judged.errors.mp herrors m hm (toolBug_iff.mp hbug).1

/-- A delivery that is no message leaves the standing alone. -/
theorem Blamed.skip {x : Delivery} (h : Blamed g xs s) (hx : message? x = none) :
    Blamed g (xs ++ [x]) s := by
  refine ⟨h.judged.skip hx, fun herrors => ?_, ?_⟩
  · rw [Failed, first_concat_of_none _ _ xs hx]
    exact h.failed herrors
  · rw [Crashed, first_concat_of_none _ _ xs hx]
    exact h.crashed

theorem crashed_concat_of_ne {m : Message} (hrole : roleOf m ≠ .failure) :
    Crashed g (xs ++ [.item (.message m)]) ↔ Crashed g xs := by
  rw [Crashed, first_concat_message]
  refine or_iff_left ?_
  rintro ⟨-, hbug, -⟩
  exact hrole (toolBug_iff.mp hbug).1

theorem failed_concat (g : Gathered Run) (xs : List Delivery) (m : Message) :
    Failed g (xs ++ [.item (.message m)]) ↔ Failed g xs ∨ (∀ m' ∈ messages xs, ¬Decisive m') ∧
      roleOf m = .status .finished ∧
        (deliver decoder g xs).gathered.diagnostics.hasErrors = true := by
  rw [Failed, first_concat_message]

/-- The first error decides, unless the end of the run failed the check before. -/
theorem Blamed.fail {m : Message} (h : Blamed g xs s) (hrole : roleOf m = .failure) :
    Blamed g (xs ++ [.item (.message m)]) (s.fail m) := by
  have herrors : (s.fail m).errors ≠ [] := by simp [Standing.fail]
  refine ⟨h.judged.fail hrole, fun hnil => absurd hnil herrors, ?_⟩
  rw [Crashed, first_concat_message, ← Crashed, ← h.crashed, ← h.judged.errors]
  by_cases hnil : s.errors = []
  · have hbug : ToolBug m ↔ m.subCode = some 2 := by
      rw [toolBug_iff, and_iff_right hrole]
    rw [or_iff_right (h.not_fatal hnil), and_iff_right hnil, hbug, ← h.failed hnil]
    have hfatal := h.not_fatal hnil
    have hgoing := h.judged.going
    simp only [Standing.fail, h.judged.sane hnil, Bool.false_or]
    cases houtcome : s.outcome with
    | running => simp [afterError]
    | success => simp [afterError]
    | error => simp [afterError]
    | stopped => exact absurd houtcome hgoing
    | fatal => exact absurd houtcome hfatal
  · rw [or_iff_left fun hfirst => hnil hfirst.1]
    rcases h.judged.failed hnil with houtcome | houtcome
    · rw [Standing.fail, houtcome]
      exact Iff.rfl
    · rw [Standing.fail, houtcome]
      exact Iff.rfl

/-- A message that settles an open outcome finds no error before it, so it decides by the
findings alone. -/
theorem Blamed.settle {m : Message} {outcome : Outcome} (h : Blamed g xs s)
    (hjudged : Judged g (xs ++ [.item (.message m)]) (s.settle outcome))
    (hfailure : roleOf m ≠ .failure) (hfatal : s.errors = [] → outcome ≠ .fatal)
    (hfails : s.errors = [] → (outcome = .error ↔ roleOf m = .status .finished ∧
      (deliver decoder g xs).gathered.diagnostics.hasErrors = true)) :
    Blamed g (xs ++ [.item (.message m)]) (s.settle outcome) := by
  refine ⟨hjudged, ?_, ?_⟩
  · rw [failed_concat, Standing.settle]
    split
    next hopen =>
      intro herrors
      have hfirst := (h.judged.running herrors).mp hopen
      have hnone : ¬Failed g xs := by
        rw [← h.failed herrors, hopen]
        decide
      rw [or_iff_right hnone, and_iff_right hfirst]
      exact hfails herrors
    next hopen =>
      intro herrors
      have hlate : ¬∀ m' ∈ messages xs, ¬Decisive m' := by
        rw [← h.judged.running herrors]
        exact hopen
      rw [or_iff_left fun hlast => hlate hlast.1]
      exact h.failed herrors
  · rw [crashed_concat_of_ne hfailure, ← h.crashed, Standing.settle]
    split
    next hopen =>
      have herrors :=
        h.judged.consistent.errors_eq_nil (by rw [hopen]; decide) (by rw [hopen]; decide)
      rw [hopen]
      exact iff_of_false (hfatal herrors) (by decide)
    next => exact Iff.rfl

theorem terminal_eq_error (herrors : s.errors = []) (hbug : s.toolBug = false) (found : Bool) :
    s.terminal found ≠ .fatal ∧ (s.terminal found = .error ↔ found = true) := by
  rw [Standing.terminal, hbug, herrors]
  cases found with
  | true => decide
  | false => decide

theorem Blamed.next (m : Message) (h : Blamed g xs s) :
    Blamed g (xs ++ [.item (.message m)])
      (s.next (deliver decoder g xs).gathered.diagnostics.hasErrors m) := by
  have hjudged := h.judged.next m
  rcases s.next_cases (deliver decoder g xs).gathered.diagnostics.hasErrors m with
    ⟨hrole, hnext⟩ | ⟨hrole, hnext⟩ | ⟨hrole, hnext⟩ | ⟨⟨hfailure, hdecisive⟩, hnext⟩
  · rw [hnext]
    exact h.fail hrole
  · rw [hnext] at hjudged ⊢
    refine h.settle hjudged (by rw [hrole]; decide) (fun _ => by decide) ?_
    intro _
    refine iff_of_false (by decide) ?_
    rintro ⟨hfinished, -⟩
    rw [hrole] at hfinished
    cases hfinished
  · rw [hnext] at hjudged ⊢
    refine h.settle hjudged (by rw [hrole]; decide) ?_ ?_
    · intro herrors
      exact (terminal_eq_error herrors (h.judged.sane herrors) _).1
    · intro herrors
      rw [and_iff_right hrole]
      exact (terminal_eq_error herrors (h.judged.sane herrors) _).2
  · rw [hnext] at hjudged ⊢
    refine ⟨hjudged, fun herrors => ?_, ?_⟩
    · rw [failed_concat, or_iff_left fun hlast => hdecisive (Or.inr hlast.2.1)]
      exact h.failed herrors
    · rw [crashed_concat_of_ne hfailure]
      exact h.crashed

end

theorem blamed_deliver {g after : Gathered Run} {xs : List Delivery}
    {events : List Protocol.Event} (hstart : standing g = .start)
    (h : deliver decoder g xs = ⟨after, .ok events⟩) : Blamed g xs (standing after) :=
  standing_induction (hstart ▸ blamed_nil g) (fun _ _ _ hx hs => hs.skip hx)
    (fun _ m _ hs => hs.next m) h

/-! ## Reports -/

/-- Where the outcome is settled, the report has it. -/
theorem finalOutcome_of_ne {g : Gathered Run} (h : (standing g).outcome ≠ .running) :
    finalOutcome g false = (standing g).outcome := by
  rw [finalOutcome, if_neg Bool.false_ne_true]
  split
  next hrunning => exact absurd hrunning h
  next => rfl

/-- A check with a tool bug fails.  It is fatal if its first failure is a tool bug, and else
it has the outcome of any error. -/
theorem fatal_iff_crashed {spec : Option Text} {lines : List Text} {m : Message}
    (hrun : (Protocol.Reading.readLines decoder (session spec) lines false).2.fault = none)
    (hm : m ∈ messages (fates [] lines)) (hbug : ToolBug m) :
    ∃ report,
      (Protocol.Reading.readLines decoder (session spec) lines false).1.result = some report ∧
      (report.outcome = .error ∨ report.outcome = .fatal) ∧
      (report.outcome = .fatal ↔ Crashed (session spec).gathered (fates [] lines)) := by
  obtain ⟨after, events, hread, hsession, _⟩ :=
    Protocol.Reading.fates_of_readLines (g := (session spec).gathered) hrun
  have hblamed : Blamed (session spec).gathered (fates [] lines) (standing after) :=
    blamed_deliver rfl hread
  have hsome : (standing after).errors ≠ [] := by
    intro hnil
    exact hblamed.judged.errors.mp hnil m hm (toolBug_iff.mp hbug).1
  have hfailed := hblamed.judged.failed hsome
  have hsettled : (standing (flushAnalyzer after).1).outcome ≠ .running := by
    rw [standing_flushAnalyzer]
    rcases hfailed with houtcome | houtcome
    · rw [houtcome]
      decide
    · rw [houtcome]
      decide
  have houtcome : (decoder.report (flushAnalyzer after).1 false).outcome =
      (standing after).outcome := by
    rw [← standing_flushAnalyzer after]
    exact finalOutcome_of_ne hsettled
  refine ⟨_, congrArg Protocol.Session.result hsession, ?_, ?_⟩
  · rw [← houtcome] at hfailed
    exact hfailed
  · rw [← hblamed.crashed, ← houtcome]
    exact Iff.rfl

/-- The lines of messages without text. -/
def bare (codes : List (Nat × Nat)) : List Text :=
  codes.flatMap fun (code, subCode) =>
    [(Protocol.Sign.start code (some subCode)).line, (Protocol.Sign.stop code).line]

/-- A tool bug before an error. -/
theorem fatal_iff_crashed_first :
    ∃ report, (Protocol.Reading.readLines decoder (session none)
        (bare [(1000, 2), (1000, 1), (2186, 0)]) false).1.result = some report ∧
      report.outcome = .fatal := by
  have hrun : (Protocol.Reading.readLines decoder (session none)
      (bare [(1000, 2), (1000, 1), (2186, 0)]) false).2.fault = none := by
    decide
  have hm : (⟨1000, some 2, []⟩ : Message) ∈
      messages (fates [] (bare [(1000, 2), (1000, 1), (2186, 0)])) := by
    decide
  have hcrashed : Crashed (session none).gathered
      (fates [] (bare [(1000, 2), (1000, 1), (2186, 0)])) := by
    refine ⟨[], ⟨1000, some 2, []⟩, [.item (.message ⟨1000, some 1, []⟩),
      .item (.message ⟨2186, some 0, []⟩)], by decide, by decide, by decide, ?_⟩
    exact not_first_nil _ _
  obtain ⟨report, hresult, _, hfatal⟩ := fatal_iff_crashed hrun hm (by decide)
  exact ⟨report, hresult, hfatal.mpr hcrashed⟩

/-- A tool bug behind an error is not fatal. -/
theorem not_fatal_of_late_bug :
    ¬∀ (spec : Option Text) (lines : List Text) (m : Message) (report : CheckReport),
      (Protocol.Reading.readLines decoder (session spec) lines false).2.fault = none →
        m ∈ messages (fates [] lines) → m.subCode = some 2 → m.code ≠ 2219 → m.code ≠ 2220 →
          (Protocol.Reading.readLines decoder (session spec) lines false).1.result =
            some report → report.outcome = .fatal := by
  intro hfatal
  have hrun : (Protocol.Reading.readLines decoder (session none)
      (bare [(1000, 1), (1000, 2)]) false).2.fault = none := by
    decide
  have hm : (⟨1000, some 2, []⟩ : Message) ∈
      messages (fates [] (bare [(1000, 1), (1000, 2)])) := by
    decide
  have houtcome : (Protocol.Reading.readLines decoder (session none)
      (bare [(1000, 1), (1000, 2)]) false).1.result.map (·.outcome) = some .error := by
    decide
  obtain ⟨report, hresult, herror⟩ := Option.map_eq_some_iff.mp houtcome
  have hcontra := hfatal none _ _ report hrun hm rfl (by decide) (by decide) hresult
  rw [hcontra] at herror
  cases herror

end TlaRunner.Checker
