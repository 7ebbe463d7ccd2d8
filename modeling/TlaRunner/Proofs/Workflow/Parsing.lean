import TlaRunner.Proofs.Workflow.Output

/-!
# Parses show all or nothing

A parse runs two tools one after the other.  Each of them passes or does not: it passes if its
report is that of its whole output and its process has ended by itself, with a status that is no
failure (`Floor.Passes`).  The second one is run only where the first has passed, and the findings
of both are shown together where both have passed, once, and never otherwise
(`Floor.parses_all_or_nothing`).

`ParseRun.Went` says which tools have passed at each stage of a parse.
-/

namespace TlaRunner.Workflow

open Files (Host SpecFiles)
open Supervision (Behavior Child Exit)
open Diagnostic (Collection Mapping Sink)
open Protocol (Reading)

/-! ## One parse -/

namespace ParseRun

/-- The tool whose process a parse waits for passes, with this report. -/
inductive Passes (b : Bench) : ParseRun → Tool → ParseReport → Prop
  | transpiler {spec : SpecFiles} {process : Nat} {report : ParseReport} {c : Child}
      (hchild : b.child? process = some c) (hpasses : (transpilerPlan spec).Passes c report) :
      Passes b ⟨spec, .transpiling (.exiting process report)⟩ .transpiler report
  | analyzer {spec : SpecFiles} {transpiled : ParseReport} {process : Nat} {report : ParseReport}
      {c : Child} (hchild : b.child? process = some c)
      (hpasses : (analyzerPlan spec).Passes c report) :
      Passes b ⟨spec, .analyzing transpiled (.exiting process report)⟩ .analyzer report

/-- How far a parse is, given which tools have passed. -/
inductive Went (spec : SpecFiles) (b : Bench) : ParseStage → List (Tool × ParseReport) → Prop
  /-- The transpiler runs. -/
  | transpiles {stage : Stage Transpiler.State ParseReport} (hopen : stage.isEnded = false)
      (hhears : (transpilerPlan spec).Hears b stage) : Went spec b (.transpiling stage) []
  /-- The analyzer runs behind the transpiler. -/
  | analyzes {transpiled : ParseReport} {stage : Stage Analyzer.Grammar ParseReport}
      (hopen : stage.isEnded = false) (hhears : (analyzerPlan spec).Hears b stage) :
      Went spec b (.analyzing transpiled stage) [(.transpiler, transpiled)]
  /-- Both have passed. -/
  | succeeds {outcome : ParseOutcome}
      (hmerged : outcome.diagnostics = merge outcome.transpiler outcome.analyzer) :
      Went spec b (.ended (.ok outcome))
        [(.transpiler, outcome.transpiler), (.analyzer, outcome.analyzer)]
  /-- The parse has failed. -/
  | fails {failure : Failure} {passed : List (Tool × ParseReport)}
      (hpassed : ∀ report, (.analyzer, report) ∉ passed) :
      Went spec b (.ended (.error failure)) passed

variable {spec : SpecFiles} {b : Bench}

/-- A run ends with a report for the parse where its exit is no failure. -/
theorem reportOf_ok_iff {tool : Tool} {last : Except Failure (ParseReport × Exit)}
    {report : ParseReport} :
    reportOf tool last = .ok report ↔
      ∃ exit, last = .ok (report, exit) ∧ exit.failure? tool.displayName = none := by
  cases last with
  | error failure =>
      refine iff_of_false (fun h => by cases h) ?_
      rintro ⟨_, h, _⟩
      cases h
  | ok made =>
      obtain ⟨made, exit⟩ := made
      rw [reportOf]
      constructor
      · intro h
        split at h
        next => cases h
        next hnone =>
          cases h
          exact ⟨exit, rfl, hnone⟩
      · rintro ⟨_, h, hnone⟩
        cases h
        rw [hnone]

/-- A run of a parse ends with a report where the tool passes and the run takes a step. -/
theorem ended_iff {σ : Type} {p : Plan σ ParseReport} {stage : Stage σ ParseReport}
    (h : p.Hears b stage) (hopen : stage.isEnded = false) (tool : Tool) (act : Act)
    {report : ParseReport} :
    (∃ last, (p.act b stage act).2 = .ended last ∧ reportOf tool last = .ok report) ↔
      act = .step ∧ ∃ process c, stage = .exiting process report ∧
        b.child? process = some c ∧ p.Passes c report := by
  rw [← h.ended_iff hopen act tool.displayName]
  constructor
  · rintro ⟨last, hended, hreport⟩
    obtain ⟨exit, rfl, hexit⟩ := reportOf_ok_iff.mp hreport
    exact ⟨exit, hended, hexit⟩
  · rintro ⟨exit, hended, hexit⟩
    exact ⟨_, hended, reportOf_ok_iff.mpr ⟨exit, rfl, hexit⟩⟩

theorem passes_transpiling {stage : Stage Transpiler.State ParseReport} {tool : Tool}
    {report : ParseReport} :
    Passes b ⟨spec, .transpiling stage⟩ tool report ↔ tool = .transpiler ∧ ∃ process c,
      stage = .exiting process report ∧ b.child? process = some c ∧
        (transpilerPlan spec).Passes c report := by
  constructor
  · intro h
    cases h with
    | transpiler hchild hpasses => exact ⟨rfl, _, _, rfl, hchild, hpasses⟩
  · rintro ⟨rfl, process, c, rfl, hchild, hpasses⟩
    exact .transpiler hchild hpasses

theorem passes_analyzing {transpiled : ParseReport} {stage : Stage Analyzer.Grammar ParseReport}
    {tool : Tool} {report : ParseReport} :
    Passes b ⟨spec, .analyzing transpiled stage⟩ tool report ↔ tool = .analyzer ∧ ∃ process c,
      stage = .exiting process report ∧ b.child? process = some c ∧
        (analyzerPlan spec).Passes c report := by
  constructor
  · intro h
    cases h with
    | analyzer hchild hpasses => exact ⟨rfl, _, _, rfl, hchild, hpasses⟩
  · rintro ⟨rfl, process, c, rfl, hchild, hpasses⟩
    exact .analyzer hchild hpasses

/-- What happens beside a parse does not matter. -/
theorem Went.of_beside {after : Bench} {stage : ParseStage} {passed : List (Tool × ParseReport)}
    (h : Went spec b stage passed)
    (hbeside : ∀ process c, (Task.parse ⟨spec, stage⟩).awaited? = some process →
      b.child? process = some c → ∃ c', after.child? process = some c' ∧ c.Beside c') :
    Went spec after stage passed := by
  cases h with
  | transpiles hopen hhears => exact .transpiles hopen (hhears.of_beside hbeside)
  | analyzes hopen hhears => exact .analyzes hopen (hhears.of_beside hbeside)
  | succeeds hmerged => exact .succeeds hmerged
  | fails hpassed => exact .fails hpassed

/-- What passes when something happens to a parse: one tool at most. -/
def IsPassed (b : Bench) (run : ParseRun) (act : Act) (passing : List (Tool × ParseReport)) :
    Prop :=
  ∀ tool report, (tool, report) ∈ passing ↔ act = .step ∧ run.Passes b tool report

/-- Whether it is the run of a tool that decides what passes, by the stage it comes to. -/
def Decides {σ : Type} (b : Bench) (run : ParseRun) (act : Act) (tool : Tool)
    (next : Stage σ ParseReport) : Prop :=
  ∀ other report, act = .step ∧ run.Passes b other report ↔
    other = tool ∧ ∃ last, next = .ended last ∧ reportOf tool last = .ok report

section

variable {σ : Type} {run : ParseRun} {act : Act} {tool : Tool} {next : Stage σ ParseReport}

/-- Nothing passes where the run goes on or fails. -/
theorem Decides.nothing (h : Decides b run act tool next)
    (hnext : ∀ last report, next = .ended last → reportOf tool last ≠ .ok report) :
    IsPassed b run act [] := by
  intro other report
  rw [h]
  refine iff_of_false List.not_mem_nil ?_
  rintro ⟨_, last, hlast, hreport⟩
  exact hnext last report hlast hreport

/-- The tool passes where the run ends with a report. -/
theorem Decides.once (h : Decides b run act tool next)
    {last : Except Failure (ParseReport × Exit)} (hlast : next = .ended last)
    {made : ParseReport} (hmade : reportOf tool last = .ok made) :
    IsPassed b run act [(tool, made)] := by
  intro other report
  rw [h, List.mem_singleton, Prod.mk.injEq]
  refine and_congr_right fun _ => ⟨?_, ?_⟩
  · rintro rfl
    exact ⟨last, hlast, hmade⟩
  · rintro ⟨same, hsame, hreport⟩
    obtain rfl := Stage.ended.inj (hsame.symm.trans hlast)
    exact Except.ok.inj (hreport.symm.trans hmade)

theorem decides_transpiling {stage : Stage Transpiler.State ParseReport}
    (hopen : stage.isEnded = false) (hhears : (transpilerPlan spec).Hears b stage) (act : Act) :
    Decides b ⟨spec, .transpiling stage⟩ act .transpiler
      ((transpilerPlan spec).act b stage act).2 := by
  intro other report
  rw [passes_transpiling, ended_iff hhears hopen, and_left_comm]

theorem decides_analyzing {transpiled : ParseReport} {stage : Stage Analyzer.Grammar ParseReport}
    (hopen : stage.isEnded = false) (hhears : (analyzerPlan spec).Hears b stage) (act : Act) :
    Decides b ⟨spec, .analyzing transpiled stage⟩ act .analyzer
      ((analyzerPlan spec).act b stage act).2 := by
  intro other report
  rw [passes_analyzing, ended_iff hhears hopen, and_left_comm]

end

/-- The transpiler goes on, or fails, or passes, and then the analyzer comes. -/
theorem Went.act_transpiling {stage : Stage Transpiler.State ParseReport}
    (hopen : stage.isEnded = false) (hhears : (transpilerPlan spec).Hears b stage) (act : Act) :
    let next := enterTranspiling ((transpilerPlan spec).act b stage act)
    ∃ passing, IsPassed b ⟨spec, .transpiling stage⟩ act passing ∧
      Went spec next.1 next.2 passing := by
  have hnext := hhears.act rfl act
  have hdecides := decides_transpiling hopen hhears act
  generalize (transpilerPlan spec).act b stage act = ran at hnext hdecides
  obtain ⟨after, next⟩ := ran
  cases next with
  | ended last =>
      cases hreport : reportOf .transpiler last with
      | error failure =>
          refine ⟨[], hdecides.nothing fun other report hother hmade => ?_, ?_⟩
          · cases hother
            rw [hreport] at hmade
            cases hmade
          · rw [enterTranspiling, hreport]
            exact .fails fun _ => List.not_mem_nil
      | ok made =>
          refine ⟨_, hdecides.once rfl hreport, ?_⟩
          rw [enterTranspiling, hreport]
          exact .analyzes rfl (.rests rfl)
  | _ => exact ⟨[], hdecides.nothing (fun _ _ h => by cases h), .transpiles rfl hnext⟩

/-- The analyzer goes on, or fails, or passes, and then the findings are shown. -/
theorem Went.act_analyzing {transpiled : ParseReport} {stage : Stage Analyzer.Grammar ParseReport}
    (hopen : stage.isEnded = false) (hhears : (analyzerPlan spec).Hears b stage) (act : Act) :
    let next := enterAnalyzing transpiled ((analyzerPlan spec).act b stage act)
    ∃ passing, IsPassed b ⟨spec, .analyzing transpiled stage⟩ act passing ∧
      Went spec next.1 next.2 ((.transpiler, transpiled) :: passing) := by
  have hnext := hhears.act rfl act
  have hdecides : Decides b ⟨spec, .analyzing transpiled stage⟩ act .analyzer _ :=
    decides_analyzing hopen hhears act
  generalize (analyzerPlan spec).act b stage act = ran at hnext hdecides
  obtain ⟨after, next⟩ := ran
  cases next with
  | ended last =>
      cases hreport : reportOf .analyzer last with
      | error failure =>
          refine ⟨[], hdecides.nothing fun other report hother hmade => ?_, ?_⟩
          · cases hother
            rw [hreport] at hmade
            cases hmade
          · rw [enterAnalyzing, hreport]
            exact .fails fun _ hmem => by cases List.mem_singleton.mp hmem
      | ok made =>
          refine ⟨_, hdecides.once rfl hreport, ?_⟩
          rw [enterAnalyzing, hreport]
          exact .succeeds rfl
  | _ => exact ⟨[], hdecides.nothing (fun _ _ h => by cases h), .analyzes rfl hnext⟩

/-- Whatever happens to a parse, what has passed by then says how far it is. -/
theorem Went.act {stage : ParseStage} {passed : List (Tool × ParseReport)}
    (h : Went spec b stage passed) (act : Act) :
    ∃ after next passing, (Task.parse ⟨spec, stage⟩).act b act = (after, .parse ⟨spec, next⟩) ∧
      IsPassed b ⟨spec, stage⟩ act passing ∧ Went spec after next (passed ++ passing) := by
  have hended {result : Except Failure ParseOutcome} : IsPassed b ⟨spec, .ended result⟩ act [] :=
    fun tool report => iff_of_false List.not_mem_nil fun h => by cases h.2
  have hresult {result : Except Failure ParseOutcome} :
      (Task.parse ⟨spec, .ended result⟩).act b act = (b, .parse ⟨spec, .ended result⟩) :=
    Task.act_of_result? (fun h => by cases h) b act
  cases h with
  | transpiles hopen hhears =>
      obtain ⟨passing, hpassing, hwent⟩ := Went.act_transpiling hopen hhears act
      exact ⟨_, _, passing, Task.act_transpiling b spec _ act, hpassing, hwent⟩
  | analyzes hopen hhears =>
      obtain ⟨passing, hpassing, hwent⟩ := Went.act_analyzing hopen hhears act
      exact ⟨_, _, passing, Task.act_analyzing b spec _ _ act, hpassing, hwent⟩
  | succeeds hmerged => exact ⟨b, _, [], hresult, hended, .succeeds hmerged⟩
  | fails hpassed =>
      refine ⟨b, _, [], hresult, hended, ?_⟩
      rw [List.append_nil]
      exact .fails hpassed

/-- The findings of a report are those that its tool announced. -/
theorem replays_transpiler {output : Bytes} {report : ParseReport}
    (h : (transpilerPlan spec).Reports output report) :
    ∃ named found, report.diagnostics.Replays named found := by
  obtain ⟨hfault, hresult⟩ := h.lines
  have hheld : (Transpiler.session spec.modulePath.toText).gathered.diagnostics.Holds
      [spec.modulePath.toText] [] :=
    Collection.holds_empty.addFile spec.modulePath.toText
  obtain ⟨made, hmade, htells⟩ := Protocol.tells_of_readLines Transpiler.announces hheld
    (·.diagnostics) (fun _ _ => rfl) hfault
  obtain rfl := Option.some.inj (hmade.symm.trans hresult)
  exact ⟨_, _, htells.replays⟩

theorem replays_analyzer {output : Bytes} {report : ParseReport}
    (h : (analyzerPlan spec).Reports output report) :
    ∃ named found, report.diagnostics.Replays named found := by
  obtain ⟨hfault, hresult⟩ := h.lines
  obtain ⟨made, hmade, htells⟩ := Protocol.tells_of_readLines Analyzer.announces
    Collection.holds_empty (·.diagnostics) (fun _ _ => rfl) hfault
  obtain rfl := Option.some.inj (hmade.symm.trans hresult)
  exact ⟨_, _, htells.replays⟩

theorem Passes.replays {run : ParseRun} {tool : Tool} {report : ParseReport}
    (h : run.Passes b tool report) : ∃ named found, report.diagnostics.Replays named found := by
  cases h with
  | transpiler _ hpasses =>
      obtain ⟨output, _, hreports⟩ := hpasses.reports
      exact replays_transpiler hreports
  | analyzer _ hpasses =>
      obtain ⟨output, _, hreports⟩ := hpasses.reports
      exact replays_analyzer hreports

end ParseRun

/-! ## All incidents -/

namespace Floor

/-- A tool of a parse passes at an incident: the parse waits for its process, which passes, and
takes a step. -/
def Passes (f : Floor) (number : Nat) (tool : Tool) (report : ParseReport) (i : Incident) : Prop :=
  i = .move (.act .step number) ∧
    ∃ run, f.tasks[number]? = some (.parse run) ∧ run.Passes f.bench tool report

/-- A tool of a parse has passed, with this report. -/
def Passed (first : Floor) (incidents : List Incident) (number : Nat) (tool : Tool)
    (report : ParseReport) : Prop :=
  first.Occurs (fun f i => f.Passes number tool report i) incidents

variable {first : Floor} {incidents : List Incident} {number : Nat}

theorem passed_concat {i : Incident} {tool : Tool} {report : ParseReport} :
    first.Passed (incidents ++ [i]) number tool report ↔
      first.Passed incidents number tool report ∨
        (first.pass incidents).Passes number tool report i :=
  first.occurs_concat _

/-- No task is lost. -/
theorem length_pass (f : Floor) (incidents : List Incident) :
    f.tasks.length ≤ (f.pass incidents).tasks.length := by
  induction incidents generalizing f with
  | nil => exact Nat.le_refl _
  | cons i rest ih => exact Nat.le_trans (f.length_meet i) (ih (f.meet i))

/-- Only a parse that is there has passed. -/
theorem Passed.there {tool : Tool} {report : ParseReport}
    (h : first.Passed incidents number tool report) :
    (first.pass incidents).tasks[number]? ≠ none := by
  obtain ⟨before, i, rest, rfl, _, run, hrun, _⟩ := h
  have hearly := (List.getElem?_eq_some_iff.mp hrun).1
  have hlate := length_pass (first.pass before) (i :: rest)
  rw [← pass_append] at hlate
  rw [ne_eq, List.getElem?_eq_none_iff, Nat.not_le]
  exact Nat.lt_of_lt_of_le hearly hlate

theorem separate_pass {f : Floor} (h : f.Separate) (hkept : f.Kept) (incidents : List Incident) :
    (f.pass incidents).Separate := by
  induction incidents generalizing f with
  | nil => exact h
  | cons i rest ih => exact ih (separate_meet h hkept i) (kept_meet hkept i)

/-- How far a parse is, by what has passed. -/
def Gone (first : Floor) (incidents : List Incident) (number : Nat) (run : ParseRun) : Prop :=
  ∃ passed, (∀ tool report, first.Passed incidents number tool report ↔ (tool, report) ∈ passed) ∧
    ParseRun.Went run.spec (first.pass incidents).bench run.stage passed

/-- What happens to a parse takes it further, with what passes then. -/
theorem Gone.act {before : ParseRun} (h : first.Gone incidents number before) {act : Act}
    (hbefore : (first.pass incidents).tasks[number]? = some (.parse before)) {run : ParseRun}
    (hrun : (first.pass (incidents ++ [.move (.act act number)])).tasks[number]? =
      some (.parse run)) :
    first.Gone (incidents ++ [.move (.act act number)]) number run := by
  obtain ⟨passed, hpassed, hwent⟩ := h
  obtain ⟨after, next, passing, hact, hpassing, hnext⟩ := hwent.act act
  have hmeet : first.pass (incidents ++ [.move (.act act number)]) =
      ⟨after, (first.pass incidents).tasks.set number (.parse ⟨before.spec, next⟩)⟩ := by
    rw [pass_concat, meet, move, act_of_getElem? hbefore, hact]
  rw [hmeet, List.getElem?_set_self (List.getElem?_eq_some_iff.mp hbefore).1] at hrun
  cases hrun
  refine ⟨passed ++ passing, fun tool report => ?_, ?_⟩
  · rw [passed_concat, List.mem_append, hpassed, hpassing]
    refine or_congr_right ⟨?_, ?_⟩
    · rintro ⟨hstep, other, hother, hpasses⟩
      cases hstep
      rw [hbefore] at hother
      cases hother
      exact ⟨rfl, hpasses⟩
    · rintro ⟨rfl, hpasses⟩
      exact ⟨rfl, before, hbefore, hpasses⟩
  · rw [hmeet]
    exact hnext

/-- What happens elsewhere leaves a parse where it is. -/
theorem Gone.beside {run : ParseRun} (h : first.Gone incidents number run)
    (hseparate : (first.pass incidents).Separate)
    (hrun : (first.pass incidents).tasks[number]? = some (.parse run)) {i : Incident}
    (hother : ∀ act, i ≠ .move (.act act number)) :
    first.Gone (incidents ++ [i]) number run := by
  obtain ⟨passed, hpassed, hwent⟩ := h
  refine ⟨passed, fun tool report => ?_, ?_⟩
  · rw [passed_concat, ← hpassed, or_iff_left fun hpasses => hother .step hpasses.1]
  · rw [pass_concat]
    exact hwent.of_beside fun process c hprocess hc => hseparate.beside hrun hprocess hother hc

/-- A parse that is begun has nothing behind it. -/
theorem gone_new {run : ParseRun} (hnone : (first.pass incidents).tasks[number]? = none)
    (hnew : IsNew (.parse run)) {i : Incident} (hother : ∀ act, i ≠ .move (.act act number)) :
    first.Gone (incidents ++ [i]) number run := by
  obtain ⟨spec, stage⟩ := run
  obtain rfl : stage = .transpiling .locating := hnew
  refine ⟨[], fun tool report => iff_of_false ?_ List.not_mem_nil, .transpiles rfl (.rests rfl)⟩
  rw [passed_concat]
  rintro (hpassed | hpasses)
  · exact hpassed.there hnone
  · exact hother .step hpasses.1

/-- However things happen, what has passed says how far each parse is. -/
theorem gone_pass (hkept : first.Kept) (hseparate : first.Separate) (hempty : first.tasks = [])
    (incidents : List Incident) {number : Nat} {run : ParseRun}
    (hrun : (first.pass incidents).tasks[number]? = some (.parse run)) :
    first.Gone incidents number run := by
  induction incidents using List.reverseRecOn generalizing run with
  | nil =>
      change first.tasks[number]? = _ at hrun
      rw [hempty] at hrun
      cases hrun
  | append_singleton incidents i ih =>
      rcases i.acts_or number with ⟨act, rfl⟩ | hother
      · cases htask : (first.pass incidents).tasks[number]? with
        | none =>
            rw [pass_concat, meet, move, Floor.act, htask] at hrun
            rw [htask] at hrun
            cases hrun
        | some task =>
            cases task with
            | check c =>
                rw [pass_concat, meet, move, act_of_getElem? htask, Task.act_check,
                  List.getElem?_set_self (List.getElem?_eq_some_iff.mp htask).1] at hrun
                cases hrun
            | parse before => exact (ih htask).act htask hrun
      · rw [pass_concat] at hrun
        rcases task_of_meet hrun with hold | ⟨act, _, hsame, _⟩ | ⟨hnone, hnew⟩
        · exact (ih hold).beside (separate_pass hseparate hkept incidents) hold hother
        · exact absurd hsame (hother act)
        · exact gone_new hnone hnew hother

/-- What parses show, whatever has happened. -/
structure AllOrNothing (first : Floor) (incidents : List Incident) : Prop where
  /-- The findings in the ledger are shown one after the other, if anybody follows; each time they
  replace what was shown before. -/
  sink : (first.pass incidents).bench.sink =
    if first.bench.attended then
      ((first.ledger incidents).map Prod.snd).foldl Sink.publish .empty
    else .empty
  /-- So the last entry is on display, and there was one replacement for each. -/
  displays : Displays (first.pass incidents).bench.sink first.bench.attended
    (first.ledger incidents)
  /-- A parse comes to the analyzer behind the transpiler, which has passed. -/
  ordered : ∀ (number : Nat) (spec : SpecFiles) (transpiled : ParseReport)
    (stage : Stage Analyzer.Grammar ParseReport),
    (first.pass incidents).tasks[number]? = some (.parse ⟨spec, .analyzing transpiled stage⟩) →
      first.Passed incidents number .transpiler transpiled
  /-- Where both tools have passed, the ledger has one entry, which joins their findings. -/
  all : ∀ (number : Nat) (run : ParseRun) (transpiled analyzed : ParseReport),
    (first.pass incidents).tasks[number]? = some (.parse run) →
      first.Passed incidents number .transpiler transpiled →
        first.Passed incidents number .analyzer analyzed →
          ∃ found, (first.ledger incidents).filter (·.1 = number) = [(number, found)] ∧
            found.mapping.Joins transpiled.diagnostics analyzed.diagnostics
  /-- Otherwise it has none. -/
  nothing : ∀ (number : Nat) (run : ParseRun),
    (first.pass incidents).tasks[number]? = some (.parse run) →
      (¬∃ transpiled analyzed, first.Passed incidents number .transpiler transpiled ∧
        first.Passed incidents number .analyzer analyzed) →
          (first.ledger incidents).filter (·.1 = number) = []

theorem Passed.replays {tool : Tool} {report : ParseReport}
    (h : first.Passed incidents number tool report) :
    ∃ named found, report.diagnostics.Replays named found := by
  obtain ⟨_, _, _, _, _, _, _, hpasses⟩ := h
  exact hpasses.replays

/-- The entries of a task are its findings, if it has come to some. -/
theorem ledger_of_empty (hempty : first.tasks = []) (incidents : List Incident) (number : Nat) :
    (first.ledger incidents).filter (·.1 = number) =
      ((first.pass incidents).findings? number).toList.map (number, ·) := by
  have hnone : first.findings? number = none := by
    rw [findings?, hempty]
    rfl
  rw [filter_ledger, hnone]
  rfl

theorem Gone.ordered {spec : SpecFiles} {transpiled : ParseReport}
    {stage : Stage Analyzer.Grammar ParseReport}
    (h : first.Gone incidents number ⟨spec, .analyzing transpiled stage⟩) :
    first.Passed incidents number .transpiler transpiled := by
  obtain ⟨passed, hpassed, hwent⟩ := h
  cases hwent with
  | analyzes _ _ => exact (hpassed _ _).mpr (List.mem_singleton.mpr rfl)

/-- A parse whose tools have both passed has come to the findings of both. -/
theorem Gone.all {run : ParseRun} (h : first.Gone incidents number run)
    {transpiled analyzed : ParseReport}
    (htranspiled : first.Passed incidents number .transpiler transpiled)
    (hanalyzed : first.Passed incidents number .analyzer analyzed) :
    (Task.parse run).findings? = some (ParseRun.merge transpiled analyzed) := by
  obtain ⟨spec, stage⟩ := run
  obtain ⟨passed, hpassed, hwent⟩ := h
  have hfirst := (hpassed _ _).mp htranspiled
  have hlast := (hpassed _ _).mp hanalyzed
  cases hwent with
  | transpiles _ _ => cases hfirst
  | analyzes _ _ => cases List.mem_singleton.mp hlast
  | @succeeds outcome hmerged =>
      have htool : Tool.transpiler ≠ .analyzer := by decide
      simp only [List.mem_cons, Prod.mk.injEq, List.not_mem_nil, or_false, true_and, htool,
        htool.symm, false_and, or_false, false_or] at hfirst hlast
      rw [hfirst, hlast, ← hmerged]
      rfl
  | fails hpassed => exact absurd hlast (hpassed analyzed)

/-- Any other parse has none. -/
theorem Gone.nothing {run : ParseRun} (h : first.Gone incidents number run)
    (hnot : ¬∃ transpiled analyzed, first.Passed incidents number .transpiler transpiled ∧
      first.Passed incidents number .analyzer analyzed) :
    (Task.parse run).findings? = none := by
  obtain ⟨spec, stage⟩ := run
  obtain ⟨passed, hpassed, hwent⟩ := h
  cases hwent with
  | transpiles _ _ => rfl
  | analyzes _ _ => rfl
  | @succeeds outcome _ =>
      refine absurd ⟨outcome.transpiler, outcome.analyzer, ?_, ?_⟩ hnot
      · exact (hpassed _ _).mpr List.mem_cons_self
      · exact (hpassed _ _).mpr (List.mem_cons_of_mem _ List.mem_cons_self)
  | fails _ => rfl

/-- Whatever happens on a floor, parses show all that their tools found or nothing. -/
theorem parses_all_or_nothing (host : Host) (config : Config) (attended : Bool)
    (javaBehavior : Behavior) (behaviors : List Behavior) (incidents : List Incident) :
    (empty (.idle host config attended javaBehavior behaviors)).AllOrNothing incidents := by
  have hkept := kept_idle host config attended javaBehavior behaviors
  have hseparate := separate_empty (.idle host config attended javaBehavior behaviors)
  have hempty : (empty (.idle host config attended javaBehavior behaviors)).tasks = [] := rfl
  have hsink : (empty (.idle host config attended javaBehavior behaviors)).bench.sink = .empty :=
    rfl
  generalize empty (.idle host config attended javaBehavior behaviors) = first at *
  have hgone (number : Nat) (run : ParseRun)
      (hrun : (first.pass incidents).tasks[number]? = some (.parse run)) :
      first.Gone incidents number run :=
    gone_pass hkept hseparate hempty incidents hrun
  have hledger := ledger_of_empty hempty incidents
  refine ⟨by rw [sink_pass, hsink], displays_pass hsink incidents,
    fun number spec transpiled stage hrun => (hgone _ _ hrun).ordered,
    fun number run transpiled analyzed hrun htranspiled hanalyzed => ?_,
    fun number run hrun hnot => ?_⟩
  · obtain ⟨_, _, hfirst⟩ := htranspiled.replays
    obtain ⟨_, _, hlast⟩ := hanalyzed.replays
    refine ⟨ParseRun.merge transpiled analyzed, ?_, Collection.joins_merge hfirst hlast⟩
    rw [hledger, findings?, hrun, Option.bind_some, (hgone _ _ hrun).all htranspiled hanalyzed]
    rfl
  · rw [hledger, findings?, hrun, Option.bind_some, (hgone _ _ hrun).nothing hnot]
    rfl

/-- A transpiler that finds something is followed by the analyzer, and one that fails is not. -/
example :
    let parse (status : Int) := (empty (.idle Workshop.host Workshop.settings true Workshop.java
      [.runs ⟨some [], some [], status, .atOnce, 0, false⟩])).run
        (.parse Workshop.spec :: List.replicate 9 (.act .step 0))
    (parse 9).bench.calls.length = 3 ∧ (parse 9).bench.sink = ⟨[("/A.tla".toList, [])], 1⟩ ∧
      (parse 10).bench.calls.length = 2 ∧ (parse 10).bench.sink = .empty := by decide

end Floor

end TlaRunner.Workflow
