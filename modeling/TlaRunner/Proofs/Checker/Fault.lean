import TlaRunner.Proofs.Analyzer.Grammar
import TlaRunner.Proofs.Checker.Verdict
import TlaRunner.Proofs.Protocol.Fault

/-!
# Which output of the model checker is refused

Numbers of locations, states, depths and coverage lines are read by patterns that ask for
a digit, so on short lines they can always be read, and a module always has a place beside
a module that has a name.  The pattern of a counter is wider: it lets digits be missing
between the commas.  A counter of nothing but commas is hollow, and reading it is the only
way to refuse short lines (`fault_eq_garbled`).

The module goes by role.  Each handler is shown to read its message, or to refuse it for a
hollow counter; `fault_onMessage` puts them together, and a run is the list of its messages.
-/

namespace TlaRunner.Checker

open Text (Scan IsNumeralIn)
open Protocol (Gathered Step Event Fault Message Delivery deliver fates readNumber_of_numeralIn)

variable {t : Text}

/-! ## Patterns -/

/-- Whether digits or commas, one at least, stand in a text. -/
structure IsCounterIn (t run : Text) : Prop where
  /-- There is something. -/
  ne_nil : run ≠ []
  /-- It has digits and commas only. -/
  counter : ∀ c ∈ run, isCounter c = true
  /-- It is part of the text. -/
  part : run <:+: t

theorem within_isCounter : Scan.Within t (Scan.some1 isCounter) (IsCounterIn t) :=
  (Scan.within_some1 isCounter).mono fun _ h => ⟨h.1, h.2.1, h.2.2⟩

/-- Whether the three counters stand in a text. -/
structure Counters.In (t : Text) (c : Counters) : Prop where
  /-- The states generated do. -/
  generated : IsCounterIn t c.generated
  /-- The distinct states do. -/
  distinct : IsCounterIn t c.distinct
  /-- The states left do. -/
  left : IsCounterIn t c.left

theorem within_progressLeft : Scan.Within t progressLeft (IsCounterIn t) := by
  refine (Scan.within_literal _).bind fun _ _ => within_isCounter.bind fun left hleft => ?_
  exact (Scan.within_literal _).bind fun _ _ => Scan.within_pure hleft

theorem within_progressDistinct : Scan.Within t progressDistinct fun found =>
    IsCounterIn t found.1 ∧ IsCounterIn t found.2 := by
  refine (Scan.within_literal _).bind fun _ _ => within_isCounter.bind fun distinct hdistinct => ?_
  refine (Scan.within_literal _).bind fun _ _ => (within_progressLeft.shortest 0).bind ?_
  rintro ⟨_, left⟩ hleft
  exact Scan.within_pure ⟨hdistinct, hleft⟩

theorem within_progressCounters : Scan.Within t progressCounters (Counters.In t) := by
  refine (Scan.within_literal _).bind fun _ _ =>
    within_isCounter.bind fun generated hgenerated => ?_
  refine (Scan.within_literal _).bind fun _ _ => (within_progressDistinct.shortest 0).bind ?_
  rintro ⟨_, distinct, left⟩ ⟨hdistinct, hleft⟩
  exact Scan.within_pure ⟨hgenerated, hdistinct, hleft⟩

theorem within_progressLine : Scan.Within t progressLine fun d =>
    IsNumeralIn t d.diameter ∧ d.counters.In t := by
  refine (Scan.within_literal _).bind fun _ _ =>
    Scan.within_digits.bind fun diameter hdiameter => ?_
  refine (Scan.within_literal _).bind fun _ _ => (within_progressCounters.shortest 1).bind ?_
  rintro ⟨_, counters⟩ hcounters
  exact Scan.within_pure ⟨hdiameter, hcounters⟩

theorem within_statsLine : Scan.Within t statsLine (Counters.In t) := by
  refine within_isCounter.bind fun generated hgenerated =>
    (Scan.within_literal _).bind fun _ _ => ?_
  refine within_isCounter.bind fun distinct hdistinct => (Scan.within_literal _).bind fun _ _ => ?_
  refine within_isCounter.bind fun left hleft => (Scan.within_literal _).bind fun _ _ => ?_
  exact Scan.within_pure ⟨hgenerated, hdistinct, hleft⟩

theorem within_depthLine : Scan.Within t depthLine (IsNumeralIn t) :=
  (Scan.within_literal _).bind fun _ _ => Scan.within_digits

theorem within_coverageTail : Scan.Within t coverageTail fun found =>
    IsNumeralIn t found.2.1 ∧ IsNumeralIn t found.2.2 := by
  refine (Scan.within_literal _).bind fun _ _ => (Scan.within_some1 _).bind fun _ _ => ?_
  refine (Scan.within_literal _).bind fun _ _ => Scan.within_digits.bind fun first hfirst => ?_
  refine (Scan.within_literal _).bind fun _ _ => Scan.within_digits.bind fun second hsecond => ?_
  exact Scan.within_pure ⟨hfirst, hsecond⟩

theorem within_coverageLine : Scan.Within t coverageLine fun d =>
    IsNumeralIn t d.first ∧ IsNumeralIn t d.second := by
  refine (Scan.within_literal _).bind fun _ _ => (Scan.within_some1 _).bind fun _ _ => ?_
  refine (Scan.within_literal _).bind fun _ _ => (within_coverageTail.longest 1).bind ?_
  rintro ⟨_, _, first, second⟩ hfound
  exact Scan.within_pure hfound

theorem within_column : Scan.Within t column (IsNumeralIn t) := by
  refine (Scan.within_literal _).bind fun _ _ => ?_
  refine (Scan.within_literal _).optional.bind fun _ _ => ?_
  exact (Scan.within_literal _).bind fun _ _ => Scan.within_digits

/-- Whether the digits of a location are numerals in a text. -/
structure LocationDigits.In (t : Text) (d : LocationDigits) : Prop where
  /-- The first line is. -/
  line : IsNumeralIn t d.line
  /-- The first column is. -/
  column : IsNumeralIn t d.column
  /-- The last line is. -/
  endLine : IsNumeralIn t d.endLine
  /-- The last column is. -/
  endColumn : IsNumeralIn t d.endColumn

theorem within_location : Scan.Within t location (LocationDigits.In t) := by
  refine (Scan.within_literal _).bind fun _ _ => Scan.within_digits.bind fun line hline => ?_
  refine within_column.bind fun first hfirst => (Scan.within_literal _).bind fun _ _ => ?_
  refine Scan.within_digits.bind fun endLine hendLine => within_column.bind fun last hlast => ?_
  refine (Scan.within_literal _).bind fun _ _ => (Scan.within_some1 _).bind fun _ _ => ?_
  exact Scan.within_pure ⟨hline, hfirst, hendLine, hlast⟩

theorem within_traceTitle : Scan.Within t traceTitle fun found => IsNumeralIn t found.1 := by
  refine Scan.within_digits.bind fun number hnumber => (Scan.within_literal _).bind fun _ _ => ?_
  refine (Scan.within_many _).bind fun _ _ => Scan.within_atEnd.bind fun _ _ => ?_
  exact Scan.within_pure hnumber

/-! ## Counters -/

/-- Whether a counter has no digit. -/
def isHollow (run : Text) : Bool :=
  run.all (· = ',')

/-- Whether one of three counters has no digit. -/
def Counters.isHollow (c : Counters) : Bool :=
  Checker.isHollow c.generated || Checker.isHollow c.distinct || Checker.isHollow c.left

/-- What a hollow counter is refused for. -/
def hollowFault : Fault := .numeral (.malformed [])

theorem isCounter_newline : isCounter '\n' = false := by decide

/-- A counter in a text without long lines is read, unless it is hollow. -/
theorem readCounter_eq (ht : Text.Narrow t) {run : Text} (h : IsCounterIn t run) :
    Protocol.readCounter run =
      if isHollow run then .error hollowFault
      else .ok (Text.digitsValue (run.filter (· ≠ ','))) := by
  rw [Protocol.readCounter, Text.readCount]
  cases hhollow : isHollow run with
  | true =>
      have hnil : run.filter (· ≠ ',') = [] := by
        rw [List.filter_eq_nil_iff]
        intro c hc
        simpa using of_decide_eq_true (List.all_eq_true.mp hhollow c hc)
      rw [hnil]
      rfl
  | false =>
      have hnumeral : Text.IsNumeral (run.filter (· ≠ ',')) := by
        constructor
        · intro hnil
          rw [List.filter_eq_nil_iff] at hnil
          have hall : isHollow run = true := List.all_eq_true.mpr fun c hc => by
            simpa using hnil c hc
          rw [hall] at hhollow
          cases hhollow
        · intro c hc
          obtain ⟨hmem, hcomma⟩ := List.mem_filter.mp hc
          simpa [isCounter, of_decide_eq_true hcomma] using h.counter c hmem
      have hbreak : '\n' ∉ run := fun hmem => by
        have hcounter := h.counter '\n' hmem
        rw [isCounter_newline] at hcounter
        cases hcounter
      have hlen := (List.length_filter_le (· ≠ ',') run).trans (ht run h.part hbreak)
      rw [Text.readNat_of_length_le hnumeral hlen]
      rfl

/-- Three counters in a text without long lines are read, unless one is hollow. -/
theorem readCounters_eq (ht : Text.Narrow t) {c : Counters} (h : c.In t) (timeStamp : Text)
    (diameter : Nat) :
    ∃ stat, readCounters timeStamp diameter c =
      if c.isHollow then .error hollowFault else .ok stat := by
  let value := fun run : Text => Text.digitsValue (run.filter (· ≠ ','))
  refine ⟨⟨timeStamp, diameter, value c.generated, value c.distinct, value c.left⟩, ?_⟩
  rw [readCounters, readCounter_eq ht h.generated, readCounter_eq ht h.distinct,
    readCounter_eq ht h.left, Counters.isHollow]
  by_cases hgenerated : Checker.isHollow c.generated = true
  · simp only [hgenerated, if_true, Bool.true_or]
    rfl
  · by_cases hdistinct : Checker.isHollow c.distinct = true
    · simp only [hgenerated, hdistinct, if_true, Bool.or_true, Bool.true_or]
      rfl
    · by_cases hleft : Checker.isHollow c.left = true
      · simp only [hgenerated, hdistinct, hleft, if_true, Bool.or_true]
        rfl
      · simp only [hgenerated, hdistinct, hleft, Bool.or_self]
        rfl

/-! ## Handlers -/

/-- Whether the module, if there is one, has a name. -/
def Placed (run : Run) : Prop :=
  ∀ file ∈ run.soFar.specPath, (Path.ofText file).names ≠ []

theorem moduleFile_ok {run : Run} (h : Placed run) (moduleName : Text) :
    ∃ file, moduleFile run moduleName = .ok file := by
  rw [moduleFile.eq_def]
  simp only
  split
  next known spec hspec =>
    split
    next => exact ⟨_, rfl⟩
    next =>
      split
      next => exact ⟨_, rfl⟩
      next =>
        have hnames : (Path.ofText spec).names.isEmpty = false := by
          simpa using h spec hspec
        simp only [Path.withName, hnames, Bool.false_eq_true, if_false]
        exact ⟨_, rfl⟩
  next => exact ⟨_, rfl⟩
  next => exact ⟨_, rfl⟩

theorem readLocation_ok {run : Run} (h : Placed run) (ht : Text.Narrow t) {d : LocationDigits}
    (hd : d.In t) : ∃ place, readLocation run d = .ok place := by
  obtain ⟨file, hfile⟩ := moduleFile_ok h d.moduleName
  simp only [readLocation, hfile, readNumber_of_numeralIn ht hd.line,
    readNumber_of_numeralIn ht hd.column, readNumber_of_numeralIn ht hd.endLine,
    readNumber_of_numeralIn ht hd.endColumn]
  exact ⟨_, rfl⟩

theorem reportAt_ok {g : Gathered Run} (h : Placed g.grammar) (ht : Text.Narrow t) (text : Text)
    {ds : List LocationDigits} (hds : ∀ d ∈ ds, d.In t) :
    ∃ events, (reportAt g text ds).events = .ok events := by
  induction ds generalizing g with
  | nil => exact ⟨[], rfl⟩
  | cons d rest ih =>
      obtain ⟨hd, hrest⟩ := List.forall_mem_cons.mp hds
      obtain ⟨⟨file, range⟩, hplace⟩ := readLocation_ok h ht hd
      have hadded : Placed (g.addRecord tool ⟨file, range, .error, text⟩).1.grammar := h
      obtain ⟨events, hevents⟩ := ih hadded hrest
      rw [reportAt, hplace]
      simp only [hevents]
      exact ⟨_, rfl⟩

theorem placed_markToolBug {g : Gathered Run} (h : Placed g.grammar) (m : Message) :
    Placed (markToolBug g m).grammar := by
  rw [markToolBug]
  split
  · exact h
  · exact h

theorem onError_ok {g : Gathered Run} (h : Placed g.grammar) {m : Message}
    (hm : Text.Narrow m.text) : ∃ events, (onError g m).events = .ok events := by
  rw [onError]
  refine reportAt_ok ?_ hm _ (within_location.findAll (List.infix_refl _))
  exact h

theorem onTraceState_ok (g : Gathered Run) {m : Message}
    (hm : ∀ line ∈ m.lines, line.length ≤ Text.digitLimit) : (onTraceState g m).2 = .ok () := by
  rw [onTraceState.eq_def]
  split
  next => rfl
  next first rest hlines =>
    split
    next => rfl
    next number title htitle =>
      have hfirst := Text.narrow_of_length_le (hm first (hlines ▸ List.mem_cons_self))
      rw [readNumber_of_numeralIn hfirst
        (within_traceTitle.front (Text.isInfix_strip first) htitle)]

theorem onProgress_eq (g : Gathered Run) {text : Text} (ht : Text.Narrow text) :
    (onProgress g text).2 =
      if (Scan.search progressLine text).any (·.counters.isHollow) then .error hollowFault
      else .ok () := by
  rw [onProgress]
  split
  next hnone => simp [hnone]
  next d hsome =>
    obtain ⟨hdiameter, hcounters⟩ := within_progressLine.search (List.infix_refl _) hsome
    rw [hsome, readNumber_of_numeralIn ht hdiameter]
    obtain ⟨stat, hstat⟩ := readCounters_eq ht hcounters d.timeStamp (Text.digitsValue d.diameter)
    by_cases hhollow : d.counters.isHollow = true
    · simp only [hstat, Option.any_some, hhollow, if_true]
    · simp only [hstat, Option.any_some, hhollow]
      rfl

theorem onStats_eq (g : Gathered Run) {text : Text} (ht : Text.Narrow text) :
    (onStats g text).2 =
      if (Scan.search statsLine text).any Counters.isHollow then .error hollowFault
      else .ok () := by
  rw [onStats]
  split
  next hnone => simp [hnone]
  next counters hsome =>
    have hcounters := within_statsLine.search (List.infix_refl _) hsome
    obtain ⟨stat, hstat⟩ := readCounters_eq ht hcounters (g.grammar.soFar.endTime.getD [])
      g.grammar.diameter
    rw [hsome, hstat, Option.any_some]
    cases counters.isHollow with
    | true => rfl
    | false => rfl

theorem onDepth_ok (g : Gathered Run) {text : Text} (ht : Text.Narrow text) :
    (onDepth g text).2 = .ok () := by
  rw [onDepth]
  split
  next => rfl
  next digits hsome =>
    rw [readNumber_of_numeralIn ht (within_depthLine.search (List.infix_refl _) hsome)]

theorem onCoverage_ok (g : Gathered Run) {lines : List Text} (ht : Text.Narrow t)
    (hlines : ∀ line ∈ lines, line <:+: t) : (onCoverage g lines).2 = .ok () := by
  induction lines generalizing g with
  | nil => rfl
  | cons line rest ih =>
      obtain ⟨hline, hrest⟩ := List.forall_mem_cons.mp hlines
      rw [onCoverage]
      split
      next => exact ih g hrest
      next d hsome =>
        obtain ⟨hfirst, hsecond⟩ :=
          within_coverageLine.front ((Text.isInfix_strip line).trans hline) hsome
        simp only [readCoverage, readNumber_of_numeralIn ht hfirst,
          readNumber_of_numeralIn ht hsecond]
        exact ih _ hrest

/-- Takes over what the analyzer's grammar makes of a short line. -/
theorem onLine_ok (g : Gathered Run) {line : Text} (hline : line.length ≤ Text.digitLimit) :
    ∃ events, (onLine g line).events = .ok events := by
  rw [onLine]
  split
  next => exact ⟨[], rfl⟩
  next grammar _ =>
    obtain ⟨result, hresult⟩ := grammar.feed_ok hline
    simp only [hresult]
    exact ⟨_, rfl⟩

/-! ## Messages -/

/-- Whether a text of a topic has a hollow counter where its counters are read. -/
def Topic.isGarbled (topic : Topic) (text : Text) : Bool :=
  match topic with
  | .progress => (Scan.search progressLine text).any (·.counters.isHollow)
  | .stats => (Scan.search statsLine text).any (·.isHollow)
  | _ => false

/-- Whether a message tells counters, and one of them is hollow. -/
def isGarbled (m : Message) : Bool :=
  match roleOf m with
  | .status topic => topic.isGarbled m.text
  | _ => false

theorem onStatus_eq (g : Gathered Run) (topic : Topic) {text : Text} (ht : Text.Narrow text) :
    (onStatus g topic text).2 =
      if topic.isGarbled text then .error hollowFault else .ok () := by
  cases topic with
  | searchDepth => exact onDepth_ok g ht
  | progress => exact onProgress_eq g ht
  | stats => exact onStats_eq g ht
  | coverage => exact onCoverage_ok g ht fun _ => Text.infix_of_mem_lines
  | _ => rfl

theorem fault_of_ok {step : Step Run} (h : ∃ events, step.events = .ok events) :
    step.fault? = none := by
  obtain ⟨events, hevents⟩ := h
  rw [Step.fault?, hevents]

theorem fault_silent {result : Gathered Run × Except Fault Unit} (garbled : Bool)
    (h : result.2 = if garbled then .error hollowFault else .ok ()) :
    (silent result).fault? = if garbled then some hollowFault else none := by
  cases garbled with
  | true => rw [silent, Step.fault?, h]; rfl
  | false => rw [silent, Step.fault?, h]; rfl

/-- A message of short lines is refused exactly if it is garbled. -/
theorem fault_dispatch {g : Gathered Run} (h : Placed g.grammar) {m : Message}
    (hm : ∀ line ∈ m.lines, line.length ≤ Text.digitLimit) :
    (dispatch g m).fault? = if isGarbled m then some hollowFault else none := by
  have htext : Text.Narrow m.text := Text.narrow_join hm
  rw [dispatch_eq, isGarbled]
  cases roleOf m with
  | analyzerStart => rfl
  | analyzerEnd => rfl
  | failure => exact fault_of_ok (onError_ok (placed_markToolBug h m) htext)
  | warning => rfl
  | traceState => exact fault_silent false (onTraceState_ok g hm)
  | status topic => exact fault_silent _ (onStatus_eq g topic htext)

theorem fault_onMessage {g : Gathered Run} (h : Placed g.grammar) {m : Message}
    (hm : ∀ line ∈ m.lines, line.length ≤ Text.digitLimit) :
    (onMessage g m).fault? = if isGarbled m then some hollowFault else none := by
  rw [← fault_dispatch h hm, onMessage, Step.fault?, Step.fault?]
  cases (dispatch g m).events with
  | error fault => rfl
  | ok events => rfl

/-! ## The module of a run -/

theorem specPath_settle (outcome : Outcome) (r : CheckReport) :
    (settle outcome r).specPath = r.specPath := by
  rw [settle]
  split
  · rfl
  · rfl

theorem specPath_onFinished (g : Gathered Run) (text : Text) :
    (onFinished g text).grammar.soFar.specPath = g.grammar.soFar.specPath := by
  rw [onFinished]
  split
  · exact specPath_settle _ _
  · exact specPath_settle _ _

theorem specPath_onStatus (g : Gathered Run) (topic : Topic) (text : Text) :
    (onStatus g topic text).1.grammar.soFar.specPath = g.grammar.soFar.specPath := by
  by_cases hsuccess : topic = .success
  · rw [hsuccess]
    exact specPath_settle _ _
  · by_cases hfinished : topic = .finished
    · rw [hfinished]
      exact specPath_onFinished g text
    · exact (keeps_onStatus g text hsuccess hfinished).specPath

theorem specPath_onError (g : Gathered Run) (m : Message) :
    (onError (markToolBug g m) m).gathered.grammar.soFar.specPath = g.grammar.soFar.specPath := by
  rw [onError, (reportAt_grammar _ _ _).1, markToolBug]
  split
  · rfl
  · rfl

theorem specPath_flushAnalyzer (g : Gathered Run) :
    (flushAnalyzer g).1.grammar.soFar.specPath = g.grammar.soFar.specPath := by
  rw [flushAnalyzer]
  split
  next => rfl
  next grammar _ => rw [grammar_apply]; rfl

theorem specPath_dispatch (g : Gathered Run) (m : Message) :
    (dispatch g m).gathered.grammar.soFar.specPath = g.grammar.soFar.specPath := by
  rw [dispatch_eq]
  cases roleOf m with
  | analyzerStart => rfl
  | analyzerEnd => exact specPath_flushAnalyzer g
  | failure => exact specPath_onError g m
  | warning => rfl
  | traceState => exact (keeps_onTraceState g m).specPath
  | status topic => exact specPath_onStatus g topic m.text

theorem specPath_onLine (g : Gathered Run) (line : Text) :
    (onLine g line).gathered.grammar.soFar.specPath = g.grammar.soFar.specPath := by
  rw [onLine]
  split
  next => rfl
  next grammar _ =>
    simp only
    split
    next => rfl
    next result _ => rw [grammar_apply]; rfl

/-- Nothing that is read changes the module of a run. -/
theorem specPath_carry (g : Gathered Run) (x : Delivery) :
    (x.carry decoder g).gathered.grammar.soFar.specPath = g.grammar.soFar.specPath := by
  cases x with
  | item i =>
      cases i with
      | line line => exact specPath_onLine g line
      | message m => exact specPath_dispatch g m
  | condition c => rfl

/-! ## Runs -/

/-- A delivery of short lines is refused exactly if it is a garbled message. -/
theorem fault_carry {g : Gathered Run} (h : Placed g.grammar) {x : Delivery}
    (hx : ∀ line ∈ x.content, line.length ≤ Text.digitLimit) :
    (x.carry decoder g).fault? = if (message? x).any isGarbled then some hollowFault else none := by
  cases x with
  | item i =>
      cases i with
      | line line => exact fault_of_ok (onLine_ok g (hx line List.mem_cons_self))
      | message m => exact fault_onMessage h hx
  | condition c => rfl

theorem fault_deliver {g : Gathered Run} (h : Placed g.grammar) {xs : List Delivery}
    (hxs : ∀ x ∈ xs, ∀ line ∈ x.content, line.length ≤ Text.digitLimit) :
    (deliver decoder g xs).fault? =
      if (messages xs).any isGarbled then some hollowFault else none := by
  induction xs generalizing g with
  | nil => rfl
  | cons x xs ih =>
      obtain ⟨hx, hrest⟩ := List.forall_mem_cons.mp hxs
      -- what a delivery changes of the run never is the module, all that a refusal may depend on
      have hlater : Placed (x.carry decoder g).gathered.grammar := by
        rw [Placed, specPath_carry]
        exact h
      rw [Protocol.fault_deliver_cons, fault_carry h hx, ih hlater hrest]
      cases hmessage : message? x with
      | none =>
          have hskip : messages (x :: xs) = messages xs := List.filterMap_cons_none hmessage
          rw [hskip, Option.any_none, if_neg Bool.false_ne_true, Option.none_or]
      | some m =>
          have hfirst : messages (x :: xs) = m :: messages xs := List.filterMap_cons_some hmessage
          rw [hfirst, Option.any_some, List.any_cons]
          cases isGarbled m with
          | true => rfl
          | false => rfl

/-- Output of short lines about a module that has a name, if it names one, is refused for
one thing alone: a message that tells counters, one of which has commas but no digit. -/
theorem fault_eq_garbled {spec : Option Text} {lines : List Text}
    (hspec : ∀ file ∈ spec, (Path.ofText file).names ≠ [])
    (hlines : ∀ line ∈ lines, line.length ≤ Text.digitLimit) (stopped : Bool) :
    (Protocol.Reading.readLines decoder (session spec) lines stopped).2.fault =
      if (messages (fates [] lines)).any isGarbled then some hollowFault else none := by
  have hshort : ∀ line ∈ lines, Protocol.ShortLine line := fun line hline =>
    Protocol.shortLine_of_length_le (hlines line hline)
  have hplaced : Placed (session spec).gathered.grammar := hspec
  have hfault := Protocol.Reading.fault_readLines (d := decoder) (g := (session spec).gathered)
    hshort stopped
  refine hfault.trans (fault_deliver hplaced fun x hx line hline => ?_)
  exact hlines line (Protocol.mem_of_mem_fates hx hline)

/-- Statistics without a digit. -/
def hollowStats : List Text :=
  [(Protocol.Sign.start 2199 (some 0)).line,
    ", states generated, , distinct states found, , states left on queue".toList,
    (Protocol.Sign.stop 2199).line]

theorem fault_eq_garbled_hollowStats :
    (∀ file ∈ some "/a/Spec.tla".toList, (Path.ofText file).names ≠ []) ∧
      (∀ line ∈ hollowStats, line.length ≤ Text.digitLimit) ∧
      (Protocol.Reading.readLines decoder (session (some "/a/Spec.tla".toList)) hollowStats
        false).2.fault = some hollowFault := by
  have hspec : ∀ file ∈ some "/a/Spec.tla".toList, (Path.ofText file).names ≠ [] := by decide
  have hlines : ∀ line ∈ hollowStats, line.length ≤ Text.digitLimit := by decide
  have hgarbled : (messages (fates [] hollowStats)).any isGarbled = true := by decide
  have hfault := fault_eq_garbled hspec hlines false
  rw [if_pos hgarbled] at hfault
  exact ⟨hspec, hlines, hfault⟩

/-- Malformed output can be fatal. -/
theorem malformed_is_fatal :
    ¬∀ (spec : Option Text) (lines : List Text) (stopped : Bool),
      (∀ file ∈ spec, (Path.ofText file).names ≠ []) →
        (∀ line ∈ lines, line.length ≤ Text.digitLimit) →
          (Protocol.Reading.readLines decoder (session spec) lines stopped).2.fault = none := by
  intro hall
  have hfault : (Protocol.Reading.readLines decoder (session none) hollowStats false).2.fault =
      some hollowFault := by
    decide
  rw [hall none hollowStats false (by decide) (by decide)] at hfault
  cases hfault

end TlaRunner.Checker
