import TlaRunner.Proofs.Checker.Outcome
import TlaRunner.Proofs.Checker.Verdict
import TlaRunner.Proofs.Protocol.Transcript
import TlaRunner.Proofs.Text.Count
import TlaRunner.Proofs.Text.Search
import TlaRunner.Proofs.Text.Within

/-!
# Counters of the model checker

A `Progress` is what a progress message tells, and `Totals` are what a statistics message
tells.  Each is printed as one line, its counters with commas between the thousands or
without, and the line is read back as what it tells (`search_progressLine`,
`search_statsLine`).  That a progress line is cut at the right places comes from what its
parts have not: no colon before a blank stands in the time, and no comma before a blank
in a rate.

The depth of a check is the one that was reported last, and its coverage is that of all
messages one after the other (`measure_feedEach`).
-/

namespace TlaRunner.Checker

open Text (Scan Spells)
open Protocol (Gathered Step Event Message Session ShortLine drive)

/-! ## Counters as they are printed -/

/-- A counter as it is printed. -/
structure Counter where
  /-- The number. -/
  value : Nat
  /-- Whether commas separate the thousands. -/
  grouped : Bool
  /-- The number is within the limit. -/
  short : (Text.ofNat value).length ≤ Text.digitLimit

namespace Counter

/-- The counter as a text. -/
def text (c : Counter) : Text :=
  if c.grouped then Text.ofCount c.value else Text.ofNat c.value

theorem spells_text (c : Counter) : Spells c.text c.value := by
  rw [text]
  split
  · exact Text.spells_ofCount c.value
  · exact Text.spells_ofNat c.value

theorem readCounter_text (c : Counter) : Protocol.readCounter c.text = .ok c.value := by
  rw [Protocol.readCounter, Text.readCount_of_spells c.spells_text c.short]
  rfl

/-- A counter is read up to a word that starts with another character. -/
theorem some1_text (c : Counter) {word : Text} (hword : word.head?.map isCounter = some false)
    (s : Text) : Scan.some1 isCounter (c.text ++ (word ++ s)) = some (c.text, word ++ s) := by
  refine Scan.some1_word c.spells_text.ne_nil (fun d hd => ?_) hword s
  rcases c.spells_text.isDigit_or_comma hd with hdigit | rfl
  · rw [isCounter, hdigit, Bool.true_or]
  · rfl

end Counter

/-- A rate in parentheses, if there is one. -/
def rateText (unit : Text) : Option Counter → Text
  | none => []
  | some rate => " (".toList ++ (rate.text ++ (" ".toList ++ unit ++ "/min)".toList))

/-- There is no comma before a blank in a rate. -/
theorem undivided_rateText {unit : Text} (hunit : ',' ∉ unit) (rate : Option Counter) :
    ¬", ".toList <:+: rateText unit rate := by
  cases rate with
  | none =>
      rw [rateText]
      decide
  | some rate =>
      have htail : ',' ∉ " ".toList ++ unit ++ "/min)".toList := by
        simp [hunit]
      rintro hinfix
      rcases Text.pair_infix_append hinfix with hlead | hrest | ⟨hlast, -⟩
      · revert hlead
        decide
      · rcases Text.pair_infix_append hrest with hrate | hunit | ⟨hlast, -⟩
        · exact rate.spells_text.not_mem (c := ' ') (by decide) (by decide)
            (hrate.subset (by decide))
        · exact htail (hunit.subset (by decide))
        · exact rate.spells_text.last hlast
      · cases hlast

theorem newline_not_mem_rateText {unit : Text} (hunit : '\n' ∉ unit) (rate : Option Counter) :
    '\n' ∉ rateText unit rate := by
  cases rate with
  | none => exact List.not_mem_nil
  | some rate =>
      have hrate : '\n' ∉ rate.text := rate.spells_text.not_mem (by decide) (by decide)
      simp [rateText, hrate, hunit]

/-! ## Progress -/

/-- What a progress message tells. -/
structure Progress where
  /-- The depth. -/
  depth : Nat
  /-- When it was printed. -/
  timeStamp : Text
  /-- The states generated. -/
  generated : Counter
  /-- How many of them a minute. -/
  generatedRate : Option Counter
  /-- The distinct states. -/
  distinct : Counter
  /-- How many of them a minute. -/
  distinctRate : Option Counter
  /-- The states left. -/
  left : Counter
  /-- The depth is within the limit. -/
  short : (Text.ofNat depth).length ≤ Text.digitLimit
  /-- There is a time, -/
  stamped : timeStamp ≠ []
  /-- on one line -/
  unbroken : '\n' ∉ timeStamp
  /-- and with no colon before a blank. -/
  undivided : ¬": ".toList <:+: timeStamp

namespace Progress

/-- The line that tells it, from the last counter on. -/
def leftText (p : Progress) : Text :=
  ", ".toList ++ (p.left.text ++ (" states left on queue".toList ++ ['.']))

/-- The line that tells it, from the second counter on. -/
def distinctText (p : Progress) : Text :=
  ", ".toList ++ (p.distinct.text ++ (" distinct states found".toList ++
    (rateText "ds".toList p.distinctRate ++ p.leftText)))

/-- The line that tells it, from the first counter on. -/
def countersText (p : Progress) : Text :=
  ": ".toList ++ (p.generated.text ++ (" states generated".toList ++
    (rateText "s".toList p.generatedRate ++ p.distinctText)))

/-- The line that tells it. -/
def line (p : Progress) : Text :=
  "Progress(".toList ++ (Text.ofNat p.depth ++ (") at ".toList ++ (p.timeStamp ++ p.countersText)))

/-- Its counters as they are printed. -/
def counters (p : Progress) : Counters :=
  ⟨p.generated.text, p.distinct.text, p.left.text⟩

/-- The entry that it makes. -/
def stat (p : Progress) : Stat :=
  ⟨p.timeStamp, p.depth, p.generated.value, p.distinct.value, p.left.value⟩

end Progress

variable (p : Progress)

theorem progressLeft_text : progressLeft p.leftText = some (p.left.text, ['.']) := by
  rw [progressLeft, Progress.leftText]
  simp only [Scan.bind_apply, Scan.literal_append, Option.bind_some]
  rw [p.left.some1_text (by decide)]
  simp only [Scan.literal_append, Option.bind_some]
  rfl

theorem progressDistinct_text :
    progressDistinct p.distinctText = some ((p.distinct.text, p.left.text), ['.']) := by
  have hleft : Scan.shortest progressLeft 0 (rateText "ds".toList p.distinctRate ++ p.leftText) =
      some ((rateText "ds".toList p.distinctRate, p.left.text), ['.']) :=
    Scan.shortest_literal (a := ',') (b := ' ') (by decide) (by decide)
      (undivided_rateText (by decide) _) (newline_not_mem_rateText (by decide) _) (Nat.zero_le _)
      (progressLeft_text p)
  rw [progressDistinct, Progress.distinctText]
  simp only [Scan.bind_apply, Scan.literal_append, Option.bind_some]
  rw [p.distinct.some1_text (by decide)]
  simp only [Scan.literal_append, Option.bind_some, hleft]
  rfl

theorem progressCounters_text : progressCounters p.countersText = some (p.counters, ['.']) := by
  have hdistinct : Scan.shortest progressDistinct 0
      (rateText "s".toList p.generatedRate ++ p.distinctText) =
        some ((rateText "s".toList p.generatedRate, p.distinct.text, p.left.text), ['.']) :=
    Scan.shortest_literal (a := ',') (b := ' ') (by decide) (by decide)
      (undivided_rateText (by decide) _) (newline_not_mem_rateText (by decide) _) (Nat.zero_le _)
      (progressDistinct_text p)
  rw [progressCounters, Progress.countersText]
  simp only [Scan.bind_apply, Scan.literal_append, Option.bind_some]
  rw [p.generated.some1_text (by decide)]
  simp only [Scan.literal_append, Option.bind_some, hdistinct]
  rfl

theorem shortest_progressCounters : Scan.shortest progressCounters 1
    (p.timeStamp ++ p.countersText) = some ((p.timeStamp, p.counters), ['.']) :=
  Scan.shortest_literal (a := ':') (b := ' ') (by decide) (by decide) p.undivided p.unbroken
    (List.length_pos_iff.mpr p.stamped) (progressCounters_text p)

/-- A progress line is read back. -/
theorem search_progressLine : Scan.search progressLine p.line =
    some ⟨Text.ofNat p.depth, p.timeStamp, p.counters⟩ := by
  have hdepth (s : Text) : Scan.digits (Text.ofNat p.depth ++ (") at ".toList ++ s)) =
      some (Text.ofNat p.depth, ") at ".toList ++ s) :=
    Scan.digits_word (Text.isNumeral_ofNat p.depth) (by decide) s
  have hread : progressLine p.line =
      some (⟨Text.ofNat p.depth, p.timeStamp, p.counters⟩, ['.']) := by
    unfold progressLine Progress.line
    simp only [Scan.bind_apply, Scan.literal_append, Option.bind_some, hdepth,
      shortest_progressCounters]
    rfl
  exact Scan.search_of_some hread

/-! ## Totals -/

/-- What a statistics message tells. -/
structure Totals where
  /-- The states generated. -/
  generated : Counter
  /-- The distinct states. -/
  distinct : Counter
  /-- The states left. -/
  left : Counter

namespace Totals

/-- The line that tells it. -/
def line (t : Totals) : Text :=
  t.generated.text ++ (" states generated, ".toList ++ (t.distinct.text ++
    (" distinct states found, ".toList ++ (t.left.text ++ (" states left on queue".toList ++
      ['.'])))))

/-- Its counters as they are printed. -/
def counters (t : Totals) : Counters :=
  ⟨t.generated.text, t.distinct.text, t.left.text⟩

/-- The entry that it makes. -/
def stat (t : Totals) (timeStamp : Text) (depth : Nat) : Stat :=
  ⟨timeStamp, depth, t.generated.value, t.distinct.value, t.left.value⟩

end Totals

/-- A statistics line is read back, whatever comes behind it. -/
theorem search_statsLine (t : Totals) (s : Text) :
    Scan.search statsLine (t.line ++ s) = some t.counters := by
  have hread : statsLine (t.line ++ s) = some (t.counters, '.' :: s) := by
    simp only [statsLine, Totals.line, List.append_assoc, Scan.bind_apply]
    rw [t.generated.some1_text (by decide)]
    simp only [Scan.literal_append, Option.bind_some]
    rw [t.distinct.some1_text (by decide)]
    simp only [Scan.literal_append, Option.bind_some]
    rw [t.left.some1_text (by decide)]
    simp only [Scan.literal_append, Option.bind_some]
    rfl
  exact Scan.search_of_some hread

/-! ## Messages -/

/-- What is gathered behind a progress message. -/
def Progress.enter (p : Progress) (g : Gathered Run) : Gathered Run :=
  update (setDiameter g p.depth) fun r => { r with initialStats := r.initialStats ++ [p.stat] }

/-- What is gathered behind a statistics message, given the depth. -/
def Totals.enter (t : Totals) (depth : Nat) (g : Gathered Run) : Gathered Run :=
  update g fun r => { r with finalStats := some (t.stat (r.endTime.getD []) depth) }

theorem readCounters_text (timeStamp : Text) (depth : Nat) (generated distinct left : Counter) :
    readCounters timeStamp depth ⟨generated.text, distinct.text, left.text⟩ =
      .ok ⟨timeStamp, depth, generated.value, distinct.value, left.value⟩ := by
  rw [readCounters, generated.readCounter_text, distinct.readCounter_text, left.readCounter_text]
  rfl

theorem readNumber_ofNat {n : Nat} (h : (Text.ofNat n).length ≤ Text.digitLimit) :
    Protocol.readNumber (Text.ofNat n) = .ok n := by
  rw [Protocol.readNumber_of_short (Text.isNumeral_ofNat n) h, Text.digitsValue_ofNat]

theorem onProgress_line (g : Gathered Run) : onProgress g p.line = (p.enter g, .ok ()) := by
  rw [onProgress, search_progressLine]
  simp only [readNumber_ofNat p.short, Progress.counters, readCounters_text]
  rfl

theorem onStats_append (g : Gathered Run) (t : Totals) (s : Text) :
    onStats g (t.line ++ s) = (t.enter g.grammar.diameter g, .ok ()) := by
  rw [onStats, search_statsLine]
  simp only [Totals.counters, readCounters_text]
  rfl

theorem onStats_line (g : Gathered Run) (t : Totals) :
    onStats g t.line = (t.enter g.grammar.diameter g, .ok ()) := by
  have hread := onStats_append g t []
  rw [List.append_nil] at hread
  exact hread

/-- A message of one line has that line as its text. -/
theorem text_singleton (code : Nat) (subCode : Option Nat) (line : Text) :
    (⟨code, subCode, [line]⟩ : Message).text = line := by
  rw [Message.text, Text.join, List.intercalate_singleton]

/-- A message that moves the phase or the counters tells its progress and nothing else. -/
theorem onMessage_status {g after : Gathered Run} {m : Message} {topic : Topic}
    (hrole : roleOf m = .status topic) (h : onStatus g topic m.text = (after, .ok ())) :
    onMessage g m = ⟨after, .ok [.progress tool (detail m) (some (snapshot after))]⟩ := by
  rw [onMessage, dispatch_eq, hrole]
  simp only [h]
  rfl

/-! ## Depth and coverage -/

/-- The depth that a text reports. -/
def depthIn? (text : Text) : Topic → Option Nat
  | .progress =>
    (Scan.search progressLine text).bind fun d => (Protocol.readNumber d.diameter).toOption
  | .searchDepth =>
    (Scan.search depthLine text).bind fun digits => (Protocol.readNumber digits).toOption
  | _ => none

/-- The depth that a message reports, if it is about progress or about the depth of the
search. -/
def depthOf? (m : Message) : Option Nat :=
  match roleOf m with
  | .status topic => depthIn? m.text topic
  | _ => none

/-- The entries of coverage lines, up to one that cannot be read. -/
def coverageIn : List Text → List Coverage
  | [] => []
  | line :: rest =>
    match Scan.front coverageLine (Text.strip line) with
    | none => coverageIn rest
    | some d =>
      match readCoverage d with
      | .error _ => []
      | .ok entry => entry :: coverageIn rest

/-- The coverage entries that a message makes. -/
def coverageOf (m : Message) : List Coverage :=
  match roleOf m with
  | .status .coverage => coverageIn (Text.lines m.text)
  | _ => []

/-- The depth and the coverage of a check so far. -/
structure Measure where
  /-- The depth reported last. -/
  depth : Nat
  /-- The coverage entries. -/
  coverage : List Coverage

/-- What was measured. -/
def measure (g : Gathered Run) : Measure :=
  ⟨g.grammar.diameter, g.grammar.soFar.coverage⟩

/-- What is measured behind a message. -/
def Measure.next (t : Measure) (m : Message) : Measure :=
  ⟨(depthOf? m).getD t.depth, t.coverage ++ coverageOf m⟩

/-- The depth that messages report last. -/
def lastDepth (ms : List Message) : Nat :=
  (ms.filterMap depthOf?).getLast?.getD 0

/-- Messages report a depth one after the other, and their coverage entries add up. -/
theorem foldl_next (ms : List Message) (t : Measure) :
    ms.foldl Measure.next t =
      ⟨(ms.filterMap depthOf?).getLast?.getD t.depth, t.coverage ++ ms.flatMap coverageOf⟩ := by
  induction ms generalizing t with
  | nil => rw [List.foldl_nil, List.flatMap_nil, List.append_nil]; rfl
  | cons m rest ih =>
      rw [List.foldl_cons, ih, List.flatMap_cons, ← List.append_assoc, Measure.next]
      cases hdepth : depthOf? m with
      | none => rw [List.filterMap_cons_none hdepth]; rfl
      | some depth =>
          rw [List.filterMap_cons_some hdepth, List.getLast?_cons]
          rfl

/-! ### Messages with a depth -/

/-- A message whose class is none of an error, a warning or a state is about its topic. -/
theorem roleOf_of_plain {m : Message} {topic : Topic} (hcode : Topic.ofCode m.code = topic)
    (hplain : m.subCode ∉ [some 1, some 2, some 3, some 4])
    (hrole : topic ∉ [.analyzerStart, .analyzerEnd, .failure, .traceState]) :
    roleOf m = .status topic := by
  simp only [List.mem_cons, List.not_mem_nil, or_false, not_or] at hplain hrole
  simp [roleOf, hcode, hplain, hrole]

theorem roleOf_status {code : Nat} {topic : Topic} (hcode : Topic.ofCode code = topic)
    (hrole : topic ∉ [.analyzerStart, .analyzerEnd, .failure, .traceState]) {subCode : Option Nat}
    (hclass : subCode = none ∨ subCode = some 0) (lines : List Text) :
    roleOf ⟨code, subCode, lines⟩ = .status topic := by
  refine roleOf_of_plain hcode ?_ hrole
  rcases hclass with rfl | rfl
  · simp
  · simp

/-- The line that tells the depth of the search. -/
def depthText (depth : Nat) : Text :=
  "The ".toList ++ ("depth of the complete state graph search is ".toList ++
    (Text.ofNat depth ++ ['.']))

/-! ### What is measured behind a message -/

/-- Coverage lines enter their entries and nothing else. -/
theorem onCoverage_fst (g : Gathered Run) (lines : List Text) :
    (onCoverage g lines).1 = update g fun r => { r with coverage := r.coverage ++ coverageIn lines }
      := by
  induction lines generalizing g with
  | nil =>
      rw [onCoverage, coverageIn, update, List.append_nil]
  | cons line rest ih =>
      rw [onCoverage, coverageIn]
      cases Scan.front coverageLine (Text.strip line) with
      | none => exact ih g
      | some d =>
          cases hentry : readCoverage d with
          | error fault => simp only [hentry, update, List.append_nil]
          | ok entry => simp only [hentry, ih, update, List.append_assoc, List.singleton_append]

/-- A progress message changes the depth if it can be read, whatever its counters are. -/
theorem measure_onProgress (g : Gathered Run) (text : Text) :
    measure (onProgress g text).1 =
      { measure g with depth := (depthIn? text .progress).getD (measure g).depth } := by
  rw [onProgress, depthIn?]
  cases Scan.search progressLine text with
  | none => rfl
  | some d =>
      simp only [Option.bind_some]
      cases Protocol.readNumber d.diameter with
      | error fault => rfl
      | ok depth =>
          simp only
          split
          · rfl
          · rfl

theorem measure_onDepth (g : Gathered Run) (text : Text) :
    measure (onDepth g text).1 =
      { measure g with depth := (depthIn? text .searchDepth).getD (measure g).depth } := by
  rw [onDepth, depthIn?]
  cases Scan.search depthLine text with
  | none => rfl
  | some digits =>
      simp only [Option.bind_some]
      cases Protocol.readNumber digits with
      | error fault => rfl
      | ok depth => rfl

theorem measure_onStats (g : Gathered Run) (text : Text) :
    measure (onStats g text).1 = measure g := by
  rw [onStats]
  split
  · rfl
  · split
    · rfl
    · rfl

theorem measure_settle (g : Gathered Run) (outcome : Outcome) :
    measure (update g (settle outcome)) = measure g := by
  have hsettle (r : CheckReport) : (settle outcome r).coverage = r.coverage := by
    rw [settle]
    split
    · rfl
    · rfl
  simp only [measure, update, hsettle]

theorem measure_onFinished (g : Gathered Run) (text : Text) :
    measure (onFinished g text) = measure g := by
  rw [onFinished]
  split
  · exact measure_settle _ _
  · exact measure_settle _ _

theorem measure_onTraceState (g : Gathered Run) (m : Message) :
    measure (onTraceState g m).1 = measure g := by
  rw [onTraceState.eq_def]
  split
  · rfl
  · split
    · rfl
    · split
      · rfl
      · rfl

theorem measure_onError (g : Gathered Run) (m : Message) :
    measure (onError (markToolBug g m) m).gathered = measure g := by
  rw [onError, measure, (reportAt_grammar _ _ _).1, markToolBug]
  split
  · rfl
  · rfl

theorem measure_flushAnalyzer (g : Gathered Run) :
    measure (flushAnalyzer g).1 = measure g := by
  rw [flushAnalyzer]
  split
  · rfl
  · rw [measure, grammar_apply]
    rfl

theorem measure_onLine (g : Gathered Run) (line : Text) :
    measure (onLine g line).gathered = measure g := by
  rw [onLine]
  split
  · rfl
  · simp only
    split
    · rfl
    · rw [measure, grammar_apply]
      rfl

/-- A message is measured by the depth and by the coverage entries that it reports. -/
theorem measure_onMessage (g : Gathered Run) (m : Message) :
    measure (onMessage g m).gathered = (measure g).next m := by
  have hsame : measure g = ⟨(measure g).depth, (measure g).coverage ++ []⟩ := by
    rw [List.append_nil]
  rw [onMessage, dispatch_eq, Measure.next, depthOf?, coverageOf]
  cases roleOf m with
  | analyzerStart => exact hsame
  | analyzerEnd => exact (measure_flushAnalyzer g).trans hsame
  | failure => exact (measure_onError g m).trans hsame
  | warning => exact hsame
  | traceState => exact (measure_onTraceState g m).trans hsame
  | status topic =>
      cases topic with
      | progress =>
          refine (measure_onProgress g m.text).trans ?_
          rw [List.append_nil]
      | searchDepth =>
          refine (measure_onDepth g m.text).trans ?_
          rw [List.append_nil]
      | coverage => exact congrArg measure (onCoverage_fst g _)
      | stats => exact (measure_onStats g m.text).trans hsame
      | finished => exact (measure_onFinished g m.text).trans hsame
      | success => exact (measure_settle g .success).trans hsame
      | _ => exact hsame

/-! ### What is measured behind a run -/

/-- What is handed on is measured by its messages. -/
theorem measure_carry (g : Gathered Run) (x : Protocol.Delivery) :
    measure (x.carry decoder g).gathered = (messages [x]).foldl Measure.next (measure g) := by
  cases x with
  | condition c => rfl
  | item i =>
      cases i with
      | line line => exact measure_onLine g line
      | message m => exact measure_onMessage g m

/-- Deliveries that were read are measured by their messages. -/
theorem measure_deliver {g after : Gathered Run} {xs : List Protocol.Delivery}
    {events : List Event} (h : Protocol.deliver decoder g xs = ⟨after, .ok events⟩) :
    measure after = (messages xs).foldl Measure.next (measure g) := by
  induction xs generalizing g events with
  | nil =>
      cases h
      rfl
  | cons x rest ih =>
      obtain ⟨middle, first, last, hx, hrest, -⟩ := Protocol.deliver_cons_eq_ok.mp h
      have hhere := measure_carry g x
      rw [hx] at hhere
      rw [ih hrest, hhere, ← List.foldl_append, messages, messages, messages,
        ← List.filterMap_append]
      rfl

/-- Lines are measured by the messages that they hand on, past all faults.  Markers whose
numbers cannot be read are refused, and nothing is handed on for them. -/
theorem measure_feedEach (m : Option Protocol.OpenMessage) (g : Gathered Run) (lines : List Text) :
    measure ((⟨m, g, none⟩ : Session Run CheckReport).feedEach decoder lines).1.gathered =
      (messages (drive m (lines.filter ShortLine)).2).foldl Measure.next (measure g) := by
  induction lines generalizing m g with
  | nil => rfl
  | cons line rest ih =>
      rw [Session.feedEach]
      by_cases hshort : ShortLine line
      · have hfilter : (line :: rest).filter ShortLine = line :: rest.filter ShortLine :=
          List.filter_cons_of_pos (decide_eq_true hshort)
        have hhere : measure (Protocol.deliver decoder g
            (Protocol.advance m line).2.toList).gathered =
              (messages (Protocol.advance m line).2.toList).foldl Measure.next (measure g) := by
          cases (Protocol.advance m line).2 with
          | none => rfl
          | some x =>
              rw [Option.toList_some, Protocol.deliver_singleton]
              exact measure_carry g x
        rw [Protocol.feed_eq decoder m g hshort, hfilter]
        refine (ih _ _).trans ?_
        rw [hhere, ← List.foldl_append, drive, messages, messages, messages, List.filterMap_append]
      · obtain ⟨n, hfeed⟩ := Protocol.feed_of_long decoder m g hshort
        have hfilter : (line :: rest).filter ShortLine = rest.filter ShortLine :=
          List.filter_cons_of_neg (by simpa using hshort)
        rw [hfeed, hfilter]
        exact ih m g

/-! ## Reading back -/

/-- Whatever lines come before it, a progress message is read as the entry that it makes, which
is put behind the others, and nothing but the depth changes besides.  A statistics message is
read as its counters, with the depth that was reported last, and nothing else changes.  Each
tells its progress. -/
theorem counters_read_back (spec : Option Text) (lines : List Text) (p : Progress) (t : Totals)
    {subCode : Option Nat} (hclass : subCode = none ∨ subCode = some 0) :
    let g := ((session spec).feedEach decoder lines).1.gathered
    let depth := lastDepth (messages (drive none (lines.filter ShortLine)).2)
    let progress : Message := ⟨2200, subCode, [p.line]⟩
    let totals : Message := ⟨2199, subCode, [t.line]⟩
    onMessage g progress =
        ⟨p.enter g, .ok [.progress tool (detail progress) (some (snapshot (p.enter g)))]⟩ ∧
      onMessage g totals = ⟨t.enter depth g,
        .ok [.progress tool (detail totals) (some (snapshot (t.enter depth g)))]⟩ := by
  intro g depth progress totals
  have hprogress : roleOf progress = .status .progress := roleOf_status rfl (by decide) hclass _
  have htotals : roleOf totals = .status .stats := roleOf_status rfl (by decide) hclass _
  have hdepth : g.grammar.diameter = depth := by
    have hmeasure := measure_feedEach none (session spec).gathered lines
    rw [foldl_next] at hmeasure
    exact congrArg Measure.depth hmeasure
  refine ⟨onMessage_status hprogress ?_, onMessage_status htotals ?_⟩
  · rw [text_singleton]
    exact onProgress_line p g
  · rw [text_singleton, ← hdepth]
    exact onStats_line g t

/-- Progress with a rate of each kind. -/
def halfway : Progress where
  depth := 3
  timeStamp := "2024-01-01 10:00:00".toList
  generated := ⟨1234567, true, by decide⟩
  generatedRate := some ⟨1234, true, by decide⟩
  distinct := ⟨1234, false, by decide⟩
  distinctRate := some ⟨7, false, by decide⟩
  left := ⟨0, true, by decide⟩
  short := by decide
  stamped := by decide
  unbroken := by decide
  undivided := by decide

example : halfway.line =
    "Progress(3) at 2024-01-01 10:00:00: 1,234,567 states generated (1,234 s/min), ".toList ++
      "1234 distinct states found (7 ds/min), 0 states left on queue.".toList := by
  decide +kernel

/-- Counters of which one is grouped. -/
def inAll : Totals :=
  ⟨⟨2000000, true, by decide⟩, ⟨1500, false, by decide⟩, ⟨0, false, by decide⟩⟩

/-- A search that was deep. -/
def deepSearch : List Text :=
  (Protocol.Item.message ⟨2194, some 0, [depthText 12]⟩).lines

theorem counters_read_back_grouped :
    let g := ((session none).feedEach decoder deepSearch).1.gathered
    (onMessage g ⟨2200, some 0, [halfway.line]⟩).gathered.grammar.soFar.initialStats =
        [⟨"2024-01-01 10:00:00".toList, 3, 1234567, 1234, 0⟩] ∧
      (onMessage g ⟨2199, some 0, [inAll.line]⟩).gathered.grammar.soFar.finalStats =
        some ⟨[], 12, 2000000, 1500, 0⟩ := by
  obtain ⟨hprogress, htotals⟩ := counters_read_back none deepSearch halfway inAll (Or.inr rfl)
  have hdepth : lastDepth (messages (drive none (deepSearch.filter ShortLine)).2) = 12 := by
    decide +kernel
  intro g
  have hreport : g.grammar.soFar = CheckReport.blank := by decide +kernel
  rw [hprogress, htotals, hdepth]
  refine ⟨?_, ?_⟩
  · change g.grammar.soFar.initialStats ++ [halfway.stat] = _
    rw [hreport]
    rfl
  · change some (inAll.stat (g.grammar.soFar.endTime.getD []) 12) = _
    rw [hreport]
    rfl

end TlaRunner.Checker
