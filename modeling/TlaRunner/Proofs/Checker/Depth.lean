import TlaRunner.Proofs.Checker.Statistics
import TlaRunner.Proofs.Checker.Tally

/-!
# The depth in the final counters

The depth of the search is told in a message of its own, and the statistics message enters
the final counters with the depth that was reported last by then.  Nothing else reads the
final counters: a run goes on in the same way whatever they are (`deliver_setFinal`), and
apart from them it ends with the same report.  Nothing but a statistics message changes
them, either.

So the final counters have the depth of the search if it is told before them, but a depth
that is told behind them is lost (`final_stats_of_depth`).
-/

namespace TlaRunner.Checker

open Text (Scan)
open Protocol (Gathered Step Event Fault Item Message Delivery deliver ShortLine fates)

/-! ## Messages that tell them -/

/-- The words in front of the depth of the search. -/
def depthWords : Text :=
  "depth of the complete state graph search is ".toList

/-- Whether a message tells the depth of the search. -/
structure TellsDepth (m : Message) (depth : Nat) : Prop where
  /-- It has the code for that. -/
  code : m.code = 2194
  /-- It is no error, no warning and no state. -/
  plain : m.subCode ∉ [some 1, some 2, some 3, some 4]
  /-- The first occurrence of the words is the one in front of the depth. -/
  text : ∃ lead tail : Text, m.text = lead ++ (depthWords ++ (Text.ofNat depth ++ tail)) ∧
    ¬depthWords <:+: lead ++ depthWords.dropLast ∧ ∀ c ∈ tail.head?, Text.isDigit c = false
  /-- The depth is within the limit. -/
  short : (Text.ofNat depth).length ≤ Text.digitLimit

/-- Whether a message tells totals. -/
structure TellsTotals (m : Message) (t : Totals) : Prop where
  /-- It has the code for that. -/
  code : m.code = 2199
  /-- It is no error, no warning and no state. -/
  plain : m.subCode ∉ [some 1, some 2, some 3, some 4]
  /-- Its text begins with the line. -/
  text : t.line <+: m.text

/-- Whether a message has nothing to do with the depth or the final counters. -/
def Neutral (m : Message) : Prop :=
  roleOf m ∉ [.status .stats, .status .searchDepth, .status .progress]

instance (m : Message) : Decidable (Neutral m) :=
  inferInstanceAs (Decidable (_ ∉ _))

theorem TellsDepth.role {m : Message} {depth : Nat} (h : TellsDepth m depth) :
    roleOf m = .status .searchDepth :=
  roleOf_of_plain (by rw [h.code]; rfl) h.plain (by decide)

theorem TellsTotals.role {m : Message} {t : Totals} (h : TellsTotals m t) :
    roleOf m = .status .stats :=
  roleOf_of_plain (by rw [h.code]; rfl) h.plain (by decide)

theorem depthLine_eq : depthLine = (Scan.literal depthWords >>= fun _ => Scan.digits) := rfl

/-- The depth is read behind the first occurrence of the words. -/
theorem TellsDepth.search {m : Message} {depth : Nat} (h : TellsDepth m depth) :
    Scan.search depthLine m.text = some (Text.ofNat depth) := by
  obtain ⟨lead, tail, htext, hfirst, htail⟩ := h.text
  have hread : depthLine (depthWords ++ (Text.ofNat depth ++ tail)) =
      some (Text.ofNat depth, tail) := by
    rw [depthLine_eq, Scan.bind_apply, Scan.literal_append, Option.bind_some]
    exact Scan.digits_eq_some_iff.mpr ⟨rfl, Text.isNumeral_ofNat depth, htail⟩
  have hearlier (front back : Text) (hlead : lead = front ++ back) (hne : back ≠ []) :
      depthLine (back ++ (depthWords ++ (Text.ofNat depth ++ tail))) = none := by
    cases hfound : depthLine (back ++ (depthWords ++ (Text.ofNat depth ++ tail))) with
    | none => rfl
    | some found =>
        have hwords := Scan.prefix_of_literal_bind hfound
        have hback : back ++ depthWords.dropLast <+:
            back ++ (depthWords ++ (Text.ofNat depth ++ tail)) :=
          (List.prefix_append_right_inj back).mpr
            ((List.dropLast_prefix _).trans (List.prefix_append _ _))
        have hlength : depthWords.length ≤ (back ++ depthWords.dropLast).length := by
          have hpos := List.length_pos_iff.mpr hne
          rw [List.length_append, List.length_dropLast]
          omega
        have hin := List.prefix_of_prefix_length_le hwords hback hlength
        refine absurd (hin.isInfix.trans ?_) hfirst
        rw [hlead, List.append_assoc]
        exact (List.suffix_append front _).isInfix
  rw [Scan.search, htext, Scan.find_append hearlier, Scan.find_of_some hread, Option.map_some]

section

variable {subCode : Option Nat} (hplain : subCode ∉ [some 1, some 2, some 3, some 4])

include hplain

/-- The line of the tool tells the depth. -/
theorem tellsDepth_depthText {depth : Nat}
    (hshort : (Text.ofNat depth).length ≤ Text.digitLimit) :
    TellsDepth ⟨2194, subCode, [depthText depth]⟩ depth where
  code := rfl
  plain := hplain
  text := ⟨"The ".toList, ['.'], text_singleton _ _ _, by decide, fun c hc => by
    cases hc
    decide⟩
  short := hshort

/-- The line of the tool tells the totals. -/
theorem tellsTotals_line (t : Totals) : TellsTotals ⟨2199, subCode, [t.line]⟩ t where
  code := rfl
  plain := hplain
  text := by
    rw [text_singleton]

end

/-! ## Reading whatever the final counters are -/

/-- Sets the final counters. -/
def setFinal (final : Option Stat) (g : Gathered Run) : Gathered Run :=
  update g fun r => { r with finalStats := final }

section

variable (final : Option Stat) (g : Gathered Run)

theorem setFinal_self : setFinal g.grammar.soFar.finalStats g = g := rfl

/-- A change of the other entries of the report. -/
theorem update_setFinal {f : CheckReport → CheckReport}
    (hf : ∀ r, f { r with finalStats := final } = { f r with finalStats := final }) :
    update (setFinal final g) f = setFinal final (update g f) := by
  simp only [update, setFinal, hf]

theorem addRecords_setFinal (rs : List Diagnostic.Record) :
    (setFinal final g).addRecords tool rs =
      (setFinal final (g.addRecords tool rs).1, (g.addRecords tool rs).2) := by
  induction rs generalizing g with
  | nil => rfl
  | cons r rest ih =>
      have hrecord : (setFinal final g).addRecord tool r =
          (setFinal final (g.addRecord tool r).1, (g.addRecord tool r).2) := rfl
      simp only [Gathered.addRecords, hrecord, ih]

theorem apply_setFinal (result : Analyzer.LineResult) :
    apply (setFinal final g) result =
      (setFinal final (apply g result).1, (apply g result).2) := by
  rw [apply, apply]
  cases result.file with
  | none => exact addRecords_setFinal final g _
  | some file => exact addRecords_setFinal final (g.addFile file) _

theorem flushAnalyzer_setFinal :
    flushAnalyzer (setFinal final g) =
      (setFinal final (flushAnalyzer g).1, (flushAnalyzer g).2) := by
  have hanalyzer : (setFinal final g).grammar.analyzer = g.grammar.analyzer := rfl
  rw [flushAnalyzer, flushAnalyzer, hanalyzer]
  cases g.grammar.analyzer with
  | none => rfl
  | some grammar => exact apply_setFinal final (setAnalyzer g (some grammar.flush.2)) _

theorem onLine_setFinal (line : Text) :
    onLine (setFinal final g) line =
      ⟨setFinal final (onLine g line).gathered, (onLine g line).events⟩ := by
  have hanalyzer : (setFinal final g).grammar.analyzer = g.grammar.analyzer := rfl
  rw [onLine, onLine, hanalyzer]
  cases g.grammar.analyzer with
  | none => rfl
  | some grammar =>
      simp only
      cases (grammar.feed line).2 with
      | error fault => rfl
      | ok result =>
          have happly := apply_setFinal final (setAnalyzer g (some (grammar.feed line).1)) result
          have hset : setAnalyzer (setFinal final g) (some (grammar.feed line).1) =
              setFinal final (setAnalyzer g (some (grammar.feed line).1)) := rfl
          simp only [hset, happly]

theorem reportAt_setFinal (text : Text) (ds : List LocationDigits) :
    reportAt (setFinal final g) text ds =
      ⟨setFinal final (reportAt g text ds).gathered, (reportAt g text ds).events⟩ := by
  induction ds generalizing g with
  | nil => rfl
  | cons d rest ih =>
      have hplace : readLocation (setFinal final g).grammar d = readLocation g.grammar d := rfl
      rw [reportAt, reportAt, hplace]
      cases readLocation g.grammar d with
      | error fault => rfl
      | ok place =>
          have hrecord : (setFinal final g).addRecord tool ⟨place.1, place.2, .error, text⟩ =
              (setFinal final (g.addRecord tool ⟨place.1, place.2, .error, text⟩).1,
                (g.addRecord tool ⟨place.1, place.2, .error, text⟩).2) := rfl
          simp only [hrecord, ih]

theorem onError_setFinal (m : Message) :
    onError (setFinal final g) m =
      ⟨setFinal final (onError g m).gathered, (onError g m).events⟩ := by
  have hbug : (setFinal final g).grammar.toolBug = g.grammar.toolBug := rfl
  rw [onError, onError, hbug, update_setFinal final g fun _ => rfl]
  exact reportAt_setFinal final _ _ _

theorem onTraceState_setFinal (m : Message) :
    onTraceState (setFinal final g) m =
      (setFinal final (onTraceState g m).1, (onTraceState g m).2) := by
  rw [onTraceState, onTraceState]
  cases m.lines with
  | nil => rfl
  | cons first rest =>
      simp only
      cases Scan.front traceTitle (Text.strip first) with
      | none => rfl
      | some found =>
          simp only
          cases Protocol.readNumber found.1 with
          | error fault => rfl
          | ok number => rfl

theorem onProgress_setFinal (text : Text) :
    onProgress (setFinal final g) text =
      (setFinal final (onProgress g text).1, (onProgress g text).2) := by
  rw [onProgress, onProgress]
  cases Scan.search progressLine text with
  | none => rfl
  | some d =>
      simp only
      cases Protocol.readNumber d.diameter with
      | error fault => rfl
      | ok depth =>
          simp only
          cases readCounters d.timeStamp depth d.counters with
          | error fault => rfl
          | ok stat => rfl

theorem onDepth_setFinal (text : Text) :
    onDepth (setFinal final g) text =
      (setFinal final (onDepth g text).1, (onDepth g text).2) := by
  rw [onDepth, onDepth]
  cases Scan.search depthLine text with
  | none => rfl
  | some digits =>
      simp only
      cases Protocol.readNumber digits with
      | error fault => rfl
      | ok depth => rfl

theorem onCoverage_setFinal (lines : List Text) :
    onCoverage (setFinal final g) lines =
      (setFinal final (onCoverage g lines).1, (onCoverage g lines).2) := by
  induction lines generalizing g with
  | nil => rfl
  | cons line rest ih =>
      rw [onCoverage, onCoverage]
      cases Scan.front coverageLine (Text.strip line) with
      | none => exact ih g
      | some d =>
          simp only
          cases readCoverage d with
          | error fault => rfl
          | ok entry =>
              simp only
              rw [update_setFinal final g fun _ => rfl]
              exact ih _

theorem settle_final (outcome : Outcome) (r : CheckReport) :
    settle outcome { r with finalStats := final } =
      { settle outcome r with finalStats := final } := by
  rw [settle, settle]
  split
  · rfl
  · rfl

theorem onFinished_setFinal (text : Text) :
    onFinished (setFinal final g) text = setFinal final (onFinished g text) := by
  rw [onFinished, onFinished]
  cases Scan.front finishedLine text with
  | none =>
      simp only
      rw [update_setFinal final g fun _ => rfl]
      exact update_setFinal final _ (settle_final final _)
  | some found =>
      simp only
      rw [update_setFinal final g fun _ => rfl, update_setFinal final _ fun _ => rfl]
      exact update_setFinal final _ (settle_final final _)

/-- Only a statistics message changes the final counters, and no other reads them. -/
theorem onStatus_setFinal {topic : Topic} (htopic : topic ≠ .stats) (text : Text) :
    onStatus (setFinal final g) topic text =
      (setFinal final (onStatus g topic text).1, (onStatus g topic text).2) := by
  cases topic with
  | stats => exact absurd rfl htopic
  | progress => exact onProgress_setFinal final g text
  | searchDepth => exact onDepth_setFinal final g text
  | coverage => exact onCoverage_setFinal final g _
  | finished => exact Prod.ext (onFinished_setFinal final g text) rfl
  | success =>
      refine Prod.ext ?_ rfl
      refine update_setFinal final g (f := fun r =>
        { settle .success r with collisionProbability := Scan.search collisionLine text }) ?_
      intro r
      rw [settle_final]
  | _ => rfl

theorem dispatch_setFinal {m : Message} (hm : roleOf m ≠ .status .stats) :
    dispatch (setFinal final g) m =
      ⟨setFinal final (dispatch g m).gathered, (dispatch g m).events⟩ := by
  rw [dispatch_eq, dispatch_eq]
  cases hrole : roleOf m with
  | analyzerStart => rfl
  | analyzerEnd =>
      simp only [flushAnalyzer_setFinal]
      rfl
  | failure =>
      have hbug : markToolBug (setFinal final g) m = setFinal final (markToolBug g m) := by
        rw [markToolBug, markToolBug]
        split
        · rfl
        · rfl
      simp only [hbug, onError_setFinal]
  | warning => rfl
  | traceState => simp only [onTraceState_setFinal, silent]
  | status topic =>
      have htopic : topic ≠ .stats := fun heq => hm (by rw [hrole, heq])
      simp only [onStatus_setFinal final g htopic, silent]

end

/-! ## Runs whatever the final counters are -/

/-- A delivery that enters no final counters is read in the same way, but its progress tells
of other ones. -/
theorem carry_setFinal (final : Option Stat) {g after : Gathered Run} {x : Delivery}
    {events : List Event} (hx : ∀ m ∈ message? x, roleOf m ≠ .status .stats)
    (h : x.carry decoder g = ⟨after, .ok events⟩) :
    ∃ events', x.carry decoder (setFinal final g) = ⟨setFinal final after, .ok events'⟩ := by
  cases x with
  | condition c =>
      cases h
      exact ⟨[], rfl⟩
  | item i =>
      cases i with
      | line line =>
          have hline : onLine g line = ⟨after, .ok events⟩ := h
          refine ⟨events, (onLine_setFinal final g line).trans ?_⟩
          rw [hline]
      | message m =>
          have hmessage : onMessage g m = ⟨after, .ok events⟩ := h
          obtain ⟨rfl, hevents⟩ := Step.mk.inj hmessage
          obtain ⟨told, htold, -⟩ := map_eq_ok_iff.mp hevents
          refine ⟨told ++ [.progress tool (detail m)
            (some (snapshot (setFinal final (dispatch g m).gathered)))], ?_⟩
          change onMessage (setFinal final g) m = _
          rw [onMessage, dispatch_setFinal final g (hx m rfl)]
          simp only [htold, Except.map]

/-- So are deliveries one after the other. -/
theorem deliver_setFinal (final : Option Stat) {g after : Gathered Run} {xs : List Delivery}
    {events : List Event} (hxs : ∀ m ∈ messages xs, roleOf m ≠ .status .stats)
    (h : deliver decoder g xs = ⟨after, .ok events⟩) :
    ∃ events', deliver decoder (setFinal final g) xs = ⟨setFinal final after, .ok events'⟩ := by
  induction xs generalizing g events with
  | nil =>
      cases h
      exact ⟨[], rfl⟩
  | cons x rest ih =>
      obtain ⟨middle, first, last, hx, hrest, -⟩ := Protocol.deliver_cons_eq_ok.mp h
      rw [messages_cons, List.forall_mem_append] at hxs
      obtain ⟨first', hfirst⟩ := carry_setFinal final (by simpa using hxs.1) hx
      obtain ⟨last', hlast⟩ := ih hxs.2 hrest
      exact ⟨first' ++ last', Protocol.deliver_cons_eq_ok.mpr
        ⟨setFinal final middle, first', last', hfirst, hlast, rfl⟩⟩

/-- Deliveries without a statistics message leave the final counters alone. -/
theorem finalStats_deliver {g after : Gathered Run} {xs : List Delivery} {events : List Event}
    (hxs : ∀ m ∈ messages xs, roleOf m ≠ .status .stats)
    (h : deliver decoder g xs = ⟨after, .ok events⟩) :
    after.grammar.soFar.finalStats = g.grammar.soFar.finalStats := by
  -- To set them to what they are changes nothing, before the deliveries and so behind them.
  obtain ⟨events', hsame⟩ := deliver_setFinal g.grammar.soFar.finalStats hxs h
  rw [setFinal_self, h] at hsame
  obtain ⟨hafter, -⟩ := Step.mk.inj hsame
  rw [hafter]
  rfl

/-! ## What the two messages enter -/

theorem TellsTotals.onMessage_eq {m : Message} {t : Totals} (h : TellsTotals m t)
    (g : Gathered Run) :
    let after := t.enter g.grammar.diameter g
    onMessage g m = ⟨after, .ok [.progress tool (detail m) (some (snapshot after))]⟩ := by
  obtain ⟨rest, htext⟩ := h.text
  refine onMessage_status h.role ?_
  rw [← htext]
  exact onStats_append g t rest

theorem TellsDepth.onMessage_eq {m : Message} {depth : Nat} (h : TellsDepth m depth)
    (g : Gathered Run) :
    let after := setDiameter g depth
    onMessage g m = ⟨after, .ok [.progress tool (detail m) (some (snapshot after))]⟩ := by
  refine onMessage_status h.role ?_
  change onDepth g m.text = _
  rw [onDepth, h.search]
  simp only [readNumber_ofNat h.short]

theorem TellsDepth.depthOf? {m : Message} {depth : Nat} (h : TellsDepth m depth) :
    depthOf? m = some depth := by
  rw [Checker.depthOf?, h.role]
  simp only [depthIn?, h.search, Option.bind_some, readNumber_ofNat h.short]
  rfl

theorem Neutral.depthOf? {m : Message} (h : Neutral m) : depthOf? m = none := by
  simp only [Neutral, List.mem_cons, List.not_mem_nil, or_false, not_or] at h
  rw [Checker.depthOf?]
  split
  next topic hrole =>
    rw [depthIn?.eq_def]
    split
    · exact absurd hrole h.2.2
    · exact absurd hrole h.2.1
    · rfl
  next => rfl

theorem Neutral.ne_stats {m : Message} (h : Neutral m) : roleOf m ≠ .status .stats := by
  intro hrole
  rw [Neutral, hrole] at h
  exact h List.mem_cons_self

/-- A depth is reported last if no other follows it. -/
theorem lastDepth_append_cons {before middle : List Message} {m : Message} {depth : Nat}
    (h : depthOf? m = some depth) (hmiddle : ∀ m ∈ middle, depthOf? m = none) :
    lastDepth (before ++ m :: middle) = depth := by
  have hnone : middle.filterMap depthOf? = [] := List.filterMap_eq_nil_iff.mpr hmiddle
  rw [lastDepth, List.filterMap_append, List.filterMap_cons_some h, hnone, List.getLast?_concat]
  rfl

/-! ## Final counters behind a run -/

theorem message?_eq_some {x : Delivery} {m : Message} (h : message? x = some m) :
    x = .item (.message m) := by
  cases x with
  | condition c => cases h
  | item i =>
      cases i with
      | line line => cases h
      | message m =>
          cases h
          rfl

/-- Deliveries around a message. -/
theorem exists_append_of_messages {xs : List Delivery} {before after : List Message} {m : Message}
    (h : messages xs = before ++ m :: after) :
    ∃ first last, xs = first ++ .item (.message m) :: last ∧ messages first = before ∧
      messages last = after := by
  obtain ⟨first, rest, rfl, hfirst, hrest⟩ := List.filterMap_eq_append_iff.mp h
  obtain ⟨skipped, x, last, rfl, hskipped, hx, hlast⟩ := List.filterMap_eq_cons_iff.mp hrest
  refine ⟨first ++ skipped, last, ?_, ?_, hlast⟩
  · rw [message?_eq_some hx, List.append_assoc]
  · rw [messages, List.filterMap_append, List.filterMap_eq_nil_iff.mpr hskipped, List.append_nil]
    exact hfirst

/-- The depth behind deliveries is the one that they report last. -/
theorem diameter_deliver {spec : Option Text} {g : Gathered Run} {xs : List Delivery}
    {events : List Event} (h : deliver decoder (session spec).gathered xs = ⟨g, .ok events⟩) :
    g.grammar.diameter = lastDepth (messages xs) := by
  have hmeasure := measure_deliver h
  rw [foldl_next] at hmeasure
  exact congrArg Measure.depth hmeasure

/-- What a statistics message enters is there to the end, if none follows it. -/
theorem finalStats_of_totals {spec : Option Text} {g : Gathered Run} {xs : List Delivery}
    {events : List Event} {stats : Message} {t : Totals} {before after : List Message}
    (hstats : TellsTotals stats t) (hafter : ∀ m ∈ after, roleOf m ≠ .status .stats)
    (hmessages : messages xs = before ++ stats :: after)
    (h : deliver decoder (session spec).gathered xs = ⟨g, .ok events⟩) :
    ∃ time, g.grammar.soFar.finalStats = some (t.stat time (lastDepth before)) := by
  obtain ⟨first, last, rfl, rfl, rfl⟩ := exists_append_of_messages hmessages
  obtain ⟨middle, _, _, hfirst, hrest, -⟩ := Protocol.deliver_append_eq_ok.mp h
  obtain ⟨entered, _, _, hmessage, hlast, -⟩ := Protocol.deliver_cons_eq_ok.mp hrest
  obtain ⟨rfl, -⟩ := Step.mk.inj ((hstats.onMessage_eq middle).symm.trans hmessage)
  refine ⟨middle.grammar.soFar.endTime.getD [], ?_⟩
  rw [finalStats_deliver hafter hlast, ← diameter_deliver hfirst]
  rfl

/-- A report with another depth in the final counters. -/
def withDepth (depth : Nat) (r : CheckReport) : CheckReport :=
  { r with finalStats := r.finalStats.map fun stat => { stat with diameter := depth } }

theorem withDepth_eq_self_iff {r : CheckReport} {stat : Stat} {depth : Nat}
    (h : r.finalStats = some stat) : withDepth depth r = r ↔ stat.diameter = depth := by
  constructor
  · intro hsame
    have hfinal : r.finalStats.map _ = r.finalStats := congrArg CheckReport.finalStats hsame
    rw [h, Option.map_some] at hfinal
    exact (congrArg Stat.diameter (Option.some.inj hfinal)).symm
  · intro hdepth
    rw [withDepth, ← hdepth, h, Option.map_some, ← h]

theorem finalStats_report (g : Gathered Run) (stopped : Bool) :
    (decoder.report (flushAnalyzer g).1 stopped).finalStats = g.grammar.soFar.finalStats := by
  change (flushAnalyzer g).1.grammar.soFar.finalStats = _
  rw [soFar_flushAnalyzer]

/-- The report at the end is the same but for the final counters. -/
theorem report_setFinal (final : Option Stat) (g : Gathered Run) (stopped : Bool) :
    decoder.report (flushAnalyzer (setFinal final g)).1 stopped =
      { decoder.report (flushAnalyzer g).1 stopped with finalStats := final } := by
  rw [flushAnalyzer_setFinal]
  rfl

/-- A depth that is told before the statistics message instead of behind it is the one in the
final counters, and nothing else changes. -/
theorem deliver_exchanged {spec : Option Text} {after : Gathered Run} {xs ys : List Delivery}
    {events : List Event} {stats depth : Message} {t : Totals} {d : Nat}
    (hstats : TellsTotals stats t) (hdepth : TellsDepth depth d)
    (hys : ∀ m ∈ messages ys, roleOf m ≠ .status .stats)
    (h : deliver decoder (session spec).gathered
      (xs ++ .item (.message stats) :: .item (.message depth) :: ys) = ⟨after, .ok events⟩) :
    ∃ time events', after.grammar.soFar.finalStats =
        some (t.stat time (lastDepth (messages xs))) ∧
      deliver decoder (session spec).gathered
        (xs ++ .item (.message depth) :: .item (.message stats) :: ys) =
          ⟨setFinal (some (t.stat time d)) after, .ok events'⟩ := by
  obtain ⟨g, first, _, hxs, hrest, -⟩ := Protocol.deliver_append_eq_ok.mp h
  obtain ⟨entered, _, _, htotals, hrest, -⟩ := Protocol.deliver_cons_eq_ok.mp hrest
  obtain ⟨rfl, -⟩ := Step.mk.inj ((hstats.onMessage_eq g).symm.trans htotals)
  obtain ⟨told, _, _, htold, hlast, -⟩ := Protocol.deliver_cons_eq_ok.mp hrest
  obtain ⟨rfl, -⟩ := Step.mk.inj ((hdepth.onMessage_eq _).symm.trans htold)
  obtain ⟨last, hmirror⟩ := deliver_setFinal
    (some (t.stat (g.grammar.soFar.endTime.getD []) d)) hys hlast
  refine ⟨g.grammar.soFar.endTime.getD [], _, ?_, Protocol.deliver_append_eq_ok.mpr
    ⟨g, first, _, hxs, Protocol.deliver_cons_eq_ok.mpr ⟨setDiameter g d, _, _,
      hdepth.onMessage_eq g, Protocol.deliver_cons_eq_ok.mpr ⟨_, _, last,
        hstats.onMessage_eq _, hmirror, rfl⟩, rfl⟩, rfl⟩⟩
  rw [finalStats_deliver hys hlast, ← diameter_deliver hxs]
  rfl

/-- The final counters are those of the statistics message.  Their depth is the depth of the
search if the message that tells it came before, but if it comes behind, it is the depth that
was reported last before the statistics message.  So a run in which the two are exchanged has
the same report but for that depth, and it has the same report exactly if the depth of the
search was reported before. -/
theorem final_stats_of_depth {spec : Option Text} {lines : List Text} {stopped : Bool}
    {stats depth : Message} {t : Totals} {d : Nat} (hstats : TellsTotals stats t)
    (hdepth : TellsDepth depth d)
    (hrun : (Protocol.Reading.readLines decoder (session spec) lines stopped).2.fault = none) :
    ∃ report,
      (Protocol.Reading.readLines decoder (session spec) lines stopped).1.result = some report ∧
      (∀ before middle after, (∀ m ∈ middle ++ after, Neutral m) →
        messages (fates [] lines) = before ++ depth :: (middle ++ stats :: after) →
          ∃ time, report.finalStats = some (t.stat time d)) ∧
      (∀ before middle after, (∀ m ∈ middle ++ after, Neutral m) →
        messages (fates [] lines) = before ++ stats :: (middle ++ depth :: after) →
          ∃ time, report.finalStats = some (t.stat time (lastDepth before))) ∧
      ∀ swapped before after, (∀ line ∈ swapped, ShortLine line) →
        (∀ m ∈ messages after, Neutral m) →
        fates [] lines =
          before ++ .item (.message stats) :: .item (.message depth) :: after →
        fates [] swapped =
          before ++ .item (.message depth) :: .item (.message stats) :: after →
          let run := Protocol.Reading.readLines decoder (session spec) swapped stopped
          run.2.fault = none ∧ ∃ other, run.1.result = some other ∧ other = withDepth d report ∧
            (other = report ↔ lastDepth (messages before) = d) := by
  obtain ⟨after, events, hread, hsession, -⟩ :=
    Protocol.Reading.fates_of_readLines (g := (session spec).gathered) hrun
  refine ⟨decoder.report (flushAnalyzer after).1 stopped,
    congrArg Protocol.Session.result hsession, ?_, ?_, ?_⟩
  · intro before middle later hneutral hmessages
    obtain ⟨hmiddle, hlater⟩ := List.forall_mem_append.mp hneutral
    have hlast : lastDepth (before ++ depth :: middle) = d :=
      lastDepth_append_cons hdepth.depthOf? fun m hm => (hmiddle m hm).depthOf?
    rw [← List.cons_append, ← List.append_assoc] at hmessages
    rw [finalStats_report, ← hlast]
    exact finalStats_of_totals hstats (fun m hm => (hlater m hm).ne_stats) hmessages hread
  · intro before middle later hneutral hmessages
    obtain ⟨hmiddle, hlater⟩ := List.forall_mem_append.mp hneutral
    have hbehind : ∀ m ∈ middle ++ depth :: later, roleOf m ≠ .status .stats := by
      rw [List.forall_mem_append, List.forall_mem_cons, hdepth.role]
      exact ⟨fun m hm => (hmiddle m hm).ne_stats, by decide,
        fun m hm => (hlater m hm).ne_stats⟩
    rw [finalStats_report]
    exact finalStats_of_totals hstats hbehind hmessages hread
  · intro swapped before later hshort hneutral hlines hswapped
    rw [hlines] at hread
    obtain ⟨time, events', hkept, hexchanged⟩ :=
      deliver_exchanged hstats hdepth (fun m hm => (hneutral m hm).ne_stats) hread
    rw [← hswapped] at hexchanged
    obtain ⟨⟨hended, hfault, -⟩, -⟩ :=
      Protocol.Reading.readLines_fates (g := (session spec).gathered) hshort hexchanged stopped
    have hfinal := (finalStats_report after stopped).trans hkept
    have hother : decoder.report (decoder.onEnd (setFinal (some (t.stat time d)) after)).1 stopped =
        withDepth d (decoder.report (flushAnalyzer after).1 stopped) := by
      rw [withDepth, hfinal]
      exact report_setFinal _ after stopped
    refine ⟨hfault, _, congrArg Protocol.Session.result hended, hother, ?_⟩
    rw [hother, withDepth_eq_self_iff hfinal]
    exact Int.ofNat_inj

/-- Counters and then the depth, in the order in which the tool prints them. -/
def depthLast : List Text :=
  (Item.message ⟨2199, some 0, [inAll.line]⟩).lines ++ deepSearch

/-- The same in the other order. -/
def depthFirst : List Text :=
  deepSearch ++ (Item.message ⟨2199, some 0, [inAll.line]⟩).lines

theorem final_stats_of_depth_last :
    let run := Protocol.Reading.readLines decoder (session none) depthLast false
    let other := Protocol.Reading.readLines decoder (session none) depthFirst false
    run.2.fault = none ∧ other.2.fault = none ∧
      ∃ report, run.1.result = some report ∧ other.1.result = some (withDepth 12 report) ∧
        (∃ time, report.finalStats = some (inAll.stat time 0)) ∧ withDepth 12 report ≠ report := by
  have hrun : (Protocol.Reading.readLines decoder (session none) depthLast false).2.fault =
      none := by
    decide
  have hplain : some 0 ∉ [some 1, some 2, some 3, some 4] := by decide
  have hdepth : TellsDepth ⟨2194, some 0, [depthText 12]⟩ 12 :=
    tellsDepth_depthText hplain (by decide)
  obtain ⟨report, hresult, -, hlast, hswap⟩ :=
    final_stats_of_depth (tellsTotals_line hplain inAll) hdepth hrun
  obtain ⟨hfault, other, hother, rfl, hsame⟩ :=
    hswap depthFirst [] [] (by decide) (by decide) (by decide) (by decide)
  refine ⟨hrun, hfault, report, hresult, hother, hlast [] [] [] (by decide) (by decide), ?_⟩
  rw [Ne, hsame]
  decide

/-- A depth that is told behind the statistics message does not reach the final counters. -/
theorem depth_lost :
    ¬∀ (spec : Option Text) (lines : List Text) (stopped : Bool) (stats depth : Message)
      (t : Totals) (d : Nat) (before middle after : List Message) (report : CheckReport),
      TellsTotals stats t → TellsDepth depth d → (∀ m ∈ middle ++ after, Neutral m) →
        messages (fates [] lines) = before ++ stats :: (middle ++ depth :: after) →
          (Protocol.Reading.readLines decoder (session spec) lines stopped).2.fault = none →
            (Protocol.Reading.readLines decoder (session spec) lines stopped).1.result =
              some report →
                ∃ time, report.finalStats = some (t.stat time d) := by
  intro hall
  have hplain : some 0 ∉ [some 1, some 2, some 3, some 4] := by decide
  have hrun : (Protocol.Reading.readLines decoder (session none) depthLast false).2.fault =
      none := by
    decide
  have hdiameter : (Protocol.Reading.readLines decoder (session none) depthLast
      false).1.result.map (fun report => report.finalStats.map (·.diameter)) =
        some (some 0) := by
    decide
  obtain ⟨report, hresult, hzero⟩ := Option.map_eq_some_iff.mp hdiameter
  obtain ⟨time, hfinal⟩ := hall none depthLast false _ _ inAll 12 [] [] [] report
    (tellsTotals_line hplain inAll) (tellsDepth_depthText hplain (by decide)) (by decide)
    (by decide) hrun hresult
  rw [hfinal] at hzero
  cases hzero

end TlaRunner.Checker
