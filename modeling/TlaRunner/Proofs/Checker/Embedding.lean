import TlaRunner.Proofs.Analyzer.Grammar
import TlaRunner.Proofs.Checker.Dispatch
import TlaRunner.Proofs.Protocol.Transcript

/-!
# The analyzer's part of the output

Between two of its messages the model checker prints what the analyzer prints, and reads it
by the analyzer's grammar.  The two readings are told apart by their tool, by the progress
that only the analyzer's own decoder tells, and by the module that the model checker enters
before any output.

`Mirrors` relates what the two have gathered: one grammar, the same findings, and the same
files but for the module, which leads them.  Each line keeps this and is announced alike by
both (`Mirrors.onLine`), and so does the end of the part, which is the end of the output for
the analyzer's decoder (`Mirrors.onEnd`).
-/

namespace TlaRunner.Checker

open Protocol (Gathered Step Event Message Item Delivery Conveys announced announced_append)
open Protocol.Reading (feedLines readLines)
open Analyzer (Grammar)

/-! ## Two decoders side by side -/

/-- What the model checker's decoder has gathered in the analyzer's part, and what the
analyzer's decoder has gathered of the same lines. -/
structure Mirrors (spec : Option Text) (alone : Gathered Grammar) (part : Gathered Run) : Prop where
  /-- The grammars are one. -/
  grammar : part.grammar.analyzer = some alone.grammar
  /-- The files and their findings are the same, but the module leads them. -/
  mapping : part.diagnostics.mapping = alone.diagnostics.mapping.ledBy spec
  /-- The same findings are known. -/
  seen : part.diagnostics.seen = alone.diagnostics.seen

section

variable {spec : Option Text} {alone : Gathered Grammar} {part : Gathered Run}

theorem Mirrors.addFile (h : Mirrors spec alone part) (file : Text) :
    Mirrors spec (alone.addFile file) (part.addFile file) := by
  refine ⟨h.grammar, ?_, h.seen⟩
  have hmapping := Diagnostic.Mapping.ledBy_enter alone.diagnostics.mapping file spec
  rw [← h.mapping] at hmapping
  exact hmapping

theorem Mirrors.addRecord (h : Mirrors spec alone part) (first second : Tool)
    (r : Diagnostic.Record) :
    Mirrors spec (alone.addRecord first r).1 (part.addRecord second r).1 ∧
      announced (alone.addRecord first r).2 = announced (part.addRecord second r).2 := by
  have hknows : part.diagnostics.knows r = alone.diagnostics.knows r := by
    rw [Diagnostic.Collection.knows, h.seen, Diagnostic.Collection.knows]
  have hmapping := Diagnostic.Mapping.ledBy_append alone.diagnostics.mapping r.file r spec
  rw [← h.mapping] at hmapping
  simp only [Gathered.addRecord, Diagnostic.Collection.add, hknows]
  split
  · exact ⟨h, rfl⟩
  · exact ⟨⟨h.grammar, hmapping, congrArg (r.identity :: ·) h.seen⟩, rfl⟩

theorem Mirrors.addRecords (h : Mirrors spec alone part) (first second : Tool)
    (rs : List Diagnostic.Record) :
    Mirrors spec (alone.addRecords first rs).1 (part.addRecords second rs).1 ∧
      announced (alone.addRecords first rs).2 = announced (part.addRecords second rs).2 := by
  induction rs generalizing alone part with
  | nil => exact ⟨h, rfl⟩
  | cons r rs ih =>
      obtain ⟨hhere, hfirst⟩ := h.addRecord first second r
      obtain ⟨hlater, hrest⟩ := ih hhere
      refine ⟨hlater, ?_⟩
      simp only [Gathered.addRecords, announced_append]
      rw [hfirst, hrest]

/-- Progress announces no finding. -/
theorem announced_progress (detail : Option Text) :
    announced (detail.toList.map fun detail => Event.progress Analyzer.tool detail none) = [] := by
  cases detail with
  | none => rfl
  | some detail => rfl

/-- What a line gave is taken over alike. -/
theorem Mirrors.apply (h : Mirrors spec alone part) (result : Analyzer.LineResult) :
    Mirrors spec (Analyzer.apply alone result).1 (apply part result).1 ∧
      announced (Analyzer.apply alone result).2 = announced (apply part result).2 := by
  simp only [Analyzer.apply, Checker.apply, announced_append, announced_progress, List.nil_append]
  cases result.file with
  | none => exact h.addRecords _ _ _
  | some file => exact (h.addFile file).addRecords _ _ _

theorem Mirrors.setGrammar (h : Mirrors spec alone part) (grammar : Grammar) :
    Mirrors spec { alone with grammar } (setAnalyzer part (some grammar)) :=
  ⟨rfl, h.mapping, h.seen⟩

/-- The finding that was being read is given up alike. -/
theorem Mirrors.onEnd (h : Mirrors spec alone part) :
    Mirrors spec (Analyzer.onEnd alone).1 (flushAnalyzer part).1 ∧
      announced (Analyzer.onEnd alone).2 = announced (flushAnalyzer part).2 := by
  simp only [Analyzer.onEnd, flushAnalyzer, h.grammar]
  exact (h.setGrammar _).apply _

end

/-! ## Lines -/

/-- Two steps that were read and announce the same. -/
def Agree (spec : Option Text) (x : Step Grammar) (y : Step Run) : Prop :=
  ∃ alone part first second, x = ⟨alone, .ok first⟩ ∧ y = ⟨part, .ok second⟩ ∧
    announced first = announced second ∧ Mirrors spec alone part

section

variable {spec : Option Text} {alone : Gathered Grammar} {part : Gathered Run}

theorem Mirrors.onLine (h : Mirrors spec alone part) {line : Text} {result : Analyzer.LineResult}
    (hread : (alone.grammar.feed line).2 = .ok result) :
    Agree spec (Analyzer.onLine alone line) (onLine part line) := by
  obtain ⟨hmirrors, hannounced⟩ := (h.setGrammar (alone.grammar.feed line).1).apply result
  simp only [Analyzer.onLine, Checker.onLine, h.grammar, hread]
  exact ⟨_, _, _, _, rfl, rfl, hannounced, hmirrors⟩

/-- Lines that the grammar reads are read alike. -/
theorem Mirrors.deliver (h : Mirrors spec alone part) {lines : List Text}
    (hreads : alone.grammar.Reads lines) :
    Agree spec (Protocol.deliver Analyzer.decoder alone (lines.map fun line => .item (.line line)))
      (Protocol.deliver decoder part (lines.map fun line => .item (.line line))) := by
  induction lines generalizing alone part with
  | nil => exact ⟨alone, part, [], [], rfl, rfl, rfl, h⟩
  | cons line rest ih =>
      obtain ⟨⟨result, hread⟩, hrest⟩ := hreads
      obtain ⟨middle, center, first, second, hfirst, hsecond, hhere, hmirrors⟩ := h.onLine hread
      rw [← Analyzer.grammar_onLine hfirst] at hrest
      obtain ⟨after, behind, more, others, hmore, hothers, hlater, hlast⟩ := ih hmirrors hrest
      refine ⟨after, behind, first ++ more, second ++ others, ?_, ?_, ?_, hlast⟩
      · exact Protocol.deliver_cons_eq_ok.mpr ⟨middle, first, more, hfirst, hmore, rfl⟩
      · exact Protocol.deliver_cons_eq_ok.mpr ⟨center, second, others, hsecond, hothers, rfl⟩
      · rw [announced_append, announced_append, hhere, hlater]

end

/-! ## The messages around the part -/

/-- The message that opens the part starts a grammar. -/
theorem carry_start (g : Gathered Run) {m : Message} (h : m.code = 2220) :
    ∃ after, Delivery.carry decoder g (.item (.message m)) =
      ⟨after, .ok [.progress tool (detail m) (some (snapshot after))]⟩ ∧
      after.grammar.analyzer = some .start ∧ after.diagnostics = g.diagnostics := by
  have htopic : Topic.ofCode m.code = .analyzerStart := by
    rw [h]
    rfl
  have hdispatch : dispatch g m =
      ⟨setAnalyzer (update g fun r => { r with phase := .parsing }) (some .start), .ok []⟩ := by
    simp only [dispatch, htopic, if_true]
  simp only [Delivery.carry, decoder, onMessage, hdispatch]
  exact ⟨_, rfl, rfl, rfl⟩

/-- The message that closes the part gives up the finding that was being read. -/
theorem carry_stop (g : Gathered Run) {m : Message} (h : m.code = 2219) :
    ∃ after, Delivery.carry decoder g (.item (.message m)) =
      ⟨after, .ok ((flushAnalyzer g).2 ++ [.progress tool (detail m) (some (snapshot after))])⟩ ∧
      after.diagnostics = (flushAnalyzer g).1.diagnostics := by
  have htopic : Topic.ofCode m.code = .analyzerEnd := by
    rw [h]
    rfl
  have hdispatch : dispatch g m =
      ⟨update (setAnalyzer (flushAnalyzer g).1 none) fun r => { r with phase := .parsed },
        .ok (flushAnalyzer g).2⟩ := by
    simp only [dispatch, htopic, if_true, reduceCtorEq, if_false]
  simp only [Delivery.carry, decoder, onMessage, hdispatch]
  exact ⟨_, rfl, rfl⟩

/-- Before any output the module is all that is known. -/
theorem mirrors_start (spec : Option Text) {part : Gathered Run}
    (hanalyzer : part.grammar.analyzer = some .start)
    (hdiagnostics : part.diagnostics = (session spec).gathered.diagnostics) :
    Mirrors spec Analyzer.session.gathered part := by
  refine ⟨hanalyzer, ?_, ?_⟩
  · rw [hdiagnostics]
    cases spec with
    | none => rfl
    | some file => rfl
  · rw [hdiagnostics]
    cases spec with
    | none => rfl
    | some file => rfl

/-! ## The part and the output alone -/

/-- Each line of the analyzer's part can be read. -/
theorem short_part {opening lines closing : List Text} {first last : Message}
    (hopening : Conveys opening first)
    (hlines : ∀ line ∈ lines, Protocol.Marker.ofLine? line = none)
    (hclosing : Conveys closing last) :
    ∀ line ∈ opening ++ lines ++ closing, Protocol.ShortLine line := by
  have hshort : ∀ line ∈ lines, Protocol.ShortLine line := fun line hline =>
    Protocol.short_of_unmarked (hlines line hline)
  exact List.forall_mem_append.mpr
    ⟨List.forall_mem_append.mpr ⟨hopening.short, hshort⟩, hclosing.short⟩

/-- It hands on the message that opens it, its lines, and the message that closes it. -/
theorem drive_part {opening lines closing : List Text} {first last : Message}
    (hopening : Conveys opening first)
    (hlines : ∀ line ∈ lines, Protocol.Marker.ofLine? line = none)
    (hclosing : Conveys closing last) :
    Protocol.drive none (opening ++ lines ++ closing) =
      (none, [.item (.message first)] ++ lines.map (fun line => .item (.line line)) ++
        [.item (.message last)]) := by
  simp only [Protocol.drive_append, hopening.drive, Protocol.drive_unmarked hlines, hclosing.drive]

/-- Lines without markers that the grammar reads give the same findings in the model
checker's output, between the messages that open and close the analyzer's part, and in the
analyzer's own.  The events announce them in the same order, and the files are held in the
same order, but for the module that is checked, which comes first. -/
theorem part_agrees (spec : Option Text) {opening lines closing : List Text}
    {first last : Message} (hopening : Conveys opening first) (hfirst : first.code = 2220)
    (hlines : ∀ line ∈ lines, Protocol.Marker.ofLine? line = none)
    (hreads : Grammar.start.Reads lines) (hclosing : Conveys closing last)
    (hlast : last.code = 2219) (stopped : Bool) :
    let part := feedLines decoder (session spec) (opening ++ lines ++ closing)
    let alone := readLines Analyzer.decoder Analyzer.session lines stopped
    part.2.fault = none ∧ alone.2.fault = none ∧
      announced part.2.events = announced alone.2.events ∧
      part.1.gathered.diagnostics.mapping = alone.1.gathered.diagnostics.mapping.ledBy spec := by
  -- The message that opens the part, its lines, and the message that closes it.
  obtain ⟨opened, hopen, hanalyzer, hdiagnostics⟩ := carry_start (session spec).gathered hfirst
  obtain ⟨left, center, findings, others, hleft, hcenter, htold, hmirrors⟩ :=
    (mirrors_start spec hanalyzer hdiagnostics).deliver hreads
  obtain ⟨closed, hclose, hheld⟩ := carry_stop center hlast
  obtain ⟨hended, hgiven⟩ := hmirrors.onEnd
  have hpart := Protocol.deliver_append_eq_ok.mpr ⟨center, _, _,
    Protocol.deliver_append_eq_ok.mpr ⟨opened, _, others,
      (Protocol.deliver_singleton decoder _ _).trans hopen, hcenter, rfl⟩,
    (Protocol.deliver_singleton decoder _ _).trans hclose, rfl⟩
  obtain ⟨hpartSession, hpartFault, hpartEvents⟩ :=
    Protocol.Reading.feedLines_of_ok (m := none) (short_part hopening hlines hclosing)
      (by rw [drive_part hopening hlines hclosing]; exact hpart)
  -- The lines alone, and the end of the output.
  have hdriveAll : Protocol.driveAll none lines = lines.map fun line => .item (.line line) := by
    rw [Protocol.driveAll, Protocol.drive_unmarked hlines]
    exact List.append_nil _
  obtain ⟨haloneSession, haloneFault, haloneEvents⟩ :=
    Protocol.Reading.readLines_of_ok (m := none)
      (fun line hline => Protocol.short_of_unmarked (hlines line hline))
      (by rw [hdriveAll]; exact hleft) stopped
  refine ⟨hpartFault, haloneFault, ?_, ?_⟩
  · have hlastEvents : announced (Protocol.Reading.lastEvents Analyzer.decoder left stopped) =
        announced (Analyzer.onEnd left).2 :=
      Protocol.announced_lastEvents Analyzer.decoder left stopped
    have hprogress (m : Message) (g : Gathered Run) :
        announced [.progress tool (detail m) (some (snapshot g))] = [] := rfl
    refine (congrArg announced hpartEvents).trans
      (Eq.trans ?_ (congrArg announced haloneEvents).symm)
    simp only [announced_append, hprogress, hlastEvents, htold, hgiven, List.nil_append,
      List.append_nil]
  · refine (congrArg (·.gathered.diagnostics.mapping) hpartSession).trans
      (Eq.trans ?_ (congrArg (·.gathered.diagnostics.mapping.ledBy spec) haloneSession).symm)
    exact (congrArg (·.mapping) hheld).trans hended.mapping

/-- A file, a finding in it that is told twice, and a finding that the part ends in. -/
def partLines : List Text :=
  ["Parsing file /a/Other.tla".toList, "line 3, col 5 to line 3, col 6 of module Spec".toList,
    "Unknown operator".toList, [], "line 3, col 5 to line 3, col 6 of module Spec".toList,
    "Unknown operator".toList, [], "line 4, col 1 to line 4, col 2 of module Spec".toList]

/-- The checked module has a finding, yet it comes before the file that is named first. -/
theorem part_agrees_findings :
    let first : Message := ⟨2220, some 0, ["Starting SANY...".toList]⟩
    let last : Message := ⟨2219, some 0, []⟩
    let lines := (Item.message first).lines ++ partLines ++ (Item.message last).lines
    let part := feedLines decoder (session (some "Spec.tla".toList)) lines
    part.2.fault = none ∧
      (announced part.2.events).map (·.text) =
        ["Unknown operator".toList, "Unknown error".toList] ∧
      part.1.gathered.diagnostics.mapping.files = ["Spec.tla".toList, "/a/Other.tla".toList] := by
  have hopening := Protocol.conveys_lines (m := ⟨2220, some 0, ["Starting SANY...".toList]⟩)
    (by decide)
  have hclosing := Protocol.conveys_lines (m := ⟨2219, some 0, []⟩) (by decide)
  have hlines : ∀ line ∈ partLines, Protocol.Marker.ofLine? line = none := by decide
  have hreads : Grammar.start.Reads partLines := Grammar.start.reads_of_short (by decide)
  obtain ⟨hfault, _, hannounced, hmapping⟩ :=
    part_agrees (some "Spec.tla".toList) hopening rfl hlines hreads hclosing rfl false
  refine ⟨hfault, ?_, ?_⟩
  · rw [hannounced]
    decide +kernel
  · rw [hmapping]
    decide +kernel

end TlaRunner.Checker
