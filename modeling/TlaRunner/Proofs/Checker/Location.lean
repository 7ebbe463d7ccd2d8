import TlaRunner.Proofs.Checker.Fault

/-!
# Which file the place of an error is in

The places that an error message names are told by their modules.  The file of a module is
looked up in the grammar of the analyzer's part, and only while that part is open: the
message that closes it drops the grammar with all that it knows, and one that opens another
part starts with nothing.  `openPart` says of the deliveries alone which lines that are, and
`analyzer_deliver` shows that the grammar is the one behind them.

So a file that the analyzer named is found for the errors inside the part and for none behind
it, which are placed beside the checked module (`file_of_location`).
-/

namespace TlaRunner.Checker

open Text (Scan)
open Protocol (Gathered Event Message Delivery announced announced_append deliver fates)
open Analyzer (Grammar)

/-! ## The open part -/

/-- The lines of the open part, if there is one, behind one more delivery. -/
def partAfter (part : Option (List Text)) : Delivery → Option (List Text)
  | .item (.line line) => part.map (· ++ [line])
  | .item (.message m) =>
    match roleOf m with
    | .analyzerStart => some []
    | .analyzerEnd => none
    | _ => part
  | .condition _ => part

/-- The lines of the analyzer's part that is open behind deliveries. -/
def openPart (xs : List Delivery) : Option (List Text) :=
  xs.foldl partAfter none

/-- The grammar behind the lines of a part. -/
def grammarOf (lines : List Text) : Grammar :=
  lines.foldl (fun grammar line => (grammar.feed line).1) .start

/-- The file that the open part names a module by. -/
def known? (xs : List Delivery) (moduleName : Text) : Option Text :=
  (openPart xs).bind fun lines => (grammarOf lines).fileOf? moduleName

theorem grammarOf_concat (lines : List Text) (line : Text) :
    grammarOf (lines ++ [line]) = ((grammarOf lines).feed line).1 := by
  simp [grammarOf]

section

variable (g : Gathered Run)

theorem analyzer_onLine (line : Text) :
    (onLine g line).gathered.grammar.analyzer =
      g.grammar.analyzer.map fun grammar => (grammar.feed line).1 := by
  rw [onLine]
  split
  next hnone =>
    rw [hnone]
    rfl
  next grammar hsome =>
    simp only [hsome, Option.map_some]
    split
    next => rfl
    next result _ => rw [grammar_apply]; rfl

theorem analyzer_onError (m : Message) :
    (onError (markToolBug g m) m).gathered.grammar.analyzer = g.grammar.analyzer := by
  rw [onError, (reportAt_grammar _ _ _).1, markToolBug]
  split
  · rfl
  · rfl

theorem analyzer_onStatus (topic : Topic) (text : Text) :
    (onStatus g topic text).1.grammar.analyzer = g.grammar.analyzer := by
  by_cases hsuccess : topic = .success
  · rw [hsuccess]
    rfl
  · by_cases hfinished : topic = .finished
    · rw [hfinished]
      show (onFinished g text).grammar.analyzer = _
      rw [onFinished]
      split
      · rfl
      · rfl
    · exact (keeps_onStatus g text hsuccess hfinished).analyzer

/-- Only the messages around the part touch its grammar. -/
theorem analyzer_dispatch (m : Message) :
    (dispatch g m).gathered.grammar.analyzer =
      match roleOf m with
      | .analyzerStart => some .start
      | .analyzerEnd => none
      | _ => g.grammar.analyzer := by
  rw [dispatch_eq]
  cases roleOf m with
  | analyzerStart => rfl
  | analyzerEnd => rfl
  | failure => exact analyzer_onError g m
  | warning => rfl
  | traceState => exact (keeps_onTraceState g m).analyzer
  | status topic => exact analyzer_onStatus g topic m.text

/-- A delivery makes of the grammar what it makes of the open part. -/
theorem analyzer_carry {part : Option (List Text)} (x : Delivery)
    (h : g.grammar.analyzer = part.map grammarOf) :
    (x.carry decoder g).gathered.grammar.analyzer = (partAfter part x).map grammarOf := by
  cases x with
  | item i =>
      cases i with
      | line line =>
          have hline := analyzer_onLine g line
          rw [h] at hline
          refine hline.trans ?_
          cases part with
          | none => rfl
          | some lines => simp [partAfter, grammarOf_concat]
      | message m =>
          have hmessage := analyzer_dispatch g m
          rw [h] at hmessage
          refine hmessage.trans ?_
          rw [partAfter]
          cases roleOf m with
          | analyzerStart => rfl
          | analyzerEnd => rfl
          | failure => rfl
          | warning => rfl
          | traceState => rfl
          | status topic => rfl
  | condition c => exact h

end

/-- Behind the deliveries of a run the grammar is that of the open part, and the module is
the one from the start. -/
theorem analyzer_deliver {g after : Gathered Run} {xs : List Delivery} {events : List Event}
    (hstart : g.grammar.analyzer = none) (h : deliver decoder g xs = ⟨after, .ok events⟩) :
    after.grammar.analyzer = (openPart xs).map grammarOf ∧
      after.grammar.soFar.specPath = g.grammar.soFar.specPath := by
  induction xs using List.reverseRecOn generalizing after events with
  | nil =>
      cases h
      exact ⟨hstart, rfl⟩
  | append_singleton xs x ih =>
      obtain ⟨middle, first, last, hxs, hx, _⟩ := Protocol.deliver_append_eq_ok.mp h
      obtain ⟨hanalyzer, hspec⟩ := ih hxs
      rw [Protocol.deliver_singleton] at hx
      have hafter : after = (x.carry decoder middle).gathered := by rw [hx]
      rw [hafter, openPart, List.foldl_append, specPath_carry, hspec]
      exact ⟨analyzer_carry middle x hanalyzer, rfl⟩

/-! ## Places -/

/-- The range of a location. -/
def LocationDigits.range (d : LocationDigits) : Except Protocol.Fault Range := do
  let line ← Protocol.readNumber d.line
  let column ← Protocol.readNumber d.column
  let endLine ← Protocol.readNumber d.endLine
  let endColumn ← Protocol.readNumber d.endColumn
  return .ofToolSpan line column endLine endColumn

/-- The file of a module that nothing is known of. -/
def beside (spec : Option Text) (moduleName : Text) : Except Protocol.Fault Text :=
  let name := moduleName ++ ".tla".toList
  match spec with
  | some spec => (((Path.ofText spec).withName name).map Path.toText).mapError .nameless
  | none => .ok name

/-- The file of a module other than the checked one. -/
theorem moduleFile_of_ne {run : Run} {moduleName : Text}
    (h : ∀ spec ∈ run.soFar.specPath, (Path.ofText spec).stem ≠ moduleName) :
    moduleFile run moduleName =
      match run.analyzer.bind (·.fileOf? moduleName) with
      | some file => .ok file
      | none => beside run.soFar.specPath moduleName := by
  rw [moduleFile.eq_def]
  cases hspec : run.soFar.specPath with
  | none =>
      cases run.analyzer.bind (·.fileOf? moduleName) with
      | none => rfl
      | some file => rfl
  | some spec =>
      simp only [if_neg (h spec hspec)]
      rfl

theorem readLocation_eq_ok {run : Run} {d : LocationDigits} {file : Text} {range : Range} :
    readLocation run d = .ok (file, range) ↔
      moduleFile run d.moduleName = .ok file ∧ d.range = .ok range := by
  have hbind : readLocation run d = do
      let file ← moduleFile run d.moduleName
      let range ← d.range
      return (file, range) := by
    simp only [readLocation, LocationDigits.range, bind_assoc, pure_bind]
  rw [hbind]
  cases moduleFile run d.moduleName with
  | error fault => simp [bind, Except.bind]
  | ok found =>
      cases d.range with
      | error fault => simp [bind, Except.bind]
      | ok place => simp [bind, Except.bind, pure, Except.pure]

theorem readLocation_congr {run other : Run} (d : LocationDigits)
    (hspec : run.soFar.specPath = other.soFar.specPath)
    (hanalyzer : run.analyzer = other.analyzer) : readLocation run d = readLocation other d := by
  simp only [readLocation, moduleFile.eq_def, hspec, hanalyzer]

/-! ## Findings -/

section

variable {g : Gathered Run} {named : List Text} {found : List Diagnostic.Record}

/-- Behind an added record it is known, as itself or as the one that came first. -/
theorem known_of_addRecord (hheld : g.diagnostics.Holds named found) (r : Diagnostic.Record) :
    ∃ x ∈ found ++ announced (g.addRecord tool r).2, x.identity = r.identity := by
  rw [Gathered.addRecord, Diagnostic.Collection.add]
  cases hknows : g.diagnostics.knows r with
  | true =>
      obtain ⟨x, hx, hidentity⟩ := (hheld.knows_iff r).mp hknows
      exact ⟨x, List.mem_append_left _ hx, hidentity⟩
  | false => exact ⟨r, List.mem_append_right _ List.mem_cons_self, rfl⟩

/-- Every place of an error has a finding with its text. -/
theorem known_of_reportAt {text : Text} {ds : List LocationDigits} {events : List Event}
    (hheld : g.diagnostics.Holds named found) (h : (reportAt g text ds).events = .ok events)
    {d : LocationDigits} (hd : d ∈ ds) :
    ∃ r ∈ found ++ announced events,
      readLocation g.grammar d = .ok (r.file, r.range) ∧ r.text = text := by
  induction ds generalizing g named found events with
  | nil => cases hd
  | cons first rest ih =>
      rw [reportAt] at h
      split at h
      next => cases h
      next file range hplace =>
        obtain ⟨last, hlast, rfl⟩ := map_eq_ok_iff.mp h
        rw [announced_append, ← List.append_assoc]
        rcases List.mem_cons.mp hd with rfl | hrest
        · obtain ⟨r, hr, hidentity⟩ :=
            known_of_addRecord hheld ⟨file, range, .error, text⟩
          obtain ⟨hfile, hrange, htext⟩ := Diagnostic.Identity.mk.inj hidentity
          refine ⟨r, List.mem_append_left _ hr, ?_, htext⟩
          rw [hplace, hfile, hrange]
        · have hadded := (Gathered.gains_addRecord tool g ⟨file, range, .error, text⟩).holds hheld
          obtain ⟨r, hr, hlater, htext⟩ := ih hadded hlast hrest
          exact ⟨r, hr, hlater, htext⟩

/-- Every place that an error message names has a finding. -/
theorem known_of_onMessage {after : Gathered Run} {m : Message} {events : List Event}
    (hheld : g.diagnostics.Holds named found) (h : onMessage g m = ⟨after, .ok events⟩)
    (hrole : roleOf m = .failure) {d : LocationDigits}
    (hd : d ∈ Scan.findAll location m.text) :
    ∃ r ∈ found ++ announced events, readLocation g.grammar d = .ok (r.file, r.range) ∧
      r.text = (filledLines m.lines).headD [] := by
  obtain ⟨-, hevents⟩ := Protocol.Step.mk.inj h
  obtain ⟨told, htold, rfl⟩ := map_eq_ok_iff.mp hevents
  rw [dispatch_eq, hrole] at htold
  have herror : (onError (markToolBug g m) m).events = .ok told := htold
  have hmarked : (markToolBug g m).diagnostics = g.diagnostics ∧
      (markToolBug g m).grammar.soFar = g.grammar.soFar ∧
      (markToolBug g m).grammar.analyzer = g.grammar.analyzer := by
    rw [markToolBug]
    split
    · exact ⟨rfl, rfl, rfl⟩
    · exact ⟨rfl, rfl, rfl⟩
  obtain ⟨hdiagnostics, hsoFar, hanalyzer⟩ := hmarked
  rw [← hdiagnostics] at hheld
  obtain ⟨r, hr, hplace, htext⟩ :=
    known_of_reportAt (g := update (markToolBug g m) _) hheld herror hd
  refine ⟨r, ?_, ?_, htext⟩
  · rw [announced_append, ← List.append_assoc]
    exact List.mem_append_left _ hr
  · rw [← hplace]
    exact readLocation_congr d (congrArg (·.specPath) hsoFar).symm hanalyzer.symm

end

/-- The file of a place in a module other than the checked one: while the analyzer's part is
open and has named the module it is the file named last, and else the one beside the checked
module. -/
theorem file_of_location {spec : Option Text} {lines : List Text} {stopped : Bool}
    (hrun : (Protocol.Reading.readLines decoder (session spec) lines stopped).2.fault = none)
    {before after : List Delivery} {m : Message}
    (hsplit : fates [] lines = before ++ .item (.message m) :: after)
    (hrole : roleOf m = .failure) {d : LocationDigits} (hd : d ∈ Scan.findAll location m.text)
    (hother : ∀ file ∈ spec, (Path.ofText file).stem ≠ d.moduleName) :
    ∃ report r,
      (Protocol.Reading.readLines decoder (session spec) lines stopped).1.result = some report ∧
      r ∈ report.diagnostics.records ∧ r.text = (filledLines m.lines).headD [] ∧
      d.range = .ok r.range ∧
      ∀ file, r.file = file ↔ known? before d.moduleName = some file ∨
        known? before d.moduleName = none ∧ beside spec d.moduleName = .ok file := by
  obtain ⟨s, report, -, hresult, -, -, hrecords⟩ := report_of_readLines hrun
  obtain ⟨last, events, hread, -, hevents⟩ :=
    Protocol.Reading.fates_of_readLines (g := (session spec).gathered) hrun
  rw [hsplit] at hread
  obtain ⟨middle, first, later, hbefore, hlater, rfl⟩ := Protocol.deliver_append_eq_ok.mp hread
  obtain ⟨behind, here, rest, hm, -, rfl⟩ := Protocol.deliver_cons_eq_ok.mp hlater
  have hheld := Protocol.holds_of_deliver announces (holds_session spec) hbefore
  obtain ⟨r, hr, hplace, htext⟩ := known_of_onMessage hheld hm hrole hd
  obtain ⟨hfile, hrange⟩ := readLocation_eq_ok.mp hplace
  refine ⟨report, r, hresult, (hrecords r).mpr ?_, htext, hrange, ?_⟩
  · have hall : announced (Protocol.Reading.readLines decoder (session spec) lines stopped).2.events
        = _ := congrArg announced hevents
    rw [hall, announced_append, announced_append, announced_append]
    rw [List.nil_append] at hr
    simp only [List.mem_append] at hr ⊢
    exact Or.inl (hr.imp_right Or.inl)
  · obtain ⟨hanalyzer, hspec⟩ := analyzer_deliver rfl hbefore
    have hknown : middle.grammar.analyzer.bind (·.fileOf? d.moduleName) =
        known? before d.moduleName := by
      rw [hanalyzer, Option.bind_map]
      rfl
    rw [moduleFile_of_ne (by rw [hspec]; exact hother), hknown, hspec] at hfile
    intro file
    cases hcase : known? before d.moduleName with
    | none =>
        have hbeside : beside spec d.moduleName = .ok r.file := by
          rw [hcase] at hfile
          exact hfile
        simp [hbeside]
    | some known =>
        rw [hcase] at hfile
        cases hfile
        simp

/-- A file that the analyzer names, and an error in it. -/
def namedFile : List Text :=
  (Protocol.Item.message ⟨2220, some 0, []⟩).lines ++ ["Parsing file /x/Other.tla".toList]

/-- An error in the file. -/
def placedError : Message :=
  ⟨1000, some 1, ["line 1, col 1 to line 1, col 2 of module Other".toList]⟩

theorem location_placedError :
    (⟨['1'], ['1'], ['1'], ['2'], "Other".toList⟩ : LocationDigits) ∈
      Scan.findAll location placedError.text := by
  decide

/-- Inside the part the file is found. -/
theorem file_of_location_inside :
    ∃ report r, (Protocol.Reading.readLines decoder (session none)
        (namedFile ++ (Protocol.Item.message placedError).lines) false).1.result = some report ∧
      r ∈ report.diagnostics.records ∧ r.file = "/x/Other.tla".toList := by
  have hrun : (Protocol.Reading.readLines decoder (session none)
      (namedFile ++ (Protocol.Item.message placedError).lines) false).2.fault = none := by
    decide
  have hsplit : fates [] (namedFile ++ (Protocol.Item.message placedError).lines) =
      [.item (.message ⟨2220, some 0, []⟩), .item (.line "Parsing file /x/Other.tla".toList)] ++
        .item (.message placedError) :: [] := by
    decide
  obtain ⟨report, r, hresult, hr, -, -, hfile⟩ :=
    file_of_location hrun hsplit (by decide) location_placedError (fun file hfile => by cases hfile)
  exact ⟨report, r, hresult, hr, (hfile _).mpr (Or.inl (by decide))⟩

/-- The same error behind the part. -/
def placedBehind : List Text :=
  namedFile ++ (Protocol.Item.message ⟨2219, some 0, []⟩).lines ++
    (Protocol.Item.message placedError).lines

/-- Behind the part an error is not placed in the file that the analyzer named. -/
theorem file_not_found_behind :
    ¬∀ (spec : Option Text) (lines : List Text) (earlier later after : List Delivery) (m : Message)
        (d : LocationDigits) (file : Text) (report : CheckReport),
      (Protocol.Reading.readLines decoder (session spec) lines false).2.fault = none →
        fates [] lines = earlier ++ later ++ .item (.message m) :: after →
          known? earlier d.moduleName = some file →
            (∀ checked ∈ spec, (Path.ofText checked).stem ≠ d.moduleName) →
              roleOf m = .failure → d ∈ Scan.findAll location m.text →
                (Protocol.Reading.readLines decoder (session spec) lines false).1.result =
                  some report →
                  ∃ r ∈ report.diagnostics.records, d.range = .ok r.range ∧ r.file = file := by
  intro hfound
  have hrun : (Protocol.Reading.readLines decoder (session none) placedBehind false).2.fault =
      none := by
    decide
  have hsplit : fates [] placedBehind =
      [.item (.message ⟨2220, some 0, []⟩), .item (.line "Parsing file /x/Other.tla".toList)] ++
        [.item (.message ⟨2219, some 0, []⟩)] ++ .item (.message placedError) :: [] := by
    decide
  have hfiles : (Protocol.Reading.readLines decoder (session none) placedBehind false).1.result.map
      (fun report => report.diagnostics.records.map (·.file)) = some ["Other.tla".toList] := by
    decide
  obtain ⟨report, hresult, hrecords⟩ := Option.map_eq_some_iff.mp hfiles
  obtain ⟨r, hr, -, hfile⟩ := hfound none placedBehind _ _ _ _ _ "/x/Other.tla".toList report hrun
    hsplit (by decide) (fun checked hchecked => by cases hchecked) (by decide)
    location_placedError hresult
  have hmem := List.mem_map_of_mem (f := (·.file)) hr
  rw [hrecords, hfile] at hmem
  revert hmem
  decide

end TlaRunner.Checker
