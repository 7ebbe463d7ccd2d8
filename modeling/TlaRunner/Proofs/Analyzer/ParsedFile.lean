import TlaRunner.Proofs.Analyzer.Line

/-!
# Reading the name of a parsed file

A line names a parsed file, and an origin in parentheses may stand behind it.  Both may
hold blanks and parentheses, so a line can be written in more than one way
(`fileLine_ambiguous`) and no reader finds every path.  The one that is read is the shortest:
it ends before the first thing that looks like the start of an origin, if the line ends like
one (`front_parsedFile`).

So a path that ends with no closing parenthesis is read back if it stands alone, and in front
of an origin exactly if nothing in it looks like the start of one (`file_registered`).
-/

namespace TlaRunner.Analyzer

open Text (Scan)

/-! ## How a file is named -/

/-- What stands in front of a path. -/
def fileLead : Text := "Parsing file ".toList

/-- What the start of an origin looks like. -/
def originLead : Text := " (".toList

/-- An origin as it stands behind a path. -/
def originText : Option Text → Text
  | none => []
  | some inside => originLead ++ (inside ++ [')'])

/-- The line that names a file, with its origin if it has one. -/
def fileLine (path : Text) (origin? : Option Text) : Text :=
  fileLead ++ (path ++ originText origin?)

/-- A path as it stands on one line between blanks, which ends like no origin. -/
structure Plain (path : Text) : Prop where
  /-- It has a character. -/
  nonempty : path ≠ []
  /-- It has no line feed, -/
  oneLine : '\n' ∉ path
  /-- no blank at its front, -/
  front : ∀ c ∈ path.head?, Text.isBlank c = false
  /-- no blank at its end, -/
  back : ∀ c ∈ path.getLast?, Text.isBlank c = false
  /-- and no closing parenthesis there. -/
  unclosed : path.getLast? ≠ some ')'

/-- A path up to the first thing in it that looks like the start of an origin. -/
def upToOrigin : Text → Text
  | [] => []
  | c :: s => if Text.startsWith originLead (c :: s) then [] else c :: upToOrigin s

/-- The path that is read off the line. -/
def readPath (path : Text) : Option Text → Text
  | none => path
  | some _ => upToOrigin path

/-- Two files with origins have one line. -/
theorem fileLine_ambiguous :
    fileLine "a (b) c".toList (some "d".toList) = fileLine "a".toList (some "b) c (d".toList) := by
  decide

/-- What is cut off looks like an origin, and nothing before it does. -/
theorem upToOrigin_spec (path : Text) :
    ∃ back, path = upToOrigin path ++ back ∧ (back = [] ∨ originLead <+: back) ∧
      ∀ first last, upToOrigin path = first ++ last → last ≠ [] →
        ¬originLead <+: last ++ back := by
  induction path with
  | nil =>
      exact ⟨[], rfl, Or.inl rfl, fun first last h hne =>
        absurd (List.append_eq_nil_iff.mp h.symm).2 hne⟩
  | cons c s ih =>
      rw [upToOrigin]
      split
      next hlead =>
        exact ⟨c :: s, rfl, Or.inr (List.isPrefixOf_iff_prefix.mp hlead), fun first last h hne =>
          absurd (List.append_eq_nil_iff.mp h.symm).2 hne⟩
      next hlead =>
        obtain ⟨back, hsplit, hback, hnone⟩ := ih
        refine ⟨back, congrArg (c :: ·) hsplit, hback, fun first last h hne => ?_⟩
        cases first with
        | nil =>
            rw [List.nil_append] at h
            rw [← h, List.cons_append, ← hsplit]
            exact fun hstart => hlead (List.isPrefixOf_iff_prefix.mpr hstart)
        | cons d first =>
            obtain ⟨-, hlater⟩ := List.cons.inj h
            exact hnone first last hlater hne

/-- A path is left as it is exactly if nothing in it looks like the start of an origin. -/
theorem upToOrigin_eq_self_iff (path : Text) :
    upToOrigin path = path ↔ ¬originLead <:+: path := by
  obtain ⟨back, hsplit, hback, hnone⟩ := upToOrigin_spec path
  constructor
  · rintro hself ⟨first, last, hinfix⟩
    have hread : upToOrigin path = first ++ (originLead ++ last) := by
      rw [hself, ← hinfix, List.append_assoc]
    refine hnone first (originLead ++ last) hread (by simp [originLead]) ?_
    exact ⟨last ++ back, (List.append_assoc ..).symm⟩
  · intro hinfix
    rcases hback with rfl | hlead
    · rw [List.append_nil] at hsplit
      exact hsplit.symm
    · refine absurd (hlead.isInfix.trans ?_) hinfix
      exact ⟨upToOrigin path, [], by rw [List.append_nil, ← hsplit]⟩

/-! ## Origins -/

/-- An origin at the end of a line is read. -/
theorem origin_of_written {inside : Text} (h : '\n' ∉ inside) :
    ∃ rest, origin (originLead ++ (inside ++ [')'])) = some ((), rest) := by
  have hlast : ((do Scan.literal [')']; Scan.atEnd : Scan Unit) [')']).isSome := rfl
  have hlongest := Scan.isSome_longest_append h (Nat.zero_le _) hlast
  obtain ⟨⟨found, rest⟩, hfound⟩ := Option.isSome_iff_exists.mp hlongest
  refine ⟨rest, ?_⟩
  rw [origin, Scan.bind_apply, originLead, Scan.literal_append, Option.bind_some, Scan.bind_apply,
    hfound]
  rfl

/-- What is read as an origin ends with a parenthesis. -/
theorem getLast?_of_origin {s rest : Text} (h : origin s = some ((), rest)) (hs : '\n' ∉ s) :
    s.getLast? = some ')' := by
  obtain ⟨_, inside, hlead, hinside⟩ := Scan.bind_eq_some.mp h
  obtain ⟨found, _, hlongest, -⟩ := Scan.bind_eq_some.mp hinside
  obtain ⟨back, hback, hclosed, -⟩ := Scan.of_longest_eq_some hlongest
  obtain ⟨_, last, hliteral, hend⟩ := Scan.bind_eq_some.mp hclosed
  obtain rfl := Scan.literal_eq_some hlead
  obtain rfl := Scan.literal_eq_some hliteral
  rw [Scan.atEnd] at hend
  split at hend
  next hlast =>
    rcases hlast with rfl | rfl
    · rw [hback, List.append_nil, ← List.append_assoc, List.getLast?_concat]
    · exact absurd (by rw [hback]; simp) hs
  next => cases hend

theorem origin_eq_none {s : Text} (hs : '\n' ∉ s)
    (h : ¬originLead <+: s ∨ s.getLast? ≠ some ')') : origin s = none := by
  cases hread : origin s with
  | none => rfl
  | some found =>
      obtain ⟨_, rest⟩ := found
      rcases h with hlead | hlast
      · exact absurd (Scan.prefix_of_literal_bind hread) hlead
      · exact absurd (getLast?_of_origin hread hs) hlast

theorem atEnd_eq_none {s : Text} (hne : s ≠ []) (hs : '\n' ∉ s) : Scan.atEnd s = none := by
  rw [Scan.atEnd, if_neg]
  rintro (rfl | rfl)
  · exact hne rfl
  · exact hs (List.mem_singleton.mpr rfl)

/-! ## Reading the path -/

namespace Plain

variable {path : Text}

/-- A path is told by its two ends. -/
theorem of_ends {first last : Char} (hfirst : path.head? = some first)
    (hlast : path.getLast? = some last) (hline : '\n' ∉ path)
    (hblank : Text.isBlank first = false ∧ Text.isBlank last = false) (hopen : last ≠ ')') :
    Plain path where
  nonempty := by
    rintro rfl
    cases hfirst
  oneLine := hline
  front := by
    rw [hfirst]
    rintro c ⟨⟩
    exact hblank.1
  back := by
    rw [hlast]
    rintro c ⟨⟩
    exact hblank.2
  unclosed := by
    rw [hlast]
    exact fun heq => hopen (Option.some.inj heq)

theorem head_ne_blank (h : Plain path) {c : Char} {s : Text} (hpath : path = c :: s) :
    c ≠ ' ' := by
  rintro rfl
  have hblank := h.front ' ' (by rw [hpath]; rfl)
  exact absurd hblank (by decide)

/-- No path is an origin from its first character on. -/
theorem upToOrigin_ne_nil (h : Plain path) : upToOrigin path ≠ [] := by
  cases hpath : path with
  | nil => exact absurd hpath h.nonempty
  | cons c s =>
      have hstart : Text.startsWith originLead (c :: s) = false := by
        have hc := (h.head_ne_blank hpath).symm
        simp [Text.startsWith, originLead, List.isPrefixOf, hc]
      rw [upToOrigin, hstart]
      exact List.cons_ne_nil c (upToOrigin s)

/-- Where nothing in the last part of a path looks like the start of an origin, nothing does
in front of anything else either, for the path ends with no blank. -/
theorem no_lead (h : Plain path) {front last s : Text} (hpath : path = front ++ last)
    (hne : last ≠ []) (hlast : ¬originLead <+: last) : ¬originLead <+: last ++ s := by
  intro hlead
  match last, hne with
  | [d], _ =>
      have hd : d = ' ' := (List.cons_prefix_cons.mp hlead).1.symm
      have hback := h.back d (by rw [hpath]; simp)
      rw [hd] at hback
      exact absurd hback (by decide)
  | d :: e :: last, _ =>
      refine hlast (List.prefix_of_prefix_length_le hlead (List.prefix_append _ s) ?_)
      simp [originLead]

end Plain

/-- A path is read up to the first place where an origin or nothing at all is left. -/
theorem front_parsedFile_append {run s rest : Text} (hne : run ≠ []) (hbreak : '\n' ∉ run ++ s)
    (hearlier : ∀ front back, run = front ++ back → back ≠ [] → origin (back ++ s) = none)
    (hlast : (origin <|> Scan.atEnd) s = some ((), rest)) :
    Scan.front parsedFile (fileLead ++ (run ++ s)) = some run := by
  have hrun : '\n' ∉ run := fun hmem => hbreak (List.mem_append_left s hmem)
  have hshortest : Scan.shortest (origin <|> Scan.atEnd) 1 (run ++ s) = some ((run, ()), rest) := by
    refine Scan.shortest_append hrun (List.length_pos_iff.mpr hne)
      (fun front back hsplit _ hback => ?_) hlast
    have hlater : '\n' ∉ back ++ s := fun hmem => by
      rw [hsplit, List.append_assoc] at hbreak
      exact hbreak (List.mem_append_right front hmem)
    rw [Scan.orElse_apply, hearlier front back hsplit hback,
      atEnd_eq_none (List.append_ne_nil_of_left_ne_nil hback s) hlater]
    rfl
  have hlead : Scan.literal "Parsing file ".toList (fileLead ++ (run ++ s)) = some ((), run ++ s) :=
    Scan.literal_append fileLead (run ++ s)
  rw [Scan.front, parsedFile, Scan.bind_apply, hlead, Option.bind_some, Scan.bind_apply, hshortest]
  rfl

/-- The path that is read off the line is the shortest that can be. -/
theorem front_parsedFile {path : Text} {origin? : Option Text} (hpath : Plain path)
    (horigin : ∀ inside ∈ origin?, '\n' ∉ inside) :
    Scan.front parsedFile (fileLine path origin?) = some (readPath path origin?) := by
  rw [fileLine]
  cases origin? with
  | none =>
      have hend : (origin <|> Scan.atEnd) (originText none) = some ((), []) := rfl
      refine front_parsedFile_append hpath.nonempty ?_ (fun front back hsplit hback => ?_) hend
      · rw [originText, List.append_nil]
        exact hpath.oneLine
      · rw [originText, List.append_nil]
        refine origin_eq_none (fun hmem => hpath.oneLine ?_)
          (Or.inr fun hclosed => hpath.unclosed ?_)
        · rw [hsplit]
          exact List.mem_append_right front hmem
        · rw [hsplit, List.getLast?_append, hclosed]
          rfl
  | some inside =>
      obtain ⟨back, hsplit, hback, hnone⟩ := upToOrigin_spec path
      have hinside := horigin inside rfl
      -- What is cut off the path is read as part of the origin.
      obtain ⟨inner, hinner, hrest⟩ : ∃ inner, '\n' ∉ inner ∧
          back ++ (originLead ++ (inside ++ [')'])) = originLead ++ (inner ++ [')']) := by
        rcases hback with rfl | ⟨later, rfl⟩
        · exact ⟨inside, hinside, rfl⟩
        · refine ⟨later ++ (originLead ++ inside), ?_, by simp only [List.append_assoc]⟩
          have hlater : '\n' ∉ later := fun hmem => hpath.oneLine (by
            rw [hsplit]
            exact List.mem_append_right _ (List.mem_append_right _ hmem))
          have hlead : '\n' ∉ originLead := by decide
          simp only [List.mem_append, not_or]
          exact ⟨hlater, hlead, hinside⟩
      have hwritten : path ++ (originLead ++ (inside ++ [')'])) =
          upToOrigin path ++ (originLead ++ (inner ++ [')'])) := by
        rw [← hrest, ← List.append_assoc (upToOrigin path), ← hsplit]
      have hread : '\n' ∉ upToOrigin path := fun hmem => hpath.oneLine (by
        rw [hsplit]
        exact List.mem_append_left back hmem)
      have htail : '\n' ∉ originLead ++ (inner ++ [')']) := by
        have hends : '\n' ∉ originLead ∧ '\n' ∉ [')'] := by decide
        simp only [List.mem_append, not_or]
        exact ⟨hends.1, hinner, hends.2⟩
      obtain ⟨rest, hlast⟩ := origin_of_written hinner
      have hend : (origin <|> Scan.atEnd) (originLead ++ (inner ++ [')'])) = some ((), rest) := by
        rw [Scan.orElse_apply, hlast]
        rfl
      rw [originText, hwritten, readPath]
      refine front_parsedFile_append hpath.upToOrigin_ne_nil ?_
        (fun front last hrun hne => origin_eq_none ?_ (Or.inl ?_)) hend
      · rw [List.mem_append, not_or]
        exact ⟨hread, htail⟩
      · rw [List.mem_append, not_or]
        rw [hrun, List.mem_append, not_or] at hread
        exact ⟨hread.2, htail⟩
      · have hlater : path = front ++ (last ++ back) := by
          rw [← List.append_assoc, ← hrun, ← hsplit]
        rw [← hrest, ← List.append_assoc]
        exact hpath.no_lead hlater (List.append_ne_nil_of_left_ne_nil hne back)
          (hnone front last hrun hne)

/-! ## The line -/

theorem fileLine_eq_cons (path : Text) (origin? : Option Text) :
    ∃ tail, fileLine path origin? = 'P' :: tail := by
  have hlead : fileLead = 'P' :: "arsing file ".toList := by decide
  rw [fileLine, hlead]
  exact ⟨_, rfl⟩

theorem strip_fileLine {path : Text} (hpath : Plain path) (origin? : Option Text) :
    Text.strip (fileLine path origin?) = fileLine path origin? := by
  refine Text.strip_eq_self ?_ ?_
  · obtain ⟨tail, htail⟩ := fileLine_eq_cons path origin?
    rw [htail]
    rintro c ⟨⟩
    rfl
  · rw [fileLine]
    cases origin? with
    | none =>
        rw [originText, List.append_nil, List.getLast?_append_of_ne_nil _ hpath.nonempty]
        exact hpath.back
    | some inside =>
        simp only [originText, ← List.append_assoc, List.getLast?_concat]
        rintro c ⟨⟩
        rfl

namespace Grammar

variable {g : Grammar}

theorem find?_enterModule (stem path moduleName : Text) (modules : List (Text × Text)) :
    ((enterModule stem path modules).find? (·.1 = moduleName)).map (·.2) =
      if moduleName = stem then some path
      else (modules.find? (·.1 = moduleName)).map (·.2) := by
  induction modules with
  | nil =>
      rw [enterModule, List.find?_cons]
      by_cases h : moduleName = stem
      · simp [h]
      · simp [h, Ne.symm h]
  | cons entry modules ih =>
      rw [enterModule]
      by_cases hstem : entry.1 = stem
      · rw [if_pos hstem, List.find?_cons, List.find?_cons]
        by_cases h : moduleName = stem
        · simp [h, hstem]
        · simp [h, hstem, Ne.symm h]
      · rw [if_neg hstem, List.find?_cons, List.find?_cons]
        by_cases h : entry.1 = moduleName
        · simp [h, h ▸ hstem]
        · simp only [h, decide_false]
          exact ih

/-- The file of a module that is entered is found, and those of the others are kept. -/
theorem fileOf?_onFile (path stripped moduleName : Text) :
    (g.onFile path stripped).1.fileOf? moduleName =
      if moduleName = (Path.ofText path).stem then some path else g.fileOf? moduleName :=
  find?_enterModule _ path moduleName g.modules

/-- A line that names a file is taken for one. -/
theorem feed_fileLine {path : Text} {origin? : Option Text} (hpath : Plain path)
    (horigin : ∀ inside ∈ origin?, '\n' ∉ inside) (hpending : g.pending = none)
    (hawaiting : g.awaitingPlace = false) :
    g.feed (fileLine path origin?) =
      ((g.onFile (readPath path origin?) (fileLine path origin?)).1,
        .ok (g.onFile (readPath path origin?) (fileLine path origin?)).2) := by
  have hread := front_parsedFile hpath horigin
  have hstrip := strip_fileLine hpath origin?
  obtain ⟨tail, htail⟩ := fileLine_eq_cons path origin?
  rw [htail] at hread hstrip ⊢
  have hlocation : locationOf? ('P' :: tail) = none := by
    rw [locationOf?, hstrip]
    rfl
  have hannouncement : 'P' :: tail ≠ parseErrorLine := by
    intro h
    cases h
  have hlexical : Scan.front (point lexicalLead) ('P' :: tail) = none := rfl
  have herrors : Scan.front (header errorsHeader) ('P' :: tail) = none := rfl
  have hwarnings : Scan.front (header warningsHeader) ('P' :: tail) = none := rfl
  rw [feed_of_other hlocation hpending (by rw [hawaiting]; rfl), hstrip, onOther,
    if_neg hannouncement]
  simp only [hlexical, herrors, hwarnings, hread, Option.isSome_none, Bool.false_eq_true, if_false]

/-- Where no finding is being read and no place is awaited, a line that names a file makes
what is read off it the current file and the file of its module, and the other modules keep
theirs.  What is read is the path if no origin stands behind it, or nothing in the path looks
like the start of one.  Else it is the path up to there. -/
theorem file_registered {path : Text} {origin? : Option Text} (hpath : Plain path)
    (horigin : ∀ inside ∈ origin?, '\n' ∉ inside) (hpending : g.pending = none)
    (hawaiting : g.awaitingPlace = false) :
    (∃ after, g.feed (fileLine path origin?) =
        (after, .ok ⟨[], some (fileLine path origin?), some (readPath path origin?)⟩) ∧
      after.currentFile = some (readPath path origin?) ∧
      ∀ moduleName, after.fileOf? moduleName =
        if moduleName = (Path.ofText (readPath path origin?)).stem then
          some (readPath path origin?)
        else g.fileOf? moduleName) ∧
    (readPath path origin? = path ↔ origin? = none ∨ ¬originLead <:+: path) := by
  constructor
  · exact ⟨_, feed_fileLine hpath horigin hpending hawaiting, rfl, fileOf?_onFile _ _⟩
  · cases origin? with
    | none => exact iff_of_true rfl (Or.inl rfl)
    | some inside =>
        rw [readPath, upToOrigin_eq_self_iff]
        simp only [reduceCtorEq, false_or]

/-- A path with a blank and parentheses in front of an origin with both. -/
theorem file_registered_parenthesized :
    let path := "/a/My Spec(old)/Foo.tla".toList
    let after := (Grammar.start.feed (fileLine path (some "/b/tla (2).jar".toList))).1
    after.currentFile = some path ∧ after.fileOf? "Foo".toList = some path := by
  have hfirst : "/a/My Spec(old)/Foo.tla".toList.head? = some '/' := by decide
  have hlast : "/a/My Spec(old)/Foo.tla".toList.getLast? = some 'a' := by decide
  have hpath := Plain.of_ends hfirst hlast (by decide) (by decide) (by decide)
  have horigin : ∀ inside ∈ some "/b/tla (2).jar".toList, '\n' ∉ inside := by
    rintro inside ⟨⟩
    decide
  have hunled : ¬originLead <:+: "/a/My Spec(old)/Foo.tla".toList :=
    (upToOrigin_eq_self_iff _).mp (by decide)
  obtain ⟨⟨after, hfeed, hcurrent, hfiles⟩, hsame⟩ :=
    file_registered (g := .start) hpath horigin rfl rfl
  have hfile := hfiles "Foo".toList
  rw [hsame.mpr (Or.inr hunled)] at hcurrent hfile
  rw [if_pos (by decide)] at hfile
  simp only [hfeed]
  exact ⟨hcurrent, hfile⟩

/-- Not every path in front of an origin is read back, since two of them have one line. -/
theorem path_lost :
    ¬∀ path inside : Text, Plain path → '\n' ∉ inside →
      (Grammar.start.feed (fileLine path (some inside))).1.currentFile = some path := by
  intro hread
  have hends : "a (b) c".toList.head? = some 'a' ∧ "a (b) c".toList.getLast? = some 'c' := by decide
  have hlong := hread "a (b) c".toList "d".toList
    (.of_ends hends.1 hends.2 (by decide) (by decide) (by decide)) (by decide)
  have hends' : "a".toList.head? = some 'a' ∧ "a".toList.getLast? = some 'a' := by decide
  have hshort := hread "a".toList "b) c (d".toList
    (.of_ends hends'.1 hends'.2 (by decide) (by decide) (by decide)) (by decide)
  rw [fileLine_ambiguous, hshort] at hlong
  exact absurd hlong (by decide)

end Grammar

end TlaRunner.Analyzer
