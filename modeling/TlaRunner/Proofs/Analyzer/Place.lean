import TlaRunner.Proofs.Analyzer.Finding

/-!
# Where the place of a parse error is looked for

A parse error is announced by a line of its own, and another line names its place.  Lines
that are neither and of no other known kind stand by (`Bystander`).  They give no record and
leave the grammar as it is, but for one thing: the first of them with something on it is
asked for the place, and from then on none is awaited (`feed_of_bystander`).

So the place is found exactly if none but empty lines stand between the two lines and the
announcement was not itself asked for the place of another parse error (`place_found_iff`).
-/

namespace TlaRunner.Analyzer

open Text (Scan IsNumeral)
open Diagnostic (Record)

/-- Lines that say nothing about parse errors and are of no other known kind, apart from
the progress that they may tell. -/
structure Bystander (line : Text) : Prop where
  /-- No place stands on it, -/
  place : Scan.search (point encounteredLead) (Text.strip line) = none
  /-- no parse error is announced, -/
  announcement : Text.strip line ≠ parseErrorLine
  /-- it starts with no location, -/
  location : locationOf? line = none
  /-- with no lexical error, -/
  lexical : Scan.front (point lexicalLead) (Text.strip line) = none
  /-- with no section header -/
  errors : Scan.front (header errorsHeader) (Text.strip line) = none
  /-- of either kind, -/
  warnings : Scan.front (header warningsHeader) (Text.strip line) = none
  /-- and it names no file. -/
  file : Scan.front parsedFile (Text.strip line) = none

instance (line : Text) : Decidable (Bystander line) :=
  decidable_of_iff
    (Scan.search (point encounteredLead) (Text.strip line) = none ∧
      Text.strip line ≠ parseErrorLine ∧ locationOf? line = none ∧
      Scan.front (point lexicalLead) (Text.strip line) = none ∧
      Scan.front (header errorsHeader) (Text.strip line) = none ∧
      Scan.front (header warningsHeader) (Text.strip line) = none ∧
      Scan.front parsedFile (Text.strip line) = none)
    ⟨fun h => ⟨h.1, h.2.1, h.2.2.1, h.2.2.2.1, h.2.2.2.2.1, h.2.2.2.2.2.1, h.2.2.2.2.2.2⟩,
      fun h => ⟨h.place, h.announcement, h.location, h.lexical, h.errors, h.warnings, h.file⟩⟩

namespace Grammar

variable {g : Grammar}

/-- The grammar behind lines. -/
def behind (g : Grammar) (lines : List Text) : Grammar :=
  lines.foldl (fun g line => (g.feed line).1) g

/-! ## Single lines -/

theorem onOther_of_bystander {line : Text} (h : Bystander line) :
    ∃ progress, g.onOther (Text.strip line) = (g, .ok ⟨[], progress, none⟩) := by
  rw [onOther, if_neg h.announcement]
  simp only [h.lexical, h.errors, h.warnings, h.file, Option.isSome_none, Bool.false_eq_true,
    if_false]
  split
  · exact ⟨_, rfl⟩
  · exact ⟨none, rfl⟩

/-- A line that stands by gives no record.  If something is on it, no place is awaited
behind it. -/
theorem feed_of_bystander {line : Text} (h : Bystander line) (hpending : g.pending = none) :
    ∃ progress, g.feed line =
      ({ g with awaitingPlace := g.awaitingPlace && isEmptyLine line },
        .ok ⟨[], progress, none⟩) := by
  cases hwait : g.awaitingPlace && !isEmptyLine line with
  | true =>
      obtain ⟨-, hfilled⟩ := Bool.and_eq_true_iff.mp hwait
      have hdone : (g.awaitingPlace && isEmptyLine line) = false := by simp_all
      rw [feed_of_awaiting h.location hpending hwait, hdone, onAwaited_of_none h.place]
      exact ⟨none, rfl⟩
  | false =>
      have hkept : (g.awaitingPlace && isEmptyLine line) = g.awaitingPlace := by
        cases hawaiting : g.awaitingPlace with
        | false => rfl
        | true => simpa [hawaiting] using hwait
      rw [feed_of_other h.location hpending hwait, hkept]
      exact onOther_of_bystander h

/-- An announcement is asked for a place where one is awaited, and else a place is awaited
behind it. -/
theorem feed_of_announcement {line : Text} (h : Text.strip line = parseErrorLine)
    (hpending : g.pending = none) :
    g.feed line = ({ g with awaitingPlace := !g.awaitingPlace }, .ok .nothing) := by
  have hlocation : locationOf? line = none := by
    rw [locationOf?, h]
    decide
  have hfilled : isEmptyLine line = false := by
    rw [isEmptyLine, h]
    rfl
  have hplace : Scan.search (point encounteredLead) parseErrorLine = none := by decide
  cases hawaiting : g.awaitingPlace with
  | true =>
      rw [feed_of_awaiting hlocation hpending (by rw [hawaiting, hfilled]; rfl), h,
        onAwaited_of_none hplace]
      rfl
  | false =>
      rw [feed_of_other hlocation hpending (by rw [hawaiting]; rfl), h, onOther, if_pos rfl]
      rfl

/-- The range of a place that could be read. -/
theorem readPoint_eq_ok {digits : Text × Text} {range : Range}
    (hdigits : IsNumeral digits.1 ∧ IsNumeral digits.2) (h : readPoint digits = .ok range) :
    range = .ofToolPoint (Text.digitsValue digits.1) (Text.digitsValue digits.2) := by
  have hcolumn := of_readNumber_bind hdigits.1 h
  have hrange := of_readNumber_bind hdigits.2 hcolumn
  exact (Except.ok.inj hrange).symm

/-- A line that is read by its own form gives a record only for a lexical error. -/
theorem records_onOther {stripped : Text}
    (h : Scan.front (point lexicalLead) stripped = none) :
    ∃ result, (g.onOther stripped).2 = .ok result ∧ result.records = [] := by
  rcases g.onOther_cases stripped with
    ⟨digits, file, hdigits, -, -⟩ | ⟨after, result, hread, hrecords, -⟩
  · rw [h] at hdigits
    cases hdigits
  · rw [hread]
    exact ⟨result, rfl, hrecords⟩

/-- A line with a place gives a record of it where one is awaited, and none else. -/
theorem recordsAt_of_place {line file : Text} {digits : Text × Text}
    (hlocation : locationOf? line = none)
    (hlexical : Scan.front (point lexicalLead) (Text.strip line) = none)
    (hplace : Scan.search (point encounteredLead) (Text.strip line) = some digits)
    (hpending : g.pending = none) (hfile : g.currentFile = some file)
    (hread : ∃ result, (g.feed line).2 = .ok result) :
    g.recordsAt line =
      if g.awaitingPlace then
        [⟨file, .ofToolPoint (Text.digitsValue digits.1) (Text.digitsValue digits.2), .error,
          Text.strip line⟩]
      else [] := by
  have hdigits := (within_point encounteredLead).search (List.infix_refl _) hplace
  have hfilled : isEmptyLine line = false := by
    cases hstrip : Text.strip line with
    | nil =>
        rw [hstrip] at hplace
        cases hplace
    | cons c s =>
        rw [isEmptyLine, hstrip]
        rfl
  cases hawaiting : g.awaitingPlace with
  | true =>
      rw [feed_of_awaiting hlocation hpending (by rw [hawaiting, hfilled]; rfl)] at hread
      rw [recordsAt, feed_of_awaiting hlocation hpending (by rw [hawaiting, hfilled]; rfl)]
      simp only [onAwaited, hplace, hfile, onPlace] at hread ⊢
      cases hrange : readPoint digits with
      | error fault =>
          obtain ⟨result, hresult⟩ := hread
          rw [hrange] at hresult
          cases hresult
      | ok range =>
          rw [readPoint_eq_ok ⟨hdigits.1.numeral, hdigits.2.numeral⟩ hrange]
          rfl
  | false =>
      obtain ⟨result, hresult, hrecords⟩ := records_onOther (g := g) hlexical
      rw [recordsAt, feed_of_other hlocation hpending (by rw [hawaiting]; rfl), hresult]
      exact hrecords

/-! ## Lines behind an announcement -/

/-- Lines that stand by give no record.  Behind them a place is awaited if it was before
and all of them are empty. -/
theorem behind_of_bystanders {between : List Text} (h : ∀ line ∈ between, Bystander line)
    (hpending : g.pending = none) :
    g.behind between = { g with awaitingPlace := g.awaitingPlace && between.all isEmptyLine } ∧
      g.recordsOf between = [] := by
  induction between generalizing g with
  | nil =>
      refine ⟨?_, ?_⟩
      · rw [List.all_nil, Bool.and_true]
        rfl
      · rw [recordsOf, flush, hpending]
        rfl
  | cons line after ih =>
      obtain ⟨hline, hafter⟩ := List.forall_mem_cons.mp h
      obtain ⟨progress, hfeed⟩ := feed_of_bystander hline hpending
      obtain ⟨hbehind, hrecords⟩ :=
        ih (g := { g with awaitingPlace := g.awaitingPlace && isEmptyLine line }) hafter hpending
      rw [behind, List.foldl_cons, ← behind, recordsOf, recordsAt, hfeed, hbehind, hrecords,
        List.all_cons, Bool.and_assoc]
      exact ⟨rfl, rfl⟩

theorem reads_append {lines later : List Text} (h : g.Reads (lines ++ later)) :
    (g.behind lines).Reads later := by
  induction lines generalizing g with
  | nil => exact h
  | cons line after ih => exact ih h.2

/-- Where a file is known and no finding is being read, a parse error is announced, lines
stand by, and another line names a place.  The lines before the last one give no record.  The
last one gives the place as an error of the file if the lines between are empty, all of them,
and the announcement was not asked for the place of another parse error.  Else the place is
lost. -/
theorem place_found_iff {announcement line file : Text} {between : List Text}
    {digits : Text × Text} (hpending : g.pending = none) (hfile : g.currentFile = some file)
    (hannouncement : Text.strip announcement = parseErrorLine)
    (hbetween : ∀ line ∈ between, Bystander line) (hlocation : locationOf? line = none)
    (hlexical : Scan.front (point lexicalLead) (Text.strip line) = none)
    (hplace : Scan.search (point encounteredLead) (Text.strip line) = some digits)
    (hreads : g.Reads (announcement :: between ++ [line])) :
    g.recordsOf (announcement :: between) = [] ∧
    (g.behind (announcement :: between)).recordsAt line =
      if g.awaitingPlace = false ∧ ∀ line ∈ between, isEmptyLine line = true then
        [⟨file, .ofToolPoint (Text.digitsValue digits.1) (Text.digitsValue digits.2), .error,
          Text.strip line⟩]
      else [] := by
  have hannounced := feed_of_announcement hannouncement hpending
  obtain ⟨hbehind, hrecords⟩ :=
    behind_of_bystanders (g := { g with awaitingPlace := !g.awaitingPlace }) hbetween hpending
  have hread : ∃ result, ((g.behind (announcement :: between)).feed line).2 = .ok result :=
    (reads_append hreads).1
  rw [behind, List.foldl_cons, hannounced, ← behind, hbehind] at hread ⊢
  constructor
  · rw [recordsOf, recordsAt, hannounced, hrecords]
    rfl
  · rw [recordsAt_of_place
      (g := { g with awaitingPlace := !g.awaitingPlace && between.all isEmptyLine })
      hlocation hlexical hplace hpending hfile hread]
    simp only [Bool.and_eq_true, Bool.not_eq_true', List.all_eq_true]

/-- A line with a place. -/
def encountered : Text :=
  "Encountered \"x\" at line 7, column 1 and token \"y\"".toList

/-- The record of its place. -/
def encounteredRecord : Record :=
  ⟨"/a/Spec.tla".toList, ⟨⟨6, 0⟩, ⟨6, 0⟩⟩, .error, encountered⟩

/-- A file, and an announcement in it with empty lines behind it. -/
theorem place_found_iff_empty :
    ((Grammar.start.behind ["Parsing file /a/Spec.tla".toList]).behind
      (parseErrorLine :: [[], " \t".toList])).recordsAt encountered = [encounteredRecord] := by
  have hfile : (Grammar.start.behind ["Parsing file /a/Spec.tla".toList]).currentFile =
      some "/a/Spec.tla".toList := by decide
  have hannouncement : Text.strip parseErrorLine = parseErrorLine := by decide
  have hbetween : ∀ line ∈ [[], " \t".toList], Bystander line := by decide
  have hplace : Scan.search (point encounteredLead) (Text.strip encountered) =
      some (['7'], ['1']) := by decide
  obtain ⟨-, hfound⟩ := place_found_iff (by decide) hfile hannouncement hbetween (by decide)
    (by decide) hplace (Grammar.reads_of_short _ (by decide))
  rw [if_pos (by decide)] at hfound
  exact hfound

/-- A place is lost behind a line that says what was expected. -/
theorem place_lost :
    ¬∀ (before between : List Text) (announcement line file : Text) (digits : Text × Text),
      Grammar.start.Reads (before ++ announcement :: between ++ [line]) →
      (Grammar.start.behind before).pending = none →
      (Grammar.start.behind before).currentFile = some file →
      Text.strip announcement = parseErrorLine → (∀ line ∈ between, Bystander line) →
      locationOf? line = none →
      Scan.front (point lexicalLead) (Text.strip line) = none →
      Scan.search (point encounteredLead) (Text.strip line) = some digits →
      ⟨file, .ofToolPoint (Text.digitsValue digits.1) (Text.digitsValue digits.2), .error,
        Text.strip line⟩ ∈
          (Grammar.start.behind (before ++ announcement :: between)).recordsAt line := by
  intro hfound
  have hmem := hfound ["Parsing file /a/Spec.tla".toList]
    ["Was expecting \"==== or more Module body\"".toList] parseErrorLine encountered
    "/a/Spec.tla".toList (['7'], ['1']) (Grammar.reads_of_short _ (by decide)) (by decide)
    (by decide) (by decide) (by decide) (by decide) (by decide) (by decide)
  revert hmem
  decide

end Grammar

end TlaRunner.Analyzer
