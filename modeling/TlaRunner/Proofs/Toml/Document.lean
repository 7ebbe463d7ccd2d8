import TlaRunner.Proofs.Toml.Scalar
import TlaRunner.Toml.Document

/-!
# What a document is refused for

A document is refused because it is not written as the format demands, or for a decimal integer
that has more digits than the limit.  In the second case these digits stand in the document, perhaps
with underscores between them (`parse_error`).  A document without so many digits in a row is
malformed if it is refused at all.

Line breaks are made equal before a document is read, which changes nothing between them
(`infix_of_infix_joinBreaks`).
-/

namespace TlaRunner.Toml

open Text (Scan)

/-! ## Line breaks -/

theorem joinBreaks_cons_of_ne {c : Char} (hc : c ≠ '\r') (s : Text) :
    joinBreaks (c :: s) = c :: joinBreaks s := by
  cases s with
  | nil => rfl
  | cons d s => rw [joinBreaks, if_neg fun h => hc h.1]

/-- What stands between line breaks stands there however they are written. -/
theorem prefix_of_prefix_joinBreaks {run s : Text} (hbreak : '\n' ∉ run)
    (h : run <+: joinBreaks s) : run <+: s := by
  fun_induction joinBreaks s generalizing run with
  | case1 => exact h
  | case2 c => exact h
  | case3 c d s hpair ih =>
      obtain ⟨rfl, rfl⟩ := hpair
      cases run with
      | nil => exact List.nil_prefix
      | cons x run =>
          rw [joinBreaks_cons_of_ne (by decide)] at h
          obtain ⟨rfl, -⟩ := List.cons_prefix_cons.mp h
          exact absurd List.mem_cons_self hbreak
  | case4 c d s hpair ih =>
      cases run with
      | nil => exact List.nil_prefix
      | cons x run =>
          obtain ⟨rfl, hrest⟩ := List.cons_prefix_cons.mp h
          exact List.cons_prefix_cons.mpr
            ⟨rfl, ih (fun hmem => hbreak (List.mem_cons_of_mem _ hmem)) hrest⟩

theorem infix_of_infix_joinBreaks {run s : Text} (hbreak : '\n' ∉ run)
    (h : run <:+: joinBreaks s) : run <:+: s := by
  have hprefix {s : Text} (h : run <+: joinBreaks s) : run <:+: s :=
    (prefix_of_prefix_joinBreaks hbreak h).isInfix
  fun_induction joinBreaks s with
  | case1 => exact h
  | case2 c => exact h
  | case3 c d s hpair ih => exact (ih h).trans (List.suffix_cons c _).isInfix
  | case4 c d s hpair ih =>
      rcases List.infix_cons_iff.mp h with hhere | hlater
      · exact hprefix (s := c :: d :: s) (by rwa [joinBreaks, if_neg hpair])
      · exact (ih hlater).trans (List.suffix_cons c _).isInfix

theorem HasDigits.of_joinBreaks {s digits : Text} (h : HasDigits (joinBreaks s) digits) :
    HasDigits s digits := by
  obtain ⟨run, hinfix, hrun, hdigits⟩ := h
  have hbreak : '\n' ∉ run := fun hmem => by
    rcases hrun _ hmem with hdigit | hunderscore
    · cases hdigit
    · cases hunderscore
  exact ⟨run, infix_of_infix_joinBreaks hbreak hinfix, hrun, hdigits⟩

/-! ## Keys -/

namespace Read

variable {t : Text}

theorem within_keyPart : Within t keyPart fun _ => True := by
  refine (within_acceptText _).bind fun b _ => ?_
  split
  next => exact within_literalString
  next =>
    refine (within_acceptText _).bind fun b _ => ?_
    split
    next => exact within_basicString false
    next => exact within_expect ((Scan.within_some1 _).mono fun _ _ => trivial)

theorem within_moreParts (fuel : Nat) : Within t (moreParts fuel) fun _ => True := by
  induction fuel with
  | zero => exact within_refuse
  | succ fuel ih =>
      refine within_skipSpace.bind fun _ _ => (within_acceptText _).bind fun b _ => ?_
      split
      next =>
        refine within_skipSpace.bind fun _ _ => within_keyPart.bind fun _ _ => ?_
        exact ih.bind fun _ _ => within_pure trivial
      next => exact within_pure trivial

theorem within_key : Within t key fun _ => True := by
  refine within_keyPart.bind fun _ _ => within_get.bind fun s _ => ?_
  exact (within_moreParts (s.length + 1)).bind fun _ _ => within_pure trivial

/-! ## Values -/

theorem within_skipComment : Within t skipComment fun _ => True := by
  intro s hs
  unfold skipComment
  split
  next rest =>
    split
    next => exact .malformed
    next =>
      have hrest := (List.dropWhile_suffix (· ≠ '\n')).trans (List.suffix_cons '#' rest)
      exact .read (hrest.isInfix.trans hs) trivial
  next => exact .read hs trivial

theorem within_skipFiller (fuel : Nat) : Within t (skipFiller fuel) fun _ => True := by
  induction fuel with
  | zero => exact within_refuse
  | succ fuel ih =>
      refine (within_dropWhile _).bind fun _ _ => within_get.bind fun s _ => ?_
      split
      next => exact within_skipComment.bind fun _ _ => ih
      next => exact within_pure trivial

theorem within_skipAll : Within t skipAll fun _ => True :=
  within_get.bind fun s _ => within_skipFiller (s.length + 1)

/-- Values, elements and entries are read with one supply of fuel, so they are gone through
together. -/
theorem within_value_elements_entries (fuel : Nat) :
    Within t (value fuel) (fun _ => True) ∧ Within t (elements fuel) (fun _ => True) ∧
      ∀ table, Within t (entries fuel table) fun _ => True := by
  induction fuel with
  | zero => exact ⟨within_refuse, within_refuse, fun _ => within_refuse⟩
  | succ fuel ih =>
      obtain ⟨hvalue, helements, hentries⟩ := ih
      refine ⟨?_, ?_, fun table => ?_⟩
      · refine within_string?.bind fun found _ => ?_
        split
        next => exact within_pure trivial
        next =>
          refine (within_acceptText _).bind fun b _ => ?_
          split
          next => exact within_pure trivial
          next =>
            refine (within_acceptText _).bind fun b _ => ?_
            split
            next => exact within_pure trivial
            next =>
              refine (within_acceptText _).bind fun b _ => ?_
              split
              next =>
                refine within_skipAll.bind fun _ _ => (within_acceptText _).bind fun b _ => ?_
                split
                next => exact within_pure trivial
                next => exact helements.bind fun _ _ => within_pure trivial
              next =>
                refine (within_acceptText _).bind fun b _ => ?_
                split
                next =>
                  refine within_skipSpace.bind fun _ _ => (within_acceptText _).bind fun b _ => ?_
                  split
                  next => exact within_pure trivial
                  next => exact (hentries _).bind fun _ _ => within_pure trivial
                next => exact within_momentOrNumber
      · refine hvalue.bind fun _ _ => within_skipAll.bind fun _ _ => ?_
        refine (within_acceptText _).bind fun b _ => ?_
        split
        next => exact within_pure trivial
        next =>
          refine (within_expectText _).bind fun _ _ => within_skipAll.bind fun _ _ => ?_
          refine (within_acceptText _).bind fun b _ => ?_
          split
          next => exact within_pure trivial
          next => exact helements.bind fun _ _ => within_pure trivial
      · refine within_key.bind fun path _ => (within_expectText _).bind fun _ _ => ?_
        refine within_skipSpace.bind fun _ _ => hvalue.bind fun v _ => ?_
        split
        next => exact within_refuse
        next table hadd =>
          refine within_skipSpace.bind fun _ _ => (within_acceptText _).bind fun b _ => ?_
          split
          next => exact within_pure trivial
          next =>
            refine (within_expectText _).bind fun _ _ => within_skipSpace.bind fun _ _ => ?_
            exact hentries _

/-! ## Lines -/

theorem within_require {α : Type} (a : Option α) : Within t (require a) fun _ => True := by
  cases a with
  | none => exact within_refuse
  | some a => exact within_pure trivial

theorem within_statement (d : Document) : Within t (statement d) fun _ => True := by
  refine within_get.bind fun s hs => ?_
  split
  next rest =>
    have hrest : rest <:+: t :=
      ((List.suffix_cons _ _).trans (List.suffix_cons _ _)).isInfix.trans hs
    refine (within_set hrest).bind fun _ _ => within_skipSpace.bind fun _ _ => ?_
    refine within_key.bind fun path _ => (within_require _).bind fun d _ => ?_
    exact (within_expectText _).bind fun _ _ => within_pure trivial
  next rest _ =>
    have hrest : rest <:+: t := (List.suffix_cons _ _).isInfix.trans hs
    refine (within_set hrest).bind fun _ _ => within_skipSpace.bind fun _ _ => ?_
    refine within_key.bind fun path _ => (within_require _).bind fun d _ => ?_
    exact (within_expectText _).bind fun _ _ => within_pure trivial
  next => exact within_pure trivial
  next =>
    refine within_key.bind fun path _ => (within_expectText _).bind fun _ _ => ?_
    refine within_skipSpace.bind fun _ _ => within_get.bind fun s _ => ?_
    refine (within_value_elements_entries (s.length + 1)).1.bind fun v _ => ?_
    exact within_require _

theorem within_statements (fuel : Nat) (d : Document) :
    Within t (statements fuel d) fun _ => True := by
  induction fuel generalizing d with
  | zero => exact within_refuse
  | succ fuel ih =>
      refine within_skipSpace.bind fun _ _ => within_get.bind fun s hs => ?_
      split
      next => exact within_pure trivial
      next rest =>
        exact (within_set ((List.suffix_cons _ _).isInfix.trans hs)).bind fun _ _ => ih d
      next =>
        refine (within_statement d).bind fun d _ => within_skipSpace.bind fun _ _ => ?_
        refine within_skipComment.bind fun _ _ => within_get.bind fun s hs => ?_
        split
        next => exact within_pure trivial
        next rest =>
          exact (within_set ((List.suffix_cons _ _).isInfix.trans hs)).bind fun _ _ => ih d
        next => exact within_refuse

end Read

/-- A document is refused only for a fault in it. -/
theorem parse_error {s : Text} {fault : Fault} (h : parse s = .error fault) : FaultIn s fault := by
  have hread := Read.within_statements (t := joinBreaks s) ((joinBreaks s).length + 1) .empty
    (joinBreaks s) List.infix_rfl
  rw [parse] at h
  generalize statements ((joinBreaks s).length + 1) .empty (joinBreaks s) = result at h hread
  cases hread with
  | read _ _ => cases h
  | refused hfault =>
      cases h
      cases hfault with
      | malformed => exact .malformed
      | numeral hdigits hlimit => exact .numeral hdigits.of_joinBreaks hlimit

end TlaRunner.Toml
