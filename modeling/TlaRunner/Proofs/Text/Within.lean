import TlaRunner.Proofs.Text.Numeral
import TlaRunner.Proofs.Text.Scan
import TlaRunner.Text.Lines

/-!
# What scanners yield inside a text

A scanner that searches a text starts at any place in it, so what it yields is told of
all these places at once: `Within t p good` says that whatever `p` yields inside `t` is
good.  There is one rule for each way to make a scanner, and `Within.search` and its like
take the result over to the search.

A numeral that is read from a text stands in it.  Where no line of the text is longer than
a numeral may be (`Narrow`), every such numeral can be read, since a line feed is no digit
(`IsNumeralIn.length_le`).
-/

namespace TlaRunner.Text

/-! ## Parts of a text -/

theorem isInfix_strip (s : Text) : strip s <:+: s := by
  have hfront : stripFront s <:+: s := (List.dropWhile_suffix _).isInfix
  have hback : stripFront (stripFront s).reverse <:+: (stripFront s).reverse :=
    (List.dropWhile_suffix _).isInfix
  have hreverse := List.reverse_infix.mpr hback
  rw [List.reverse_reverse] at hreverse
  exact hreverse.trans hfront

/-- A text occurs in another one if it is part of it. -/
theorem occursIn_iff {part s : Text} : occursIn part s = true ↔ part <:+: s := by
  induction s with
  | nil => rw [occursIn, List.isEmpty_iff, List.infix_nil]
  | cons c s ih =>
      rw [occursIn, Bool.or_eq_true, ih, startsWith, List.isPrefixOf_iff_prefix,
        List.infix_cons_iff]

theorem infix_of_mem_linesFrom {held s piece : Text} {afterReturn : Bool}
    (h : piece ∈ linesFrom held afterReturn s) : piece <:+: held.reverse ++ s := by
  induction s generalizing held afterReturn with
  | nil =>
      rw [linesFrom] at h
      split at h
      next => cases h
      next =>
        rw [List.mem_singleton.mp h]
        exact (List.prefix_append _ _).isInfix
  | cons c s ih =>
      have hlater : ∀ {flag}, piece ∈ linesFrom [] flag s → piece <:+: held.reverse ++ c :: s :=
        fun hmem => (ih hmem).trans
          ((List.suffix_cons c s).trans (List.suffix_append _ _)).isInfix
      rw [linesFrom] at h
      split at h
      next => exact hlater h
      next =>
        split at h
        next =>
          rcases List.mem_cons.mp h with rfl | hmem
          · exact (List.prefix_append _ _).isInfix
          · exact hlater hmem
        next =>
          have hheld := ih h
          rw [List.reverse_cons, List.append_assoc] at hheld
          exact hheld

theorem infix_of_mem_lines {s piece : Text} (h : piece ∈ lines s) : piece <:+: s :=
  infix_of_mem_linesFrom h

/-- A part of a text without some character lies before that character or behind it. -/
theorem infix_append_cons {a b part : Text} {c : Char} (h : part <:+: a ++ c :: b)
    (hc : c ∉ part) : part <:+: a ∨ part <:+: b := by
  obtain ⟨before, after, heq⟩ := h
  rw [List.append_assoc] at heq
  rcases List.append_eq_append_iff.mp heq with ⟨mid, rfl, hmid⟩ | ⟨mid, rfl, hmid⟩
  · -- The part starts in front of the character, so it ends there, too.
    left
    rcases List.append_eq_append_iff.mp hmid with ⟨gap, rfl, _⟩ | ⟨gap, rfl, hgap⟩
    · exact (List.prefix_append part gap).isInfix.trans (List.suffix_append before _).isInfix
    · cases gap with
      | nil =>
          rw [List.append_nil]
          exact (List.suffix_append before mid).isInfix
      | cons x gap =>
          cases hgap
          simp at hc
  · cases mid with
    | nil =>
        cases part with
        | nil => exact Or.inl (List.nil_infix)
        | cons x part =>
            cases hmid
            simp at hc
    | cons x mid =>
        cases hmid
        exact Or.inr ⟨mid, after, List.append_assoc _ _ _⟩

/-- Two characters in a row stand before a cut, behind it, or around it. -/
theorem pair_infix_append {a b : Char} {x y : Text} (h : [a, b] <:+: x ++ y) :
    [a, b] <:+: x ∨ [a, b] <:+: y ∨ (a ∈ x.getLast? ∧ b ∈ y.head?) := by
  induction x with
  | nil => exact Or.inr (Or.inl h)
  | cons c x ih =>
      rw [List.cons_append, List.infix_cons_iff] at h
      rcases h with hhere | hlater
      · obtain ⟨rfl, hnext⟩ := List.cons_prefix_cons.mp hhere
        cases x with
        | nil =>
            obtain ⟨rest, rfl⟩ := hnext
            exact Or.inr (Or.inr ⟨rfl, rfl⟩)
        | cons d x =>
            obtain ⟨rfl, -⟩ := List.cons_prefix_cons.mp hnext
            exact Or.inl ⟨[], x, rfl⟩
      · rcases ih hlater with hx | hy | ⟨hlast, hhead⟩
        · exact Or.inl (hx.trans (List.suffix_cons c x).isInfix)
        · exact Or.inr (Or.inl hy)
        · rw [Option.mem_def] at hlast
          exact Or.inr (Or.inr ⟨by rw [List.getLast?_cons, hlast]; rfl, hhead⟩)

/-! ## Texts without long lines -/

/-- Whether no line of a text is longer than a numeral may be. -/
def Narrow (s : Text) : Prop :=
  ∀ run, run <:+: s → '\n' ∉ run → run.length ≤ digitLimit

theorem narrow_of_length_le {s : Text} (h : s.length ≤ digitLimit) : Narrow s :=
  fun _ hrun _ => hrun.length_le.trans h

theorem Narrow.of_isInfix {s part : Text} (h : Narrow s) (hpart : part <:+: s) : Narrow part :=
  fun run hrun => h run (hrun.trans hpart)

theorem narrow_join {parts : List Text} (h : ∀ part ∈ parts, part.length ≤ digitLimit) :
    Narrow (join ['\n'] parts) := by
  induction parts with
  | nil => exact narrow_of_length_le (Nat.zero_le _)
  | cons part rest ih =>
      obtain ⟨hpart, hrest⟩ := List.forall_mem_cons.mp h
      cases rest with
      | nil =>
          rw [join, List.intercalate_singleton]
          exact narrow_of_length_le hpart
      | cons next rest =>
          intro run hrun hbreak
          rw [join, List.intercalate_cons_cons, List.append_assoc, List.singleton_append] at hrun
          rcases infix_append_cons hrun hbreak with hhere | hlater
          · exact narrow_of_length_le hpart run hhere hbreak
          · exact ih hrest run hlater hbreak

/-! ## Numerals inside a text -/

/-- Whether a numeral stands in a text. -/
structure IsNumeralIn (t run : Text) : Prop where
  /-- It is a numeral. -/
  numeral : IsNumeral run
  /-- It is part of the text. -/
  part : run <:+: t

/-- A numeral in a text without long lines is within the limit. -/
theorem IsNumeralIn.length_le {t run : Text} (h : IsNumeralIn t run) (ht : Narrow t) :
    run.length ≤ digitLimit :=
  ht run h.part (h.numeral.not_mem (by decide))

/-! ## Rules for scanners -/

namespace Scan

variable {α β : Type}

/-- Whether all that a scanner yields at a place inside a text satisfies a condition; what
it leaves lies inside that text, too. -/
def Within (t : Text) (p : Scan α) (good : α → Prop) : Prop :=
  ∀ s a rest, s <:+: t → p s = some (a, rest) → rest <:+: t ∧ good a

section

variable {t : Text} {p : Scan α} {f : α → Scan β} {good : α → Prop} {fine : β → Prop}

theorem Within.mono {good' : α → Prop} (h : Within t p good) (himp : ∀ a, good a → good' a) :
    Within t p good' := by
  intro s a rest hs hp
  obtain ⟨hrest, hgood⟩ := h s a rest hs hp
  exact ⟨hrest, himp a hgood⟩

theorem Within.bind (hp : Within t p good) (hf : ∀ a, good a → Within t (f a) fine) :
    Within t (p >>= f) fine := by
  intro s b rest hs h
  obtain ⟨a, middle, hfirst, hlast⟩ := bind_eq_some.mp h
  obtain ⟨hmiddle, hgood⟩ := hp s a middle hs hfirst
  exact hf a hgood middle b rest hmiddle hlast

theorem within_pure {a : α} (h : good a) : Within t (pure a) good := by
  intro s b rest hs hp
  cases hp
  exact ⟨hs, h⟩

theorem Within.orElse {q : Scan α} (hp : Within t p good) (hq : Within t q good) :
    Within t (p <|> q) good := by
  intro s a rest hs h
  rw [orElse_apply, Option.or_eq_some_iff] at h
  rcases h with hfirst | ⟨-, hsecond⟩
  · exact hp s a rest hs hfirst
  · exact hq s a rest hs hsecond

theorem within_literal (part : Text) : Within t (literal part) fun _ => True := by
  intro s a rest hs hp
  rw [literal] at hp
  split at hp
  next => cases hp; exact ⟨(List.drop_suffix _ _).isInfix.trans hs, trivial⟩
  next => cases hp

theorem within_many (member : Char → Bool) : Within t (many member) fun _ => True := by
  intro s a rest hs hp
  cases hp
  exact ⟨(List.dropWhile_suffix _).isInfix.trans hs, trivial⟩

/-- A run that was read is not empty, has only characters of the class, and lies inside the
text. -/
theorem within_some1 (member : Char → Bool) :
    Within t (some1 member) fun run =>
      run ≠ [] ∧ (∀ c ∈ run, member c = true) ∧ run <:+: t := by
  intro s run rest hs hp
  obtain ⟨hne, hrun⟩ := some1_eq_some hp
  rw [some1] at hp
  split at hp
  next => cases hp
  next =>
    cases hp
    exact ⟨(List.dropWhile_suffix _).isInfix.trans hs, hne, hrun,
      (List.takeWhile_prefix _).isInfix.trans hs⟩

theorem within_atEnd : Within t atEnd fun _ => True := by
  intro s a rest hs hp
  rw [atEnd] at hp
  split at hp
  next => cases hp; exact ⟨hs, trivial⟩
  next => cases hp

theorem Within.optional (h : Within t p good) :
    Within t (Scan.optional p) fun found => ∀ a ∈ found, good a := by
  intro s found rest hs hp
  rw [Scan.optional] at hp
  split at hp
  next a middle hfound =>
    cases hp
    obtain ⟨hrest, hgood⟩ := h s a rest hs hfound
    exact ⟨hrest, fun b hb => by cases hb; exact hgood⟩
  next => cases hp; exact ⟨hs, by simp⟩

/-- Neither does an empty run in front change what is yielded. -/
theorem Within.afterNone (h : Within t p good) (least : Nat) :
    Within t (Scan.afterNone least p) fun found => good found.2 := by
  intro s found rest hs hp
  rw [Scan.afterNone] at hp
  split at hp
  next =>
    obtain ⟨⟨a, middle⟩, hfound, heq⟩ := Option.map_eq_some_iff.mp hp
    cases heq
    exact h s a middle hs hfound
  next => cases hp

theorem Within.shortest (h : Within t p good) (least : Nat) :
    Within t (Scan.shortest p least) fun found => good found.2 := by
  intro s
  induction s generalizing least with
  | nil => exact h.afterNone least []
  | cons c s ih =>
      intro found rest hs hp
      rw [Scan.shortest] at hp
      split at hp
      next hhere =>
        cases hp
        exact h.afterNone least (c :: s) _ _ hs hhere
      next =>
        split at hp
        next => cases hp
        next =>
          obtain ⟨⟨later, middle⟩, hlater, heq⟩ := Option.map_eq_some_iff.mp hp
          cases heq
          exact ih (least - 1) later middle ((List.suffix_cons c s).isInfix.trans hs) hlater

theorem Within.longest (h : Within t p good) (least : Nat) :
    Within t (Scan.longest p least) fun found => good found.2 := by
  intro s
  induction s generalizing least with
  | nil => exact h.afterNone least []
  | cons c s ih =>
      intro found rest hs hp
      rw [Scan.longest] at hp
      split at hp
      next hlonger =>
        split at hlonger
        next => cases hlonger
        next =>
          cases hp
          obtain ⟨⟨later, middle⟩, hlater, heq⟩ := Option.map_eq_some_iff.mp hlonger
          cases heq
          exact ih (least - 1) later middle ((List.suffix_cons c s).isInfix.trans hs) hlater
      next => exact h.afterNone least (c :: s) _ _ hs hp

theorem Within.front (h : Within t p good) {s : Text} {a : α} (hs : s <:+: t)
    (hp : Scan.front p s = some a) : good a := by
  obtain ⟨⟨_, rest⟩, hfound, rfl⟩ := Option.map_eq_some_iff.mp hp
  exact (h s _ rest hs hfound).2

theorem Within.find (h : Within t p good) {s : Text} {a : α} {rest : Text} (hs : s <:+: t)
    (hp : Scan.find p s = some (a, rest)) : good a := by
  induction s with
  | nil => exact (h [] a rest hs hp).2
  | cons c s ih =>
      rw [Scan.find] at hp
      split at hp
      next hhere =>
        cases hp
        exact (h (c :: s) a rest hs hhere).2
      next => exact ih ((List.suffix_cons c s).isInfix.trans hs) hp

theorem Within.search (h : Within t p good) {s : Text} {a : α} (hs : s <:+: t)
    (hp : Scan.search p s = some a) : good a := by
  obtain ⟨⟨_, rest⟩, hfound, rfl⟩ := Option.map_eq_some_iff.mp hp
  exact h.find hs hfound

theorem Within.findAll (h : Within t p good) {s : Text} (hs : s <:+: t) :
    ∀ a ∈ Scan.findAll p s, good a := by
  suffices hall : ∀ skip, ∀ a ∈ findAllFrom p skip s, good a from hall 0
  induction s with
  | nil => simp [findAllFrom]
  | cons c s ih =>
      have hrest := ih ((List.suffix_cons c s).isInfix.trans hs)
      intro skip
      cases skip with
      | succ skip => exact hrest skip
      | zero =>
          rw [findAllFrom]
          split
          next a rest hfound =>
            exact List.forall_mem_cons.mpr ⟨(h (c :: s) a rest hs hfound).2, hrest _⟩
          next => exact hrest 0

/-- Decimal digits that were read are a numeral that stands in the text. -/
theorem within_digits : Within t digits (IsNumeralIn t) :=
  (within_some1 isDigit).mono fun _ h => ⟨⟨h.1, h.2.1⟩, h.2.2⟩

end

end Scan

end TlaRunner.Text
