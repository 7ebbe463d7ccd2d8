import TlaRunner.Proofs.Text.Within
import TlaRunner.Toml.Scalar

/-!
# What scalars are refused for

A scalar is refused because it is not written as the format demands, or because it is a decimal
integer of more digits than the limit.  In the second case these digits stand in the text, perhaps
with underscores between them (`FaultIn`).

Every reader starts at some place inside a text and leaves a part of it, so all places are told of
at once: `Read.Within t p good` says that `p` refuses only for a fault of `t` wherever it starts
inside `t`, and leaves a part of `t` otherwise.  There is one rule for each way to make a reader,
and then the readers are gone through as they are built from each other.
-/

namespace TlaRunner.Toml

open Text (Scan IsNumeral digitLimit)

/-! ## Digits in a text -/

/-- Whether digits stand in a text, perhaps with underscores between them. -/
def HasDigits (t digits : Text) : Prop :=
  ∃ run, run <:+: t ∧ (∀ c ∈ run, c.isDigit = true ∨ c = '_') ∧ run.filter Char.isDigit = digits

/-- What a text may be refused for. -/
inductive FaultIn (t : Text) : Fault → Prop
  /-- It is not written as the format demands. -/
  | malformed : FaultIn t .malformed
  /-- Some digits in it are more than the limit. -/
  | numeral {digits : Text} (hdigits : HasDigits t digits) (hlimit : digitLimit < digits.length) :
      FaultIn t (.numeral (.tooLong digits.length))

/-! ## Numerals -/

/-- A numeral is refused only if it is too long. -/
theorem readNat_eq_error {digits : Text} {e : Text.NumeralError} (hnumeral : IsNumeral digits)
    (h : Text.readNat digits = .error e) :
    e = .tooLong digits.length ∧ digitLimit < digits.length := by
  rcases Nat.lt_or_ge digitLimit digits.length with hlong | hshort
  · rw [Text.readNat_of_limit_lt hnumeral hlong] at h
    cases h
    exact ⟨rfl, hlong⟩
  · rw [Text.readNat_of_length_le hnumeral hshort] at h
    cases h

theorem isNumeral_of_isDigit {digits : Text} (hne : digits ≠ [])
    (h : ∀ c ∈ digits, c.isDigit = true) : IsNumeral digits := by
  refine ⟨hne, fun c hc => ?_⟩
  rw [Text.isDigit, Text.digitValue_of_ascii (h c hc)]
  rfl

/-- What is passed over is the digits that are read and underscores. -/
theorem moreDigits_eq {member : Char → Bool} (hmember : member '_' = false) (s : Text) :
    ∃ run, s = run ++ (moreDigits member s).2 ∧ (∀ c ∈ run, member c = true ∨ c = '_') ∧
      run.filter member = (moreDigits member s).1 := by
  fun_induction moreDigits member s with
  | case1 => exact ⟨[], rfl, by simp, rfl⟩
  | case2 c hc => exact ⟨[c], rfl, by simp [hc], by simp [hc]⟩
  | case3 c hc => exact ⟨[], rfl, by simp, rfl⟩
  | case4 c d s hc digits rest heq ih =>
      rw [heq] at ih
      obtain ⟨run, hs, hrun, hdigits⟩ := ih
      exact ⟨c :: run, by rw [hs]; rfl, by simpa [hc] using hrun, by simp [hc, hdigits]⟩
  | case5 c d s hc hd digits rest heq ih =>
      rw [heq] at ih
      obtain ⟨run, hs, hrun, hdigits⟩ := ih
      rw [Bool.and_eq_true, decide_eq_true_eq] at hd
      obtain ⟨rfl, hmem⟩ := hd
      exact ⟨'_' :: d :: run, by rw [hs]; rfl, by simpa [hmem] using hrun,
        by simp [hmember, hmem, hdigits]⟩
  | case6 c d s hc hd => exact ⟨[], rfl, by simp, rfl⟩

/-- Digits that were read begin the text that was read from. -/
theorem grouped_eq_some {member : Char → Bool} (hmember : member '_' = false)
    {s digits rest : Text} (h : grouped member s = some (digits, rest)) :
    digits ≠ [] ∧ ∃ run, s = run ++ rest ∧ (∀ c ∈ run, member c = true ∨ c = '_') ∧
      run.filter member = digits := by
  cases s with
  | nil => cases h
  | cons c s =>
      rw [grouped] at h
      split at h
      next hc =>
        cases h
        obtain ⟨run, hs, hrun, hdigits⟩ := moreDigits_eq hmember s
        refine ⟨List.cons_ne_nil _ _, c :: run, ?_, ?_, ?_⟩
        · rw [List.cons_append, ← hs]
        · exact List.forall_mem_cons.mpr ⟨Or.inl hc, hrun⟩
        · rw [List.filter_cons_of_pos hc, hdigits]
      next => cases h

/-! ## Scanners -/

section Scanners

open Text.Scan

variable {t : Text}

theorem within_fixed (width low high : Nat) : Within t (fixed width low high) fun _ => True := by
  intro s a rest hs h
  rw [fixed] at h
  split at h
  next =>
    simp only at h
    split at h
    next =>
      cases h
      exact ⟨(List.drop_suffix _ _).isInfix.trans hs, trivial⟩
    next => cases h
  next => cases h

theorem within_grouped {member : Char → Bool} (hmember : member '_' = false) :
    Within t (grouped member) fun digits =>
      digits ≠ [] ∧ ∃ run, run <:+: t ∧ (∀ c ∈ run, member c = true ∨ c = '_') ∧
        run.filter member = digits := by
  intro s digits rest hs h
  obtain ⟨hne, run, rfl, hrun, hdigits⟩ := grouped_eq_some hmember h
  exact ⟨(List.suffix_append _ _).isInfix.trans hs, hne, run,
    (List.prefix_append _ _).isInfix.trans hs, hrun, hdigits⟩

theorem within_sign : Within t sign fun _ => True :=
  ((within_literal _).bind fun _ _ => within_pure trivial).orElse
    (((within_literal _).bind fun _ _ => within_pure trivial).orElse (within_pure trivial))

theorem within_fraction : Within t fraction fun _ => True :=
  (within_literal _).bind fun _ _ => (within_some1 _).bind fun _ _ => within_pure trivial

theorem within_timeOfDay : Within t timeOfDay fun _ => True := by
  refine (within_fixed _ _ _).bind fun hour _ => (within_literal _).bind fun _ _ => ?_
  refine (within_fixed _ _ _).bind fun minute _ => (within_literal _).bind fun _ _ => ?_
  refine (within_fixed _ _ _).bind fun second _ => within_fraction.optional.bind fun _ _ => ?_
  exact within_pure trivial

theorem within_offset : Within t offset fun _ => True := by
  have hletter : Within t (Scan.literal ['Z'] <|> Scan.literal ['z']) fun _ => True :=
    (within_literal _).orElse (within_literal _)
  have hsign : Within t
      ((do Scan.literal ['+']; return '+') <|> (do Scan.literal ['-']; return '-'))
      fun _ => True :=
    ((within_literal _).bind fun _ _ => within_pure trivial).orElse
      ((within_literal _).bind fun _ _ => within_pure trivial)
  refine (hletter.bind fun _ _ => within_pure trivial).orElse ?_
  refine hsign.bind fun _ _ => (within_fixed _ _ _).bind fun hour _ => ?_
  refine (within_literal _).bind fun _ _ => (within_fixed _ _ _).bind fun minute _ => ?_
  exact within_pure trivial

theorem within_timeBehindDate : Within t timeBehindDate fun _ => True := by
  have hletter : Within t (Scan.literal ['T'] <|> Scan.literal ['t'] <|> Scan.literal [' '])
      fun _ => True :=
    (within_literal _).orElse ((within_literal _).orElse (within_literal _))
  refine hletter.bind fun _ _ => within_timeOfDay.bind fun _ _ => ?_
  exact within_offset.optional.bind fun _ _ => within_pure trivial

theorem within_date : Within t date fun _ => True := by
  refine (within_fixed _ _ _).bind fun year _ => (within_literal _).bind fun _ _ => ?_
  refine (within_fixed _ _ _).bind fun month _ => (within_literal _).bind fun _ _ => ?_
  refine (within_fixed _ _ _).bind fun day _ => within_timeBehindDate.optional.bind fun _ _ => ?_
  exact within_pure trivial

theorem within_radix (letter : Char) (base : Nat) :
    Within t (radix letter base) fun _ => True :=
  (within_literal _).bind fun _ _ => (within_grouped rfl).bind fun _ _ => within_pure trivial

theorem within_special : Within t special fun _ => True :=
  within_sign.bind fun _ _ =>
    ((within_literal _).bind fun _ _ => within_pure trivial).orElse
      ((within_literal _).bind fun _ _ => within_pure trivial)

/-- The digits before the point stand in the text. -/
theorem within_wholePart :
    Within t wholePart fun digits => IsNumeral digits ∧ HasDigits t digits := by
  intro s digits rest hs h
  unfold wholePart at h
  split at h
  next rest =>
    cases h
    refine ⟨(List.suffix_cons _ _).isInfix.trans hs,
      ⟨List.cons_ne_nil _ _, List.forall_mem_singleton.mpr rfl⟩, ['0'], ?_, by simp, rfl⟩
    exact (List.prefix_append ['0'] rest).isInfix.trans hs
  next =>
    obtain ⟨hrest, hne, run, hinfix, hrun, rfl⟩ := within_grouped rfl _ _ _ hs h
    exact ⟨hrest, isNumeral_of_isDigit hne fun c hc => (List.mem_filter.mp hc).2, run, hinfix,
      hrun, rfl⟩

theorem within_decimals :
    Within t decimals fun d => IsNumeral d.whole ∧ HasDigits t d.whole := by
  have hdigits : Within t (grouped Char.isDigit) fun _ => True :=
    (within_grouped rfl).mono fun _ _ => trivial
  have hfraction : Within t (do Scan.literal ['.']; grouped Char.isDigit) fun _ => True :=
    (within_literal _).bind fun _ _ => hdigits
  have hletter : Within t (Scan.literal ['e'] <|> Scan.literal ['E']) fun _ => True :=
    (within_literal _).orElse (within_literal _)
  have hexponent : Within t (do
      Scan.literal ['e'] <|> Scan.literal ['E']
      let negative ← sign
      let digits ← grouped Char.isDigit
      return (negative, digits)) fun _ => True :=
    hletter.bind fun _ _ => within_sign.bind fun _ _ => hdigits.bind fun _ _ => within_pure trivial
  refine within_sign.bind fun _ _ => within_wholePart.bind fun _ hwhole => ?_
  exact hfraction.optional.bind fun _ _ => hexponent.optional.bind fun _ _ => within_pure hwhole

end Scanners

/-! ## Rules for readers -/

/-- What reading inside a text may lead to. -/
inductive Leads {α : Type} (t : Text) (good : α → Prop) : Except Fault (α × Text) → Prop
  /-- Something good was read, and a part of the text is left. -/
  | read {a : α} {rest : Text} (hrest : rest <:+: t) (hgood : good a) : Leads t good (.ok (a, rest))
  /-- The text is refused. -/
  | refused {fault : Fault} (hfault : FaultIn t fault) : Leads t good (.error fault)

/-- What is refused as malformed is refused for good reason. -/
theorem Leads.malformed {α : Type} {t : Text} {good : α → Prop} :
    Leads t good (.error .malformed) :=
  .refused .malformed

namespace Read

variable {α β : Type}

/-- Whether a reader refuses a text only for a fault in it wherever it starts inside the text,
and leaves a part of the text otherwise. -/
def Within (t : Text) (p : Read α) (good : α → Prop) : Prop :=
  ∀ s, s <:+: t → Leads t good (p s)

variable {t : Text} {p : Read α} {f : α → Read β} {good : α → Prop} {fine : β → Prop}

theorem Within.bind (hp : Within t p good) (hf : ∀ a, good a → Within t (f a) fine) :
    Within t (p >>= f) fine := by
  intro s hs
  have hfirst := hp s hs
  change Leads t fine ((p s).bind fun found => f found.1 found.2)
  generalize p s = result at hfirst
  cases hfirst with
  | read hrest hgood => exact hf _ hgood _ hrest
  | refused hfault => exact .refused hfault

theorem within_pure {a : α} (h : good a) : Within t (pure a) good :=
  fun _ hs => .read hs h

theorem within_refuse : Within t (refuse : Read α) good :=
  fun _ _ => .malformed

theorem within_expect {p : Scan α} (h : Scan.Within t p good) : Within t (expect p) good := by
  intro s hs
  rw [expect]
  cases hfound : p s with
  | none => exact .malformed
  | some found =>
      obtain ⟨hrest, hgood⟩ := h s found.1 found.2 hs hfound
      exact .read hrest hgood

theorem within_accept {p : Scan Unit} (h : Scan.Within t p fun _ => True) :
    Within t (accept p) fun _ => True := by
  intro s hs
  rw [accept]
  cases hfound : p s with
  | none => exact .read hs trivial
  | some found => exact .read (h s found.1 found.2 hs hfound).1 trivial

theorem within_acceptText (part : Text) :
    Within t (accept (Scan.literal part)) fun _ => True :=
  within_accept (Scan.within_literal part)

theorem within_expectText (part : Text) :
    Within t (expect (Scan.literal part)) fun _ => True :=
  within_expect (Scan.within_literal part)

/-- The text that is left is a part of the whole. -/
theorem within_get : Within t (get : Read Text) (· <:+: t) :=
  fun _ hs => .read hs hs

theorem within_set {s : Text} (h : s <:+: t) : Within t (set s : Read PUnit) fun _ => True :=
  fun _ _ => .read h trivial

theorem within_dropWhile (member : Char → Bool) :
    Within t (modify (List.dropWhile member) : Read PUnit) fun _ => True :=
  fun _ hs => .read ((List.dropWhile_suffix _).isInfix.trans hs) trivial

theorem within_skipSpace : Within t skipSpace fun _ => True :=
  fun _ hs => .read ((List.dropWhile_suffix _).isInfix.trans hs) trivial

/-! ## Strings -/

theorem within_codedChar (width : Nat) : Within t (codedChar width) fun _ => True := by
  intro s hs
  simp only [codedChar]
  split
  next =>
    split
    next => exact .read ((List.drop_suffix _ _).isInfix.trans hs) trivial
    next => exact .malformed
  next => exact .malformed

theorem within_lineJoin : Within t lineJoin fun _ => True := by
  intro s hs
  rw [lineJoin]
  split
  next => exact .read List.nil_infix trivial
  next rest heq =>
    have hrest : rest <:+ s := (List.suffix_cons _ _).trans (heq ▸ List.dropWhile_suffix isSpace)
    exact .read (((List.dropWhile_suffix _).trans hrest).isInfix.trans hs) trivial
  next => exact .malformed

theorem within_escape (multiline : Bool) : Within t (escape multiline) fun _ => True := by
  intro s hs
  cases s with
  | nil => exact .malformed
  | cons c rest =>
      have hrest : rest <:+: t := (List.suffix_cons c rest).isInfix.trans hs
      simp only [escape]
      split
      next => exact within_lineJoin _ hs
      next =>
        split
        next => exact .read hrest trivial
        next => exact .read hrest trivial
        next => exact .read hrest trivial
        next => exact .read hrest trivial
        next => exact .read hrest trivial
        next => exact .read hrest trivial
        next => exact .read hrest trivial
        next => exact within_codedChar 4 _ hrest
        next => exact within_codedChar 8 _ hrest
        next => exact .malformed

theorem extraQuotes_suffix (quote : Char) (s : Text) : (extraQuotes quote s).2 <:+ s := by
  unfold extraQuotes
  split
  next a b s =>
    split
    next =>
      split
      next => exact (List.suffix_cons _ _).trans (List.suffix_cons _ _)
      next => exact List.suffix_cons _ _
    next => exact List.suffix_rfl
  next a =>
    split
    next => exact List.nil_suffix
    next => exact List.suffix_rfl
  next => exact List.suffix_rfl

theorem within_basicFrom (multiline : Bool) (fuel : Nat) (held : Text) :
    Within t (basicFrom multiline fuel held) fun _ => True := by
  induction fuel generalizing held with
  | zero => exact fun _ _ => .malformed
  | succ fuel ih =>
      intro s hs
      cases s with
      | nil => exact .malformed
      | cons c s =>
          have hrest : s <:+: t := (List.suffix_cons c s).isInfix.trans hs
          rw [basicFrom]
          split
          next =>
            split
            next => exact .read hrest trivial
            next =>
              split
              next =>
                have hextra := (extraQuotes_suffix '"' (s.drop 2)).trans (List.drop_suffix 2 s)
                exact .read (hextra.isInfix.trans hrest) trivial
              next => exact ih _ _ hrest
          next =>
            split
            next =>
              have hescape := within_escape multiline s hrest
              split
              next fault heq =>
                rw [heq] at hescape
                cases hescape with
                | refused hfault => exact .refused hfault
              next chars rest heq =>
                rw [heq] at hescape
                cases hescape with
                | read hleft _ => exact ih _ _ hleft
            next =>
              split
              next => exact .malformed
              next => exact ih _ _ hrest

theorem within_basicString (multiline : Bool) :
    Within t (basicString multiline) fun _ => True :=
  fun s hs => within_basicFrom multiline _ _ s hs

theorem within_literalString : Within t literalString fun _ => True := by
  intro s hs
  simp only [literalString]
  split
  next => exact .malformed
  next c rest heq =>
    split
    next => exact .malformed
    next =>
      have hrest : rest <:+ s := (List.suffix_cons _ _).trans (heq ▸ List.dropWhile_suffix _)
      exact .read (hrest.isInfix.trans hs) trivial

theorem cutAtQuotes_suffix {s : Text} {found : Text × Text} (h : cutAtQuotes s = some found) :
    found.2 <:+ s := by
  induction s generalizing found with
  | nil => cases h
  | cons c s ih =>
      rw [cutAtQuotes] at h
      split at h
      next =>
        cases h
        exact (List.drop_suffix 2 s).trans (List.suffix_cons c s)
      next =>
        obtain ⟨later, hlater, rfl⟩ := Option.map_eq_some_iff.mp h
        exact (ih hlater).trans (List.suffix_cons c s)

theorem within_literalLines : Within t literalLines fun _ => True := by
  intro s hs
  rw [literalLines]
  split
  next => exact .malformed
  next body rest heq =>
    split
    next => exact .malformed
    next =>
      have hrest := (extraQuotes_suffix '\'' rest).trans (cutAtQuotes_suffix heq)
      exact .read (hrest.isInfix.trans hs) trivial

theorem within_skipFirstBreak : Within t skipFirstBreak fun _ => True := by
  intro s hs
  unfold skipFirstBreak
  split
  next => exact .read ((List.suffix_cons _ _).isInfix.trans hs) trivial
  next => exact .read hs trivial

theorem within_string? : Within t string? fun _ => True := by
  refine (within_acceptText _).bind fun b _ => ?_
  split
  next =>
    refine within_skipFirstBreak.bind fun _ _ => (within_basicString true).bind fun _ _ => ?_
    exact within_pure trivial
  next =>
    refine (within_acceptText _).bind fun b _ => ?_
    split
    next => exact (within_basicString false).bind fun _ _ => within_pure trivial
    next =>
      refine (within_acceptText _).bind fun b _ => ?_
      split
      next =>
        refine within_skipFirstBreak.bind fun _ _ => within_literalLines.bind fun _ _ => ?_
        exact within_pure trivial
      next =>
        refine (within_acceptText _).bind fun b _ => ?_
        split
        next => exact within_literalString.bind fun _ _ => within_pure trivial
        next => exact within_pure trivial

/-! ## Numbers -/

/-- The only numerals that are refused are decimal integers, and only if they are too long. -/
theorem within_momentOrNumber : Within t momentOrNumber fun _ => True := by
  intro s hs
  rw [momentOrNumber]
  split
  next real text rest hdate =>
    split
    next => exact .read (within_date s _ rest hs hdate).1 trivial
    next => exact .malformed
  next =>
    split
    next text rest htime => exact .read (within_timeOfDay s _ rest hs htime).1 trivial
    next =>
      split
      next n rest hradix =>
        have hwithin := (within_radix (t := t) 'x' 16).orElse
          ((within_radix 'b' 2).orElse (within_radix 'o' 8))
        exact .read (hwithin s _ rest hs hradix).1 trivial
      next =>
        split
        next d rest hdecimals =>
          obtain ⟨hrest, hnumeral, hdigits⟩ := within_decimals s d rest hs hdecimals
          rw [Decimals.value]
          split
          next => exact .read hrest trivial
          next =>
            cases hread : Text.readNat d.whole with
            | ok n => exact .read hrest trivial
            | error e =>
                obtain ⟨rfl, hlong⟩ := readNat_eq_error hnumeral hread
                exact .refused (.numeral hdigits hlong)
        next =>
          have hspecial := within_expect within_special s hs
          generalize expect special s = result at hspecial
          cases hspecial with
          | read hrest _ => exact .read hrest trivial
          | refused hfault => exact .refused hfault

end Read

end TlaRunner.Toml
