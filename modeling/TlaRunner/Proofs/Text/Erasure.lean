import TlaRunner.Proofs.Text.Search

/-!
# Taking matches out of a text

`eraseAll` takes the matches of a scanner out of a text, from left to right, and puts what is left
together.  A `Cut` lists what is left: the gaps between the matches.  Every text has a cut
(`Scan.Reads.exists_cut`), and its gaps joined are the outcome (`Scan.Reads.eraseAll_of_cut`).

No gap holds a match, so the outcome holds one exactly if a match stands `Astride` the seams
between gaps, that is, if it begins in one gap and ends in a later one (`occurs_flatten_iff`).
-/

namespace TlaRunner.Text

/-! ## Occurrences -/

/-- Whether a text of some kind occurs in a text. -/
def Occurs (kind : Text → Prop) (s : Text) : Prop :=
  ∃ part, part <:+: s ∧ kind part

/-- Whether a text of some kind stands across pieces of a text: it begins in one of them and ends
in a later one. -/
def Astride (kind : Text → Prop) (pieces : List Text) : Prop :=
  ∃ before first between last after front back,
    pieces = before ++ first :: (between ++ last :: after) ∧ front <:+ first ∧ front ≠ [] ∧
      back <+: last ∧ back ≠ [] ∧ kind (front ++ (between.flatten ++ back))

/-- A part of two texts joined lies in one of them or across the seam. -/
theorem infix_append_cases {part a b : Text} (h : part <:+: a ++ b) :
    part <:+: a ∨ part <:+: b ∨ ∃ front back, part = front ++ back ∧ front <:+ a ∧ front ≠ [] ∧
      back <+: b ∧ back ≠ [] := by
  obtain ⟨before, after, heq⟩ := h
  rw [List.append_assoc] at heq
  rcases List.append_eq_append_iff.mp heq with ⟨later, rfl, hlater⟩ | ⟨skipped, rfl, hskipped⟩
  · -- The part starts in the first text.
    rcases List.append_eq_append_iff.mp hlater with ⟨gap, rfl, hgap⟩ | ⟨back, rfl, rfl⟩
    · exact Or.inl ((List.prefix_append part gap).isInfix.trans (List.suffix_append before _).isInfix)
    · cases later with
      | nil => exact Or.inr (Or.inl (List.prefix_append back after).isInfix)
      | cons c later =>
          cases back with
          | nil =>
              rw [List.append_nil]
              exact Or.inl (List.suffix_append before _).isInfix
          | cons d back =>
              exact Or.inr (Or.inr ⟨c :: later, d :: back, rfl, List.suffix_append before _,
                List.cons_ne_nil c later, List.prefix_append _ after, List.cons_ne_nil d back⟩)
  · rw [hskipped]
    exact Or.inr (Or.inl ⟨skipped, after, List.append_assoc _ _ _⟩)

/-- What stands at the front of pieces joined ends in one of them. -/
theorem prefix_flatten_cases {part : Text} (hne : part ≠ []) {pieces : List Text}
    (h : part <+: pieces.flatten) : ∃ between last after back,
      pieces = between ++ last :: after ∧ back <+: last ∧ back ≠ [] ∧
        part = between.flatten ++ back := by
  induction pieces generalizing part with
  | nil => exact absurd (List.prefix_nil.mp h) hne
  | cons piece pieces ih =>
      obtain ⟨after, heq⟩ := h
      rw [List.flatten_cons] at heq
      rcases List.append_eq_append_iff.mp heq with ⟨gap, rfl, _⟩ | ⟨later, rfl, hlater⟩
      · exact ⟨[], _, pieces, part, rfl, List.prefix_append part gap, hne, rfl⟩
      · cases hnone : later with
        | nil =>
            rw [hnone, List.append_nil] at hne
            exact ⟨[], piece, pieces, piece, rfl, List.prefix_rfl, hne, by rw [List.append_nil]; rfl⟩
        | cons c rest =>
            have hlater' : later <+: pieces.flatten := ⟨after, hlater.symm⟩
            obtain ⟨between, last, others, back, rfl, hback, hback', hsplit⟩ :=
              ih (by rw [hnone]; exact List.cons_ne_nil c rest) hlater'
            exact ⟨piece :: between, last, others, back, rfl, hback, hback', by
              rw [← hnone, hsplit, List.flatten_cons, List.append_assoc]⟩

/-- Pieces joined hold a text of some kind if one of them does, or if one stands across them. -/
theorem occurs_flatten_iff {kind : Text → Prop} (hnil : ¬kind []) {pieces : List Text} :
    Occurs kind pieces.flatten ↔ (∃ piece ∈ pieces, Occurs kind piece) ∨ Astride kind pieces := by
  constructor
  · rintro ⟨part, hpart, hkind⟩
    induction pieces with
    | nil =>
        rw [List.infix_nil.mp hpart] at hkind
        exact absurd hkind hnil
    | cons piece pieces ih =>
        rcases infix_append_cases hpart with hhere | hlater | ⟨front, back, rfl, hfront, hne, hback,
          hne'⟩
        · exact Or.inl ⟨piece, List.mem_cons_self, part, hhere, hkind⟩
        · rcases ih hlater with ⟨other, hother, hoccurs⟩ | ⟨before, hastride⟩
          · exact Or.inl ⟨other, List.mem_cons_of_mem _ hother, hoccurs⟩
          · obtain ⟨first, between, last, after, front, back, rfl, hastride⟩ := hastride
            exact Or.inr ⟨piece :: before, first, between, last, after, front, back, rfl, hastride⟩
        · obtain ⟨between, last, after, end', rfl, hend, hend', rfl⟩ :=
            prefix_flatten_cases hne' hback
          exact Or.inr ⟨[], piece, between, last, after, front, end', rfl, hfront, hne, hend, hend',
            hkind⟩
  · rintro (⟨piece, hpiece, part, hpart, hkind⟩ | ⟨before, first, between, last, after, front, back,
      rfl, ⟨lead, rfl⟩, _, ⟨rest, rfl⟩, _, hkind⟩)
    · obtain ⟨before, after, rfl⟩ := List.append_of_mem hpiece
      refine ⟨part, hpart.trans ⟨before.flatten, after.flatten, ?_⟩, hkind⟩
      rw [List.flatten_append, List.flatten_cons, List.append_assoc]
    · refine ⟨_, ⟨before.flatten ++ lead, rest ++ after.flatten, ?_⟩, hkind⟩
      simp only [List.flatten_append, List.flatten_cons, List.append_assoc]

/-! ## Cuts -/

/-- The gaps between the texts of some kind in a text, where these are taken out from left to
right. -/
inductive Cut (kind : Text → Prop) : Text → List Text → Prop
  /-- No text of the kind occurs. -/
  | whole {s : Text} (h : ¬Occurs kind s) : Cut kind s [s]
  /-- One stands behind the first gap, and none starts in the gap. -/
  | piece {gap part rest : Text} {gaps : List Text} (hpart : kind part)
      (hfirst : ∀ front back, gap = front ++ back → back ≠ [] →
        ∀ other, kind other → ¬other <+: back ++ (part ++ rest))
      (hrest : Cut kind rest gaps) : Cut kind (gap ++ (part ++ rest)) (gap :: gaps)

section

variable {kind : Text → Prop}

/-- No text of the kind is left in a gap. -/
theorem Cut.not_occurs (hnil : ¬kind []) {s : Text} {gaps : List Text} (h : Cut kind s gaps) :
    ∀ gap ∈ gaps, ¬Occurs kind gap := by
  induction h with
  | whole h => exact List.forall_mem_singleton.mpr h
  | @piece gap part rest gaps hpart hfirst hrest ih =>
      refine List.forall_mem_cons.mpr ⟨?_, ih⟩
      rintro ⟨other, ⟨front, back, hsplit⟩, hother⟩
      have hne : other ++ back ≠ [] := fun hempty =>
        hnil ((List.append_eq_nil_iff.mp hempty).1 ▸ hother)
      refine hfirst front (other ++ back) (by rw [← hsplit, List.append_assoc]) hne other hother ?_
      rw [List.append_assoc]
      exact List.prefix_append _ _

/-- What is left is not longer than the text. -/
theorem Cut.length_le {s : Text} {gaps : List Text} (h : Cut kind s gaps) :
    gaps.flatten.length ≤ s.length := by
  induction h with
  | whole h => rw [List.flatten_singleton]
  | piece _ _ _ ih =>
      rw [List.flatten_cons, List.length_append, List.length_append, List.length_append]
      omega

/-- How often a character stands in a text, if it stands so often in every text of the kind. -/
theorem Cut.count_eq {c : Char} {n : Nat} (hcount : ∀ part, kind part → part.count c = n)
    {s : Text} {gaps : List Text} (h : Cut kind s gaps) :
    s.count c + n = gaps.flatten.count c + n * gaps.length := by
  induction h with
  | whole h => rw [List.flatten_singleton, List.length_singleton, Nat.mul_one]
  | @piece gap part rest gaps hpart _ _ ih =>
      rw [List.count_append, List.count_append, hcount part hpart, List.flatten_cons,
        List.count_append, List.length_cons, Nat.mul_add, Nat.mul_one]
      omega

end

namespace Scan

/-- Whether a scanner reads just the texts of some kind, none of which is empty. -/
structure Reads (p : Scan Unit) (kind : Text → Prop) : Prop where
  /-- It succeeds where a text of the kind stands at the front, and leaves the rest. -/
  iff : ∀ s rest, p s = some ((), rest) ↔ ∃ part, kind part ∧ s = part ++ rest
  /-- It reads something. -/
  nonempty : ¬kind []

variable {p : Scan Unit} {kind : Text → Prop}

theorem Reads.eq_none_iff (h : Reads p kind) {s : Text} :
    p s = none ↔ ∀ part, kind part → ¬part <+: s := by
  rw [Option.eq_none_iff_forall_ne_some]
  constructor
  · rintro hnone part hpart ⟨rest, rfl⟩
    exact hnone ((), rest) ((h.iff _ _).mpr ⟨part, hpart, rfl⟩)
  · rintro hnone ⟨⟨⟩, rest⟩ hsome
    obtain ⟨part, hpart, rfl⟩ := (h.iff _ _).mp hsome
    exact hnone part hpart (List.prefix_append part rest)

/-- A scanner that fails everywhere finds no text of the kind. -/
theorem Reads.find_eq_none_iff (h : Reads p kind) {s : Text} :
    find p s = none ↔ ¬Occurs kind s := by
  rw [Scan.find_eq_none_iff]
  constructor
  · rintro hnone ⟨part, ⟨front, back, rfl⟩, hpart⟩
    refine h.eq_none_iff.mp (hnone (part ++ back) ?_) part hpart (List.prefix_append part back)
    rw [List.append_assoc]
    exact List.suffix_append front _
  · intro hnone later hlater
    refine h.eq_none_iff.mpr fun part hpart hwithin => hnone ⟨part, ?_, hpart⟩
    exact hwithin.isInfix.trans hlater.isInfix

/-- The text is passed over that was read. -/
theorem eraseAllFrom_length (p : Scan Unit) (part rest : Text) :
    eraseAllFrom p part.length (part ++ rest) = eraseAll p rest := by
  induction part with
  | nil => rfl
  | cons c part ih => exact ih

/-- A match at the front is taken out. -/
theorem Reads.eraseAll_append (h : Reads p kind) {part : Text} (hpart : kind part) (rest : Text) :
    eraseAll p (part ++ rest) = eraseAll p rest := by
  have hread : p (part ++ rest) = some ((), rest) := (h.iff _ _).mpr ⟨part, hpart, rfl⟩
  cases part with
  | nil => exact absurd hpart h.nonempty
  | cons c part =>
      rw [List.cons_append] at hread ⊢
      rw [eraseAll, eraseAllFrom, hread]
      have hskip : (part ++ rest).length - rest.length = part.length := by
        rw [List.length_append, Nat.add_sub_cancel]
      simp only [hskip]
      exact eraseAllFrom_length p part rest

/-- What stands before the first match is kept. -/
theorem eraseAll_append_of_none {gap later : Text}
    (h : ∀ front back, gap = front ++ back → back ≠ [] → p (back ++ later) = none) :
    eraseAll p (gap ++ later) = gap ++ eraseAll p later := by
  induction gap with
  | nil => rfl
  | cons c gap ih =>
      have hhere : p (c :: (gap ++ later)) = none := h [] (c :: gap) rfl (List.cons_ne_nil c gap)
      rw [List.cons_append, eraseAll, eraseAllFrom, hhere]
      exact congrArg (c :: ·) (ih fun front back hsplit => h (c :: front) back (by
        rw [hsplit, List.cons_append]))

/-- A text without a match is kept. -/
theorem Reads.eraseAll_of_not_occurs (h : Reads p kind) {s : Text} (hs : ¬Occurs kind s) :
    eraseAll p s = s := by
  have hnone := Scan.find_eq_none_iff.mp (h.find_eq_none_iff.mpr hs)
  have hkept : eraseAll p (s ++ []) = s ++ eraseAll p [] :=
    eraseAll_append_of_none fun front back hsplit _ =>
      hnone _ (by rw [hsplit, List.append_nil]; exact List.suffix_append front back)
  rwa [List.append_nil, eraseAll, eraseAll, eraseAllFrom, List.append_nil] at hkept

/-- What is left of a text are its gaps. -/
theorem Reads.eraseAll_of_cut (h : Reads p kind) {s : Text} {gaps : List Text}
    (hcut : Cut kind s gaps) : eraseAll p s = gaps.flatten := by
  induction hcut with
  | whole hs => rw [h.eraseAll_of_not_occurs hs, List.flatten_singleton]
  | piece hpart hfirst _ ih =>
      rw [eraseAll_append_of_none fun front back hsplit hne =>
        h.eq_none_iff.mpr (hfirst front back hsplit hne), h.eraseAll_append hpart, ih,
        List.flatten_cons]

/-- Every text has a cut. -/
theorem Reads.exists_cut (h : Reads p kind) (s : Text) : ∃ gaps, Cut kind s gaps := by
  induction hlen : s.length using Nat.strong_induction_on generalizing s with
  | _ n ih =>
      cases hfind : find p s with
      | none => exact ⟨[s], .whole (h.find_eq_none_iff.mp hfind)⟩
      | some found =>
          obtain ⟨⟨⟩, rest⟩ := found
          obtain ⟨gap, later, rfl, hlater, hearlier⟩ := find_eq_some_iff.mp hfind
          obtain ⟨part, hpart, rfl⟩ := (h.iff _ _).mp hlater
          have hpositive : 0 < part.length :=
            List.length_pos_iff.mpr fun hempty => h.nonempty (hempty ▸ hpart)
          rw [List.length_append, List.length_append] at hlen
          obtain ⟨gaps, hgaps⟩ := ih rest.length (by omega) rest rfl
          exact ⟨gap :: gaps, .piece hpart (fun front back hsplit hne =>
            h.eq_none_iff.mp (hearlier front back hsplit hne)) hgaps⟩

/-- A text stays as it is exactly if it holds no match. -/
theorem Reads.eraseAll_eq_self_iff (h : Reads p kind) {s : Text} :
    eraseAll p s = s ↔ ¬Occurs kind s := by
  refine ⟨fun hself => ?_, h.eraseAll_of_not_occurs⟩
  obtain ⟨gaps, hcut⟩ := h.exists_cut s
  have hlength := congrArg List.length ((h.eraseAll_of_cut hcut).symm.trans hself)
  cases hcut with
  | whole hs => exact hs
  | piece hpart _ hrest =>
      have hpositive := List.length_pos_iff.mpr fun hempty => h.nonempty (hempty ▸ hpart)
      have hle := hrest.length_le
      simp only [List.flatten_cons, List.length_append] at hlength
      omega

end Scan

end TlaRunner.Text
