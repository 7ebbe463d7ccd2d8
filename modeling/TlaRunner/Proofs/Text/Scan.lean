import Mathlib.Data.List.DropRight
import Mathlib.Data.List.TakeWhile
import TlaRunner.Text.Scan

/-!
# Running scanners

Scanners are opened in two directions.  On a text that is written as what the
scanner reads and the rest, the `_append` lemmas evaluate it.  From a scanner that
succeeded, `bind_eq_some` and the other `_eq_some` lemmas tell what it has read.
-/

namespace TlaRunner.Text

/-! ## Runs -/

theorem takeWhile_eq_nil_of_head {member : Char → Bool} {s : Text}
    (hs : ∀ c ∈ s.head?, member c = false) : s.takeWhile member = [] := by
  cases s with
  | nil => rfl
  | cons c s => exact List.takeWhile_cons_of_neg (by simp [hs c rfl])

theorem dropWhile_eq_self_of_head {member : Char → Bool} {s : Text}
    (hs : ∀ c ∈ s.head?, member c = false) : s.dropWhile member = s := by
  cases s with
  | nil => rfl
  | cons c s => exact List.dropWhile_cons_of_neg (by simp [hs c rfl])

/-! ## Digits and blanks -/

/-- No digit of any script is a blank. -/
theorem isBlank_of_isDigit {c : Char} (h : isDigit c = true) : isBlank c = false := by
  have hapart : ∀ first ∈ digitZeros, ∀ range ∈ blankRanges,
      first + 10 ≤ range.1 ∨ range.2 < first := by decide
  obtain ⟨value, hvalue⟩ := (isDigit_iff c).mp h
  obtain ⟨first, hfirst, _⟩ := Option.map_eq_some_iff.mp hvalue
  have hdigit := List.find?_some hfirst
  rw [Bool.and_eq_true, decide_eq_true_eq, decide_eq_true_eq] at hdigit
  refine Bool.eq_false_iff.mpr fun hblank => ?_
  obtain ⟨range, hrange, hin⟩ := List.any_eq_true.mp hblank
  rw [Bool.and_eq_true, decide_eq_true_eq, decide_eq_true_eq] at hin
  have hsplit := hapart first (List.mem_of_find?_eq_some hfirst) range hrange
  omega

theorem isDigit_of_isBlank {c : Char} (h : isBlank c = true) : isDigit c = false :=
  Bool.eq_false_iff.mpr fun hdigit => by
    rw [isBlank_of_isDigit hdigit] at h
    cases h

/-! ## Stripping -/

/-- A text with no blank at either end is kept. -/
theorem strip_eq_self {s : Text} (hfront : ∀ c ∈ s.head?, isBlank c = false)
    (hback : ∀ c ∈ s.getLast?, isBlank c = false) : strip s = s := by
  have hreverse : ∀ c ∈ s.reverse.head?, isBlank c = false := by
    rw [List.head?_reverse]
    exact hback
  rw [strip, stripFront, stripFront, dropWhile_eq_self_of_head hfront,
    dropWhile_eq_self_of_head hreverse, List.reverse_reverse]

/-- Stripping takes nothing from behind the first character that is kept. -/
theorem head?_strip (s : Text) : (strip s).head? = (stripFront s).head? := by
  have hkept : strip s = (stripFront s).rdropWhile isBlank := rfl
  cases hfront : stripFront s with
  | nil => rw [hkept, hfront]; rfl
  | cons c rest =>
      have hc : isBlank c = false := by
        have hstop := List.head?_dropWhile_not isBlank s
        rw [show s.dropWhile isBlank = c :: rest from hfront] at hstop
        exact hstop
      have hne : strip s ≠ [] := fun hnil => by
        rw [hkept, hfront, List.rdropWhile_eq_nil_iff] at hnil
        rw [hnil c List.mem_cons_self] at hc
        cases hc
      obtain ⟨later, hlater⟩ : strip s <+: c :: rest := by
        rw [hkept, hfront]
        exact List.rdropWhile_prefix isBlank _
      rw [← hlater, List.head?_append_of_ne_nil _ hne]

/-- No blank is kept at the end. -/
theorem isBlank_getLast?_strip {s : Text} : ∀ c ∈ (strip s).getLast?, isBlank c = false := by
  intro c hc
  rw [strip, List.getLast?_reverse] at hc
  have hstop := List.head?_dropWhile_not isBlank (stripFront s).reverse
  rw [show (List.dropWhile isBlank (stripFront s).reverse).head? = some c from hc] at hstop
  exact hstop

/-- Nothing is kept of blanks alone. -/
theorem isBlank_of_strip_eq_nil {s : Text} (h : strip s = []) : ∀ c ∈ s, isBlank c = true := by
  have hfront := head?_strip s
  rw [h, List.head?_nil, eq_comm, List.head?_eq_none_iff, stripFront,
    List.dropWhile_eq_nil_iff] at hfront
  exact hfront

/-- A text with another character does not stand at the front of blanks. -/
theorem startsWith_of_blank {part s : Text} (hs : ∀ c ∈ s, isBlank c = true)
    (hpart : part.all isBlank = false) : startsWith part s = false := by
  refine Bool.eq_false_iff.mpr fun hstart => ?_
  have hfront : part <+: s := List.isPrefixOf_iff_prefix.mp hstart
  rw [List.all_eq_true.mpr fun c hc => hs c (hfront.subset hc)] at hpart
  cases hpart

namespace Scan

variable {α β : Type}

/-! ## Composition -/

@[simp] theorem bind_apply (p : Scan α) (f : α → Scan β) (s : Text) :
    (p >>= f) s = (p s).bind fun found => f found.1 found.2 := rfl

/-- A composition succeeds where both of its parts do. -/
theorem bind_eq_some {p : Scan α} {f : α → Scan β} {s rest : Text} {b : β} :
    (p >>= f) s = some (b, rest) ↔ ∃ a middle, p s = some (a, middle) ∧
      f a middle = some (b, rest) := by
  rw [bind_apply, Option.bind_eq_some_iff]
  constructor
  · rintro ⟨⟨a, middle⟩, hp, hf⟩
    exact ⟨a, middle, hp, hf⟩
  · rintro ⟨a, middle, hp, hf⟩
    exact ⟨⟨a, middle⟩, hp, hf⟩

/-! ## What a scanner reads off a text that starts with it -/

theorem literal_append (part s : Text) : literal part (part ++ s) = some ((), s) := by
  have h : startsWith part (part ++ s) = true := List.isPrefixOf_iff_prefix.mpr ⟨s, rfl⟩
  rw [literal, if_pos h, List.drop_left]

/-- A run is read to its end, where what follows lies outside the class. -/
theorem many_append {member : Char → Bool} {run s : Text}
    (hrun : ∀ c ∈ run, member c = true) (hs : ∀ c ∈ s.head?, member c = false) :
    many member (run ++ s) = some (run, s) := by
  rw [many, List.takeWhile_append_of_pos hrun, List.dropWhile_append_of_pos hrun,
    takeWhile_eq_nil_of_head hs, dropWhile_eq_self_of_head hs, List.append_nil]

theorem some1_append {member : Char → Bool} {run s : Text} (hne : run ≠ [])
    (hrun : ∀ c ∈ run, member c = true) (hs : ∀ c ∈ s.head?, member c = false) :
    some1 member (run ++ s) = some (run, s) := by
  have hempty : run.isEmpty = false := by simp [hne]
  rw [some1, List.takeWhile_append_of_pos hrun, List.dropWhile_append_of_pos hrun,
    takeWhile_eq_nil_of_head hs, dropWhile_eq_self_of_head hs, List.append_nil]
  simp only [hempty, Bool.false_eq_true, if_false]

theorem optional_of_some {p : Scan α} {s rest : Text} {a : α} (h : p s = some (a, rest)) :
    Scan.optional p s = some (some a, rest) := by
  rw [Scan.optional, h]

theorem optional_of_none {p : Scan α} {s : Text} (h : p s = none) :
    Scan.optional p s = some (none, s) := by
  rw [Scan.optional, h]

/-! ## What a scanner that succeeded has read -/

/-- A run that was read is not empty and has only characters of the class. -/
theorem some1_eq_some {member : Char → Bool} {s run rest : Text}
    (h : some1 member s = some (run, rest)) : run ≠ [] ∧ ∀ c ∈ run, member c = true := by
  rw [some1] at h
  split at h
  next => cases h
  next hne =>
    cases h
    exact ⟨by simpa using hne, fun c hc => List.mem_takeWhile_imp hc⟩

/-- A run that was read stands at the front, and goes as far as the class does. -/
theorem some1_eq_some_iff {member : Char → Bool} {s run rest : Text} :
    some1 member s = some (run, rest) ↔ s = run ++ rest ∧ run ≠ [] ∧
      (∀ c ∈ run, member c = true) ∧ ∀ c ∈ rest.head?, member c = false := by
  constructor
  · intro h
    obtain ⟨hne, hrun⟩ := some1_eq_some h
    rw [some1] at h
    split at h
    next => cases h
    next =>
      cases h
      refine ⟨List.takeWhile_append_dropWhile.symm, hne, hrun, fun c hc => ?_⟩
      have hstop := List.head?_dropWhile_not member s
      rw [Option.mem_def.mp hc] at hstop
      exact hstop
  · rintro ⟨rfl, hne, hrun, hstop⟩
    exact some1_append hne hrun hstop

/-- A text that was read stands at the front. -/
theorem literal_eq_some {part s rest : Text} (h : literal part s = some ((), rest)) :
    s = part ++ rest := by
  rw [literal] at h
  split at h
  next hstart =>
    cases h
    exact List.prefix_iff_eq_append.mp (List.isPrefixOf_iff_prefix.mp hstart) |>.symm
  next => cases h

theorem prefix_of_literal_bind {part s rest : Text} {f : Unit → Scan β} {b : β}
    (h : (literal part >>= f) s = some (b, rest)) : part <+: s := by
  obtain ⟨_, middle, hpart, _⟩ := bind_eq_some.mp h
  exact ⟨middle, (literal_eq_some hpart).symm⟩

theorem many_eq_some {member : Char → Bool} {s run rest : Text}
    (h : many member s = some (run, rest)) : s = run ++ rest ∧ ∀ c ∈ run, member c = true := by
  cases h
  exact ⟨List.takeWhile_append_dropWhile.symm, fun c hc => List.mem_takeWhile_imp hc⟩

/-- What is read up to the end of a text. -/
theorem front_atEnd_eq_some_iff {p : Scan α} {s : Text} {a : α} :
    front (p <* atEnd) s = some a ↔ ∃ rest, p s = some (a, rest) ∧ (rest = [] ∨ rest = ['\n']) := by
  have hseq : (p <* atEnd) = (p >>= fun a => atEnd >>= fun _ => pure a) := rfl
  rw [front, hseq]
  constructor
  · intro h
    obtain ⟨⟨b, last⟩, hfound, rfl⟩ := Option.map_eq_some_iff.mp h
    obtain ⟨first, middle, hp, hrest⟩ := bind_eq_some.mp hfound
    obtain ⟨_, _, hend, hpure⟩ := bind_eq_some.mp hrest
    cases hpure
    rw [atEnd] at hend
    split at hend
    next hlast => exact ⟨middle, hp, hlast⟩
    next => cases hend
  · rintro ⟨rest, hp, hlast⟩
    rw [bind_apply, hp, Option.bind_some, bind_apply, atEnd, if_pos hlast]
    rfl

/-! ## Choice -/

theorem orElse_apply (p q : Scan α) (s : Text) : (p <|> q) s = (p s).or (q s) := by
  show (p s <|> q s) = _
  cases p s with
  | none => rfl
  | some found => rfl

/-! ## Runs of every length -/

theorem afterNone_zero (p : Scan α) (s : Text) :
    afterNone 0 p s = (p s).map fun found => (([], found.1), found.2) := rfl

/-- The shortest run ends at the first place behind which the scanner succeeds. -/
theorem shortest_append {p : Scan α} {run s rest : Text} {a : α} {least : Nat}
    (hbreak : '\n' ∉ run) (hleast : least ≤ run.length)
    (hearlier : ∀ front back, run = front ++ back → least ≤ front.length → back ≠ [] →
      p (back ++ s) = none)
    (h : p s = some (a, rest)) : shortest p least (run ++ s) = some ((run, a), rest) := by
  induction run generalizing least with
  | nil =>
      obtain rfl := Nat.le_zero.mp hleast
      cases s with
      | nil => rw [List.append_nil, shortest, afterNone_zero, h, Option.map_some]
      | cons c s => rw [List.nil_append, shortest, afterNone_zero, h, Option.map_some]
  | cons c run ih =>
      obtain ⟨hc, hbreak⟩ := not_or.mp (mt List.mem_cons.mpr hbreak)
      have hhere : afterNone least p (c :: (run ++ s)) = none := by
        rw [afterNone]
        split
        next hzero =>
          have hnone := hearlier [] (c :: run) rfl (by omega) (List.cons_ne_nil c run)
          rw [List.cons_append] at hnone
          rw [hnone, Option.map_none]
        next => rfl
      have hlater := @ih (least - 1) hbreak (by rw [List.length_cons] at hleast; omega)
        fun front back hsplit hlen hback =>
          hearlier (c :: front) back (by rw [hsplit, List.cons_append])
            (by rw [List.length_cons]; omega) hback
      rw [List.cons_append, shortest, hhere]
      simp only
      rw [if_neg (Ne.symm hc), hlater, Option.map_some, longer]

/-- A run without two given characters in a row is the shortest one before these two. -/
theorem shortest_literal {part run s rest : Text} {a b : Char} {f : Unit → Scan β} {x : β}
    {least : Nat} (hpart : part = [a, b]) (hne : a ≠ b) (hrun : ¬part <:+: run)
    (hbreak : '\n' ∉ run) (hleast : least ≤ run.length)
    (h : (literal part >>= f) (part ++ s) = some (x, rest)) :
    shortest (literal part >>= f) least (run ++ (part ++ s)) = some ((run, x), rest) := by
  subst hpart
  refine shortest_append hbreak hleast (fun front back hsplit _ hback => ?_) h
  refine Option.eq_none_iff_forall_ne_some.mpr fun found hfound => hrun ?_
  obtain ⟨y, last⟩ := found
  obtain ⟨later, hlater⟩ := prefix_of_literal_bind hfound
  rw [hsplit]
  cases back with
  | nil => exact absurd rfl hback
  | cons c back =>
      cases back with
      | nil =>
          -- The first of the two would have to be the second, too.
          cases hlater
          exact absurd rfl hne
      | cons d back =>
          cases hlater
          exact ⟨front, back, by rw [List.append_assoc]; rfl⟩

/-- The longest run is found if the scanner succeeds behind any run. -/
theorem isSome_longest_append {p : Scan α} {run s : Text} {least : Nat} (hbreak : '\n' ∉ run)
    (hleast : least ≤ run.length) (h : (p s).isSome) : (longest p least (run ++ s)).isSome := by
  induction run generalizing least with
  | nil =>
      obtain rfl := Nat.le_zero.mp hleast
      cases s with
      | nil => rw [List.append_nil, longest, afterNone_zero, Option.isSome_map, h]
      | cons c s =>
          rw [List.nil_append, longest]
          split
          next => rfl
          next => rw [afterNone_zero, Option.isSome_map, h]
  | cons c run ih =>
      obtain ⟨hc, hbreak⟩ := not_or.mp (mt List.mem_cons.mpr hbreak)
      have hlater := @ih (least - 1) hbreak (by rw [List.length_cons] at hleast; omega)
      obtain ⟨found, hfound⟩ := Option.isSome_iff_exists.mp hlater
      rw [List.cons_append, longest, if_neg (Ne.symm hc), hfound]
      rfl

/-- Behind the run that was found the scanner succeeds.  The run is on one line and long
enough. -/
theorem of_longest_eq_some {p : Scan α} {s rest : Text} {found : Text × α} {least : Nat}
    (h : longest p least s = some (found, rest)) :
    ∃ back, s = found.1 ++ back ∧ p back = some (found.2, rest) ∧ least ≤ found.1.length ∧
      '\n' ∉ found.1 := by
  have hnone {least : Nat} {s : Text} {found : Text × α}
      (h : afterNone least p s = some (found, rest)) :
      ∃ back, s = found.1 ++ back ∧ p back = some (found.2, rest) ∧ least ≤ found.1.length ∧
        '\n' ∉ found.1 := by
    rw [afterNone] at h
    split at h
    next hleast =>
      obtain ⟨⟨a, after⟩, hp, heq⟩ := Option.map_eq_some_iff.mp h
      cases heq
      exact ⟨s, rfl, hp, hleast.le, List.not_mem_nil⟩
    next => cases h
  induction s generalizing least found with
  | nil => exact hnone h
  | cons c s ih =>
      rw [longest] at h
      split at h
      next hlonger =>
        split at hlonger
        next => cases hlonger
        next hbreak =>
          cases h
          obtain ⟨⟨later, after⟩, hlater, heq⟩ := Option.map_eq_some_iff.mp hlonger
          cases heq
          obtain ⟨back, hsplit, hp, hleast, hline⟩ := ih hlater
          have hlonger : least ≤ later.1.length + 1 := by
            change least - 1 ≤ later.1.length at hleast
            omega
          exact ⟨back, congrArg (c :: ·) hsplit, hp, hlonger,
            List.not_mem_cons_of_ne_of_not_mem (Ne.symm hbreak) hline⟩
      next => exact hnone h

end Scan

end TlaRunner.Text
