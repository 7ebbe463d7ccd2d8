import TlaRunner.Arguments.Quoting

/-!
# Where option strings are cut

A character moves the splitter to another place and may end a token (`splitFrom_cons`).  A gap
is a run of separators.  Between tokens it is passed over, and behind a token it ends the token.
So what can be split is split on its own, whatever follows a gap behind it
(`splitFrom_append`).

Which quote is open depends on the characters alone and not on the tokens (`mark?_after`), and
a quote that is open at the end is the one way to fail (`splitFrom_eq_none_iff`).

A token between single quotes is read back, whatever its characters are
(`splitFrom_singleQuoted`).  All but the single quote stand for themselves there, and a single
quote is put between double ones.
-/

namespace TlaRunner.Arguments

/-! ## One character -/

/-- The place behind one more character. -/
def Place.after : Place → Char → Place
  | .between, c => if isSeparator c then .between else if isQuote c then .quote c [] else .token [c]
  | .token held, c =>
    if isSeparator c then .between else if isQuote c then .quote c held else .token (c :: held)
  | .quote mark held, c => if c = mark then .token held else .quote mark (c :: held)

/-- The token that a character ends, if it ends one. -/
def Place.ended : Place → Char → List Text
  | .between, _ => []
  | .token held, c => if isSeparator c then [held.reverse] else []
  | .quote _ _, _ => []

/-- The characters are read one after the other. -/
theorem splitFrom_cons (place : Place) (c : Char) (s : Text) :
    splitFrom place (c :: s) = (splitFrom (place.after c) s).map (place.ended c ++ ·) := by
  cases place with
  | between =>
      rw [splitFrom, Place.after, Place.ended]
      split
      · exact Option.map_id'.symm
      · split
        · exact Option.map_id'.symm
        · exact Option.map_id'.symm
  | token held =>
      rw [splitFrom, Place.after, Place.ended]
      split
      · rfl
      · split
        · exact Option.map_id'.symm
        · exact Option.map_id'.symm
  | quote mark held =>
      rw [splitFrom, Place.after, Place.ended]
      split
      · exact Option.map_id'.symm
      · exact Option.map_id'.symm

/-! ## Gaps -/

/-- A run of separators, which may be empty. -/
def IsGap (s : Text) : Prop :=
  ∀ c ∈ s, isSeparator c = true

instance (s : Text) : Decidable (IsGap s) :=
  decidable_of_iff (s.all isSeparator = true) List.all_eq_true

variable {gap : Text}

/-- Between tokens a gap is passed over. -/
theorem splitFrom_gap (hgap : IsGap gap) (s : Text) :
    splitFrom .between (gap ++ s) = splitFrom .between s := by
  induction gap with
  | nil => rfl
  | cons c gap ih =>
      obtain ⟨hc, hgap⟩ := List.forall_mem_cons.mp hgap
      rw [List.cons_append, splitFrom, if_pos hc]
      exact ih hgap

/-- Behind a token a gap ends it. -/
theorem splitFrom_token_gap (hgap : IsGap gap) (hne : gap ≠ []) (held s : Text) :
    splitFrom (.token held) (gap ++ s) =
      (splitFrom .between s).map (held.reverse :: ·) := by
  obtain ⟨c, rest, rfl⟩ := List.exists_cons_of_ne_nil hne
  obtain ⟨hc, hrest⟩ := List.forall_mem_cons.mp hgap
  rw [List.cons_append, splitFrom, if_pos hc, splitFrom_gap hrest]

/-- What can be split is split on its own, whatever follows a gap behind it. -/
theorem splitFrom_append (hgap : IsGap gap) (hne : gap ≠ []) {place : Place} {a : Text}
    {tokens : List Text} (h : splitFrom place a = some tokens) (b : Text) :
    splitFrom place (a ++ (gap ++ b)) = (splitFrom .between b).map (tokens ++ ·) := by
  induction a generalizing place tokens with
  | nil =>
      rw [List.nil_append]
      cases place with
      | between =>
          cases h
          rw [splitFrom_gap hgap]
          exact Option.map_id'.symm
      | token held =>
          cases h
          exact splitFrom_token_gap hgap hne held b
      | quote mark held => cases h
  | cons c a ih =>
      rw [splitFrom_cons] at h
      obtain ⟨later, hlater, rfl⟩ := Option.map_eq_some_iff.mp h
      rw [List.cons_append, splitFrom_cons, ih hlater, Option.map_map]
      exact congrArg (Option.map · _) (funext fun more => (List.append_assoc _ _ more).symm)

/-! ## Open quotes -/

/-- The open quote behind one more character. -/
def quoteAfter : Option Char → Char → Option Char
  | none, c => if isQuote c then some c else none
  | some mark, c => if c = mark then none else some mark

/-- The quote that is open behind a text. -/
def openQuote? (s : Text) : Option Char :=
  s.foldl quoteAfter none

/-- The quote that is open at a place. -/
def Place.mark? : Place → Option Char
  | .between => none
  | .token _ => none
  | .quote mark _ => some mark

theorem isQuote_of_isSeparator {c : Char} (h : isSeparator c = true) : isQuote c = false := by
  simp only [isSeparator, Bool.or_eq_true, decide_eq_true_eq] at h
  rcases h with ((rfl | rfl) | rfl) | rfl
  · rfl
  · rfl
  · rfl
  · rfl

theorem mark?_after (place : Place) (c : Char) :
    (place.after c).mark? = quoteAfter place.mark? c := by
  cases place with
  | between =>
      rw [Place.after, Place.mark?, quoteAfter]
      split
      next hc => rw [isQuote_of_isSeparator hc]; rfl
      next => split <;> rfl
  | token held =>
      rw [Place.after, Place.mark?, quoteAfter]
      split
      next hc => rw [isQuote_of_isSeparator hc]; rfl
      next => split <;> rfl
  | quote mark held =>
      rw [Place.after, Place.mark?, quoteAfter]
      split <;> rfl

/-- Nothing is split exactly if a quote is open at the end. -/
theorem splitFrom_eq_none_iff (place : Place) (s : Text) :
    splitFrom place s = none ↔ (s.foldl quoteAfter place.mark?).isSome := by
  induction s generalizing place with
  | nil =>
      cases place with
      | between => simp [splitFrom, Place.mark?]
      | token held => simp [splitFrom, Place.mark?]
      | quote mark held => simp [splitFrom, Place.mark?]
  | cons c s ih => rw [splitFrom_cons, Option.map_eq_none_iff, ih, List.foldl_cons, mark?_after]

/-! ## Option strings -/

/-- Whether an option string can be split. -/
def Splits (options : Text) : Prop :=
  ∃ tokens, split options = .ok tokens

variable {options : Text} {tokens : List Text}

theorem split_eq_ok_iff :
    split options = .ok tokens ↔ splitFrom .between options = some tokens := by
  rw [split]
  cases splitFrom .between options with
  | none => simp
  | some found => simp

theorem split_eq_error_iff {error : OpenQuote} :
    split options = .error error ↔ splitFrom .between options = none ∧ error = ⟨options⟩ := by
  rw [split]
  cases splitFrom .between options with
  | none => simp [eq_comm]
  | some found => simp

/-- An option string that cannot be split is what its error shows. -/
theorem split_of_not_splits (h : ¬Splits options) : split options = .error ⟨options⟩ := by
  cases hsplit : split options with
  | ok tokens => exact absurd ⟨tokens, hsplit⟩ h
  | error error => rw [(split_eq_error_iff.mp hsplit).2]

/-- An option string can be split exactly if no quote is open at its end. -/
theorem splits_iff : Splits options ↔ openQuote? options = none := by
  have hsome : Splits options ↔ splitFrom .between options ≠ none := by
    simp only [Splits, split_eq_ok_iff, Option.ne_none_iff_exists']
  rw [hsome, Ne, splitFrom_eq_none_iff, Option.not_isSome_iff_eq_none]
  rfl

instance (options : Text) : Decidable (Splits options) :=
  decidable_of_iff _ splits_iff.symm

/-- What stands behind a gap is split on its own. -/
theorem split_append (h : split options = .ok tokens) (hgap : IsGap gap) (hne : gap ≠ [])
    (later : Text) :
    split (options ++ gap ++ later) = match split later with
      | .ok more => .ok (tokens ++ more)
      | .error _ => .error ⟨options ++ gap ++ later⟩ := by
  have happend := splitFrom_append hgap hne (split_eq_ok_iff.mp h) later
  rw [← List.append_assoc] at happend
  cases hlater : split later with
  | ok more =>
      rw [split_eq_ok_iff.mp hlater] at happend
      exact split_eq_ok_iff.mpr happend
  | error error =>
      rw [(split_eq_error_iff.mp hlater).1] at happend
      exact split_eq_error_iff.mpr ⟨happend, rfl⟩

/-! ## Several option strings -/

variable {values : List Text}

theorem splitAll_cons_of_ok (h : split options = .ok tokens) (values : List Text) :
    splitAll (options :: values) = (splitAll values).map (tokens ++ ·) := by
  rw [splitAll, h]
  cases splitAll values with
  | ok more => rfl
  | error error => rfl

/-- Option strings that can be split are split as one, with a blank between them. -/
theorem splitAll_join (h : ∀ options ∈ values, Splits options) :
    ∃ tokens, splitAll values = .ok tokens ∧ split (Text.join [' '] values) = .ok tokens := by
  induction values with
  | nil => exact ⟨[], rfl, rfl⟩
  | cons options rest ih =>
      obtain ⟨⟨tokens, htokens⟩, hrest⟩ := List.forall_mem_cons.mp h
      obtain ⟨more, hmore, hjoin⟩ := ih hrest
      refine ⟨tokens ++ more, by rw [splitAll_cons_of_ok htokens, hmore]; rfl, ?_⟩
      cases rest with
      | nil =>
          cases hmore
          rw [Text.join, List.intercalate_singleton, htokens, List.append_nil]
      | cons next rest =>
          have hcons : Text.join [' '] (options :: next :: rest) =
              options ++ [' '] ++ Text.join [' '] (next :: rest) := by
            rw [Text.join, Text.join, List.intercalate_cons_cons, List.append_assoc]
          rw [hcons, split_append htokens (by decide) (by decide), hjoin]

/-- The first option string that cannot be split is what the error shows. -/
theorem splitAll_of_not_splits {before after : List Text} (hbefore : ∀ o ∈ before, Splits o)
    (h : ¬Splits options) : splitAll (before ++ options :: after) = .error ⟨options⟩ := by
  induction before with
  | nil =>
      rw [List.nil_append, splitAll, split_of_not_splits h]
      rfl
  | cons first before ih =>
      obtain ⟨⟨tokens, htokens⟩, hbefore⟩ := List.forall_mem_cons.mp hbefore
      rw [List.cons_append, splitAll_cons_of_ok htokens, ih hbefore]
      rfl

/-- Where some option string cannot be split, the first of them is what the error shows. -/
theorem splitAll_refused (h : ∃ options ∈ values, ¬Splits options) :
    ∃ before options after, values = before ++ options :: after ∧ (∀ o ∈ before, Splits o) ∧
      ¬Splits options ∧ splitAll values = .error ⟨options⟩ := by
  obtain ⟨options, hfind⟩ :
      ∃ options, values.find? (fun o => !decide (Splits o)) = some options := by
    rw [← Option.isSome_iff_exists, List.find?_isSome]
    simpa using h
  obtain ⟨hrefused, before, after, rfl, hbefore⟩ := List.find?_eq_some_iff_append.mp hfind
  have hrefused : ¬Splits options := by simpa using hrefused
  have hbefore : ∀ o ∈ before, Splits o := fun o ho => by simpa using hbefore o ho
  exact ⟨before, options, after, rfl, hbefore, hrefused, splitAll_of_not_splits hbefore hrefused⟩

/-- What stands behind a gap is split on its own, and can be split exactly if the whole can.
An option string cannot be split exactly if a quote is open at its end.  So several option
strings that can be split are split as one with blanks between them, and else the first that
cannot be split is refused. -/
theorem split_at_gaps :
    (∀ {a gap : Text} {first : List Text}, split a = .ok first → IsGap gap → gap ≠ [] →
      ∀ b, (Splits (a ++ gap ++ b) ↔ Splits b) ∧
        ∀ later, split b = .ok later → split (a ++ gap ++ b) = .ok (first ++ later)) ∧
    (∀ options, (Splits options ↔ openQuote? options = none) ∧
      (split options = .error ⟨options⟩ ↔ (openQuote? options).isSome)) ∧
    ∀ values : List Text,
      ((∀ options ∈ values, Splits options) →
        splitAll values = split (Text.join [' '] values)) ∧
      ((∃ options ∈ values, ¬Splits options) →
        ∃ before options after, values = before ++ options :: after ∧
          (∀ o ∈ before, Splits o) ∧ ¬Splits options ∧ splitAll values = .error ⟨options⟩) := by
  refine ⟨fun ha hgap hne b => ?_, fun options => ?_, fun values => ⟨fun h => ?_, splitAll_refused⟩⟩
  · have happend := split_append ha hgap hne b
    cases hb : split b with
    | ok later =>
        rw [hb] at happend
        refine ⟨⟨fun _ => ⟨later, hb⟩, fun _ => ⟨_, happend⟩⟩, fun more hmore => ?_⟩
        cases hmore
        exact happend
    | error error =>
        rw [hb] at happend
        refine ⟨⟨fun ⟨_, h⟩ => ?_, fun ⟨_, h⟩ => ?_⟩, fun more hmore => by cases hmore⟩
        · rw [happend] at h
          cases h
        · rw [hb] at h
          cases h
  · refine ⟨splits_iff, ?_⟩
    rw [split_eq_error_iff, splitFrom_eq_none_iff]
    exact and_iff_left rfl
  · obtain ⟨tokens, hall, hjoin⟩ := splitAll_join h
    rw [hall, hjoin]

/-- A gap in quotes is none, and a quote of the other kind stays open. -/
theorem split_at_gaps_quoted :
    let a := "-x 'a b'".toList
    let b := "\"c'\"d".toList
    split (a ++ [' ', '\t'] ++ b) = .ok ["-x".toList, "a b".toList, "c'd".toList] ∧
      split "-y \"z'".toList = .error ⟨"-y \"z'".toList⟩ ∧
      splitAll [a, b] = split (a ++ [' '] ++ b) ∧
      splitAll [a, "-y \"z'".toList, b] = .error ⟨"-y \"z'".toList⟩ := by
  intro a b
  obtain ⟨happend, hopen, hall⟩ := split_at_gaps
  have ha : split a = .ok ["-x".toList, "a b".toList] := rfl
  have hb : split b = .ok ["c'd".toList] := rfl
  have hgap : IsGap [' ', '\t'] := by decide
  refine ⟨(happend ha hgap (by decide) b).2 _ hb, (hopen _).2.mpr (by decide),
    (hall [a, b]).1 (by decide), ?_⟩
  obtain ⟨before, options, after, hvalues, hbefore, hrefused, herror⟩ :=
    (hall [a, "-y \"z'".toList, b]).2 (by decide)
  have hmem : options ∈ [a, "-y \"z'".toList, b] := by
    rw [hvalues]
    exact List.mem_append_right before List.mem_cons_self
  rw [herror]
  simp only [List.mem_cons, List.not_mem_nil, or_false] at hmem
  rcases hmem with rfl | rfl | rfl
  · exact absurd ⟨_, ha⟩ hrefused
  · rfl
  · exact absurd ⟨_, hb⟩ hrefused

/-! ## Tokens between quotes -/

/-- A token between single quotes.  A single quote in it stands between double ones. -/
def singleQuoted (token : Text) : Text :=
  ['\''] ++ (token.flatMap fun c => if c = '\'' then "'\"'\"'".toList else [c]) ++ ['\'']

example : singleQuoted "a'b".toList = "'a'\"'\"'b'".toList := by decide

/-- Up to the last quote the token is read. -/
theorem splitFrom_quoted (token held s : Text) :
    splitFrom (.quote '\'' held)
        ((token.flatMap fun c => if c = '\'' then "'\"'\"'".toList else [c]) ++ s) =
      splitFrom (.quote '\'' (token.reverse ++ held)) s := by
  induction token generalizing held with
  | nil => rfl
  | cons c token ih =>
      have hheld : (c :: token).reverse ++ held = token.reverse ++ c :: held := by
        rw [List.reverse_cons, List.append_assoc, List.singleton_append]
      rw [List.flatMap_cons, List.append_assoc, hheld, ← ih]
      split
      next hc =>
        -- The single quotes are closed, and opened again behind the double ones.
        rw [hc]
        rfl
      next hc => rw [List.singleton_append, splitFrom, if_neg hc]

/-- A token between single quotes is read back. -/
theorem splitFrom_singleQuoted (token s : Text) :
    splitFrom .between (singleQuoted token ++ s) = splitFrom (.token token.reverse) s := by
  have hread := splitFrom_quoted token [] (['\''] ++ s)
  rw [List.append_nil] at hread
  rw [singleQuoted, List.append_assoc, List.append_assoc]
  exact hread

/-- A token and the gap before it. -/
structure Spaced where
  /-- The gap. -/
  gap : Text
  /-- The token. -/
  token : Text
  /-- The gap is a run of separators. -/
  isGap : IsGap gap

/-- Tokens between single quotes, each behind its gap. -/
def written (pieces : List Spaced) : Text :=
  pieces.flatMap fun p => p.gap ++ singleQuoted p.token

theorem written_cons (p : Spaced) (rest : List Spaced) (s : Text) :
    written (p :: rest) ++ s = p.gap ++ (singleQuoted p.token ++ (written rest ++ s)) := by
  rw [written, List.flatMap_cons, ← written, List.append_assoc, List.append_assoc]

variable {pieces : List Spaced} {last : Text}

/-- Behind a token the tokens with gaps before them are read back. -/
theorem splitFrom_written (hparted : ∀ p ∈ pieces, p.gap ≠ []) (hlast : IsGap last) (held : Text) :
    splitFrom (.token held) (written pieces ++ last) =
      some (held.reverse :: pieces.map Spaced.token) := by
  induction pieces generalizing held with
  | nil =>
      by_cases hne : last = []
      · rw [hne]
        rfl
      · have hend := splitFrom_token_gap hlast hne held []
        rw [List.append_nil] at hend
        exact hend
  | cons p rest ih =>
      obtain ⟨hp, hrest⟩ := List.forall_mem_cons.mp hparted
      rw [written_cons, splitFrom_token_gap p.isGap hp, splitFrom_singleQuoted, ih hrest,
        List.reverse_reverse]
      rfl

/-- Tokens of any characters that are written between single quotes, with gaps between them and
perhaps before and behind them, are what the option string is split into. -/
theorem split_written (hparted : ∀ p ∈ pieces.tail, p.gap ≠ []) (hlast : IsGap last) :
    split (written pieces ++ last) = .ok (pieces.map Spaced.token) := by
  rw [split_eq_ok_iff]
  cases pieces with
  | nil =>
      have hgap := splitFrom_gap hlast []
      rw [List.append_nil] at hgap
      exact hgap
  | cons p rest =>
      have hrest : ∀ p ∈ rest, p.gap ≠ [] := hparted
      rw [written_cons, splitFrom_gap p.isGap, splitFrom_singleQuoted,
        splitFrom_written hrest hlast, List.reverse_reverse]
      rfl

/-- Tokens that are empty or have blanks, quotes and a backslash in them. -/
def awkward : List Spaced :=
  [⟨['\t'], [], by decide⟩, ⟨[' '], "a 'b' \"c".toList, by decide⟩, ⟨['\r', '\n'], [], by decide⟩,
    ⟨[' '], "#\\'".toList, by decide⟩]

theorem split_written_awkward :
    split (written awkward ++ [' ']) = .ok [[], "a 'b' \"c".toList, [], "#\\'".toList] := by
  have hparted : ∀ p ∈ awkward.tail, p.gap ≠ [] := by decide
  exact split_written hparted (by decide)

end TlaRunner.Arguments
