import Mathlib.Data.List.Infix
import Mathlib.Data.List.TakeWhile
import TlaRunner.Console.Markup
import TlaRunner.Proofs.Result

/-!
# Texts that styled text shows as they are

A text can be given as styled text and still be shown as it is: if no character in it is dropped,
no tag starts anywhere in it, no bracket is escaped, and no code is replaced by a picture
(`Unstyled`).  Such a text is shown without marks (`ofMarkup_of_unstyled`), and no other text is
shown as it is (`ofMarkup_shows_iff`).

For the second part the signs are counted, that is the characters by which codes, tags and escapes
are known.  No step adds a sign.  A tag, an escape or a picture each takes one away, so what is
shown has fewer signs than what was given, whatever else may be shown in its place.
-/

namespace TlaRunner.Console

/-- An escaped bracket. -/
def escapedBracket : Text := ['\\', '[']

/-- Whether a text has nothing in it that styled text is read for. -/
structure Unstyled (s : Text) : Prop where
  /-- Every character is shown by something. -/
  shown : ∀ c ∈ s, isDropped c = false
  /-- No tag starts anywhere. -/
  untagged : ∀ rest, rest <:+ s → tag? rest = none
  /-- No bracket is escaped. -/
  unescaped : ¬ escapedBracket <:+: s
  /-- No code is replaced by a picture. -/
  unpictured : replacePictures s = s

/-! ## Signs -/

/-- The number of signs in a text. -/
def signs (s : Text) : Nat :=
  s.countP isSign

theorem signs_append (s t : Text) : signs (s ++ t) = signs s + signs t :=
  List.countP_append

theorem signs_cons_of_pos {c : Char} (h : isSign c = true) (s : Text) :
    signs (c :: s) = signs s + 1 :=
  List.countP_cons_of_pos h

theorem signs_le_cons (c : Char) (s : Text) : signs s ≤ signs (c :: s) :=
  (List.sublist_cons_self c s).countP_le

theorem signs_reverse (s : Text) : signs s.reverse = signs s :=
  List.countP_reverse

theorem signs_sanitize_le (s : Text) : signs (sanitize s) ≤ signs s :=
  List.filter_sublist.countP_le

theorem signs_eq_zero {s : Text} (h : ∀ c ∈ s, isSign c = false) : signs s = 0 :=
  List.countP_eq_zero.mpr fun c hc => by simp [h c hc]

/-! ## Pictures -/

/-- What stands for a code has no sign. -/
theorem signs_of_pictureOf? {code image : Text} (h : pictureOf? code = some image) :
    signs image = 0 := by
  have hpicture {name found : Text} (hfound : picture? name = some found) : signs found = 0 := by
    obtain ⟨picture, -, rfl⟩ := Option.map_eq_some_iff.mp hfound
    exact signs_eq_zero picture.hasNoSign
  rw [pictureOf?] at h
  split at h
  next ending selector hform =>
    obtain ⟨found, hfound, rfl⟩ := Option.map_eq_some_iff.mp h
    have hselector : isSign selector = false := by
      have hmem := List.mem_of_find?_eq_some hform
      simp only [forms, List.mem_cons, Prod.mk.injEq, List.not_mem_nil, or_false] at hmem
      rcases hmem with ⟨-, rfl⟩ | ⟨-, rfl⟩
      · rfl
      · rfl
    rw [signs_append, hpicture hfound, signs_eq_zero (s := [selector]) (by simp [hselector])]
  next => exact hpicture h

/-- A code between its colons. -/
theorem signs_code (code rest : Text) :
    signs (':' :: (code ++ ':' :: rest)) = signs code + signs rest + 2 := by
  rw [signs_cons_of_pos rfl, signs_append, signs_cons_of_pos rfl]
  rfl

/-- Whether a text is another one, or has fewer signs. -/
def Reduct (s t : Text) : Prop :=
  s = t ∨ signs s < signs t

theorem Reduct.le {s t : Text} (h : Reduct s t) : signs s ≤ signs t := by
  rcases h with rfl | hless
  · exact Nat.le_refl _
  · exact hless.le

theorem Reduct.eq_of_le {s t : Text} (h : Reduct s t) (hle : signs t ≤ signs s) : s = t :=
  h.resolve_right hle.not_gt

theorem Reduct.cons {s t : Text} (h : Reduct s t) (c : Char) : Reduct (c :: s) (c :: t) := by
  rcases h with rfl | hless
  · exact Or.inl rfl
  · right
    simp only [signs, List.countP_cons]
    exact Nat.add_lt_add_right hless _

/-- A picture takes the colons of its code away. -/
theorem Reduct.pictured {s t : Text} (h : Reduct s t) (code : Text) :
    Reduct ((pictureOf? code).getD (':' :: code ++ [':']) ++ s) (':' :: (code ++ ':' :: t)) := by
  cases hpicture : pictureOf? code with
  | none =>
      rw [Option.getD_none, List.append_assoc, List.cons_append, List.singleton_append]
      rcases h with rfl | hless
      · exact Or.inl rfl
      · right
        rw [signs_code, signs_code]
        omega
  | some image =>
      right
      have hle := h.le
      rw [Option.getD_some, signs_append, signs_of_pictureOf? hpicture, signs_code]
      omega

/-- A text in which no code is replaced is the only one that keeps all signs. -/
theorem reduct_replacePicturesFrom (skip : Nat) (s : Text) :
    Reduct (replacePicturesFrom skip s) (s.drop skip) := by
  induction s generalizing skip with
  | nil => exact Or.inl List.drop_nil.symm
  | cons c s ih =>
      have hkept : Reduct (c :: replacePicturesFrom 0 s) (c :: s) := (ih 0).cons c
      cases skip with
      | succ skip => exact ih skip
      | zero =>
          rw [replacePicturesFrom, List.drop_zero]
          split
          next hcolon =>
            simp only
            generalize hcode : s.takeWhile (fun d => d ≠ ':' && !Text.isBlank d) = code
            have hprefix : code <+: s := hcode ▸ List.takeWhile_prefix _
            split
            next rest hrest =>
              obtain rfl : s = code ++ ':' :: rest := by
                rw [← hrest]
                exact List.prefix_append_drop hprefix
              have hlater := ih (code.length + 1)
              rw [← List.drop_drop, List.drop_left, List.drop_one, List.tail_cons] at hlater
              rw [hcolon]
              exact hlater.pictured code
            next => exact hkept
          next => exact hkept

theorem reduct_replacePictures (s : Text) : Reduct (replacePictures s) s :=
  reduct_replacePicturesFrom 0 s

/-! ## Escapes -/

/-- Replacing a part that does not occur changes nothing. -/
theorem replaceFrom_of_not_infix {part replacement s : Text} (h : ¬ part <:+: s) :
    Text.replaceFrom part replacement 0 s = s := by
  induction s with
  | nil => rfl
  | cons c s ih =>
      rw [List.infix_cons_iff, not_or] at h
      have hstart : Text.startsWith part (c :: s) = false := by
        rw [Text.startsWith, ← Bool.not_eq_true, List.isPrefixOf_iff_prefix]
        exact h.1
      rw [Text.replaceFrom, if_neg (by simp [hstart]), ih h.2]

/-- An escape takes its backslash away, so a text without escapes is the only one that keeps all
signs. -/
theorem replaceFrom_escape_cases (skip : Nat) (s : Text) :
    (Text.replaceFrom escapedBracket ['['] skip s = s.drop skip ∧
        ¬ escapedBracket <:+: s.drop skip) ∨
      signs (Text.replaceFrom escapedBracket ['['] skip s) < signs (s.drop skip) := by
  induction s generalizing skip with
  | nil =>
      rw [List.drop_nil]
      exact Or.inl ⟨rfl, by decide⟩
  | cons c s ih =>
      cases skip with
      | succ skip => exact ih skip
      | zero =>
          rw [Text.replaceFrom, List.drop_zero]
          split
          next hstart =>
            rw [Text.startsWith, List.isPrefixOf_iff_prefix] at hstart
            obtain ⟨rest, hrest⟩ := hstart
            obtain ⟨rfl, rfl⟩ : '\\' = c ∧ '[' :: rest = s := List.cons_eq_cons.mp hrest
            have hlater : signs (Text.replaceFrom escapedBracket ['['] 1 ('[' :: rest)) ≤
                signs rest := by
              rcases ih 1 with ⟨hsame, -⟩ | hless
              · rw [hsame]
                exact Nat.le_refl _
              · exact hless.le
            right
            change signs ('[' :: Text.replaceFrom escapedBracket ['['] 1 ('[' :: rest)) < _
            rw [signs_cons_of_pos rfl, signs_cons_of_pos rfl, signs_cons_of_pos rfl]
            omega
          next hstart =>
            rw [Text.startsWith, List.isPrefixOf_iff_prefix] at hstart
            rcases ih 0 with ⟨hsame, hnone⟩ | hless
            · rw [hsame, List.drop_zero] at *
              exact Or.inl ⟨rfl, fun h => (List.infix_cons_iff.mp h).elim hstart hnone⟩
            · rw [List.drop_zero] at hless
              simp only [signs, List.countP_cons] at hless ⊢
              exact Or.inr (Nat.add_lt_add_right hless _)

theorem signs_replace_le (s : Text) :
    signs (Text.replace escapedBracket ['['] s) ≤ signs s := by
  rcases replaceFrom_escape_cases 0 s with ⟨hsame, -⟩ | hless
  · rw [Text.replace, hsame, List.drop_zero]
  · exact hless.le

theorem not_infix_of_signs {s : Text}
    (h : signs s ≤ signs (Text.replace escapedBracket ['['] s)) : ¬ escapedBracket <:+: s := by
  rcases replaceFrom_escape_cases 0 s with ⟨-, hnone⟩ | hless
  · exact hnone
  · exact absurd hless h.not_gt

/-! ## Tags -/

/-- A tag stands between its brackets. -/
theorem tag?_eq_some {s tag : Text} (h : tag? s = some tag) :
    ∃ rest, s = '[' :: (tag ++ ']' :: rest) := by
  unfold tag? at h
  split at h
  next c s =>
    split at h
    next hopens =>
      simp only at h
      split at h
      next rest hrest =>
        cases h
        refine ⟨rest, ?_⟩
        rw [List.cons_append, ← hrest]
        exact congrArg (fun t => '[' :: c :: t)
          (List.prefix_append_drop (List.takeWhile_prefix _))
      next => cases h
    next => cases h
  next => cases h

/-- The signs of what pieces show as it is. -/
def pieceSigns : List Piece → Nat
  | [] => 0
  | .plain s :: rest => signs s + pieceSigns rest
  | .tag _ _ :: rest => pieceSigns rest

theorem pieceSigns_append (pieces more : List Piece) :
    pieceSigns (pieces ++ more) = pieceSigns pieces + pieceSigns more := by
  induction pieces with
  | nil => exact (Nat.zero_add _).symm
  | cons piece pieces ih =>
      cases piece with
      | plain s => rw [List.cons_append, pieceSigns, pieceSigns, ih, Nat.add_assoc]
      | tag content position => exact ih

theorem pieceSigns_plainPiece (held : Text) : pieceSigns (plainPiece held) = signs held := by
  rw [plainPiece]
  split
  next hempty =>
    rw [List.isEmpty_iff.mp hempty]
    rfl
  next => exact signs_reverse held

/-- A text begins with as many signs as backslashes. -/
theorem signs_takeWhile_backslash (s : Text) :
    signs s = (s.takeWhile (· = '\\')).length +
      signs (s.drop (s.takeWhile (· = '\\')).length) := by
  have hall : signs (s.takeWhile (· = '\\')) = (s.takeWhile (· = '\\')).length := by
    refine List.countP_eq_length.mpr fun c hc => ?_
    have hback := List.mem_takeWhile_imp hc
    rw [of_decide_eq_true hback]
    rfl
  have hsplit := List.prefix_append_drop (List.takeWhile_prefix (l := s) (· = '\\'))
  conv_lhs => rw [hsplit, signs_append, hall]

/-- What a tag with backslashes before it leaves has fewer signs than both had. -/
theorem pieceSigns_tag_lt (slashes position : Nat) (held tag : Text) {after : Text}
    {more : List Piece}
    (hmore : pieceSigns more ≤ signs after) :
    pieceSigns (plainPiece held ++
        (if slashes < 2 then [] else [Piece.plain (Text.repeated (slashes / 2) '\\')]) ++
        (if slashes % 2 = 1 then Piece.plain ('[' :: tag ++ [']']) else .tag tag position) ::
          more) <
      signs held + (slashes + signs ('[' :: (tag ++ ']' :: after))) := by
  have hkept : pieceSigns
      (if slashes < 2 then [] else [Piece.plain (Text.repeated (slashes / 2) '\\')]) ≤
        slashes / 2 := by
    split
    next => exact Nat.zero_le _
    next =>
      have hlength := List.countP_le_length (p := isSign) (l := Text.repeated (slashes / 2) '\\')
      rw [Text.repeated, List.length_replicate] at hlength
      exact hlength
  generalize (if slashes < 2 then [] else [Piece.plain (Text.repeated (slashes / 2) '\\')]) = kept
    at hkept ⊢
  have hafter := signs_le_cons ']' after
  rw [pieceSigns_append, pieceSigns_append, pieceSigns_plainPiece, signs_cons_of_pos rfl,
    signs_append]
  split
  next hodd =>
    have hpiece : signs ('[' :: tag ++ [']']) = signs tag + 1 := by
      rw [List.cons_append, signs_cons_of_pos rfl, signs_append]
      rfl
    rw [pieceSigns, hpiece]
    omega
  next =>
    rw [pieceSigns]
    omega

/-- The backslashes before a tag are signs. -/
theorem signs_before_tag {c : Char} {s tagged : Text} {slashes : Nat}
    (hslashes : (if c = '\\' then ((c :: s).takeWhile (· = '\\')).length else 0) = slashes)
    (htagged : (c :: s).drop slashes = tagged) : signs (c :: s) = slashes + signs tagged := by
  rw [← htagged]
  by_cases hback : c = '\\'
  · rw [if_pos hback] at hslashes
    rw [← hslashes]
    exact signs_takeWhile_backslash (c :: s)
  · rw [if_neg hback] at hslashes
    rw [← hslashes, List.drop_zero, Nat.zero_add]

/-- Reading goes on behind the closing bracket of a tag. -/
theorem drop_behind_tag {c : Char} {s tag after : Text} {slashes : Nat}
    (htagged : (c :: s).drop slashes = '[' :: (tag ++ ']' :: after)) :
    s.drop (slashes + tag.length + 1) = after :=
  calc s.drop (slashes + tag.length + 1)
      = ((c :: s).drop slashes).drop (tag.length + 2) := by
        rw [List.drop_drop, ← Nat.add_assoc, List.drop_succ_cons]
    _ = (tag ++ ']' :: after).drop (tag.length + 1) := by rw [htagged, List.drop_succ_cons]
    _ = after := by rw [← List.drop_drop, List.drop_left, List.drop_one, List.tail_cons]

/-- Only a tag at the front counts, and tags later on. -/
theorem untagged_cons {c : Char} {s : Text} (hhere : tag? (c :: s) = none)
    (h : ∀ rest, rest <:+ s → tag? rest = none) : ∀ rest, rest <:+ c :: s → tag? rest = none := by
  intro rest hrest
  rcases List.suffix_cons_iff.mp hrest with rfl | hlater
  · exact hhere
  · exact h rest hlater

/-- A tag takes its bracket away, so a text without tags is the only one that keeps all signs. -/
theorem piecesFrom_cases (s : Text) (position skip : Nat) (held : Text) :
    pieceSigns (piecesFrom position skip held s) ≤ signs held + signs (s.drop skip) ∧
      (skip = 0 → (∀ rest, rest <:+ s → tag? rest = none) ∨
        pieceSigns (piecesFrom position skip held s) < signs held + signs s) := by
  induction s generalizing position skip held with
  | nil =>
      rw [List.drop_nil, piecesFrom, pieceSigns_plainPiece]
      refine ⟨Nat.le_refl _, fun _ => Or.inl fun rest hrest => ?_⟩
      rw [List.suffix_nil.mp hrest]
      rfl
  | cons c s ih =>
      cases skip with
      | succ skip => exact ⟨(ih (position + 1) skip held).1, fun h => by cases h⟩
      | zero =>
          rw [piecesFrom, List.drop_zero]
          simp only
          generalize hslashes :
            (if c = '\\' then ((c :: s).takeWhile (· = '\\')).length else 0) = slashes
          split
          next hnone =>
            have hheld : signs (c :: held) + signs s = signs held + signs (c :: s) := by
              simp only [signs, List.countP_cons]
              omega
            obtain ⟨hle, hlater⟩ := ih (position + 1) 0 (c :: held)
            rw [hheld] at hlater
            rw [List.drop_zero, hheld] at hle
            refine ⟨hle, fun _ => (hlater rfl).imp_left (untagged_cons ?_)⟩
            by_cases hback : c = '\\'
            · rw [hback]
              rfl
            · rw [if_neg hback] at hslashes
              rwa [← hslashes] at hnone
          next tag htag =>
            obtain ⟨after, hafter⟩ := tag?_eq_some htag
            have hsigns := signs_before_tag hslashes hafter
            have hmore := (ih (position + 1) (slashes + tag.length + 1) []).1
            rw [drop_behind_tag hafter] at hmore
            have hlt := pieceSigns_tag_lt slashes (position + slashes) held tag
              (hmore.trans (Nat.zero_add _).le)
            rw [hsigns]
            exact ⟨hlt.le, fun _ => Or.inr hlt⟩

theorem piecesFrom_of_untagged {s : Text} (h : ∀ rest, rest <:+ s → tag? rest = none)
    (position : Nat) (held : Text) :
    piecesFrom position 0 held s = plainPiece (s.reverse ++ held) := by
  induction s generalizing position held with
  | nil => rfl
  | cons c s ih =>
      have hnone (n : Nat) : tag? ((c :: s).drop n) = none := h _ (List.drop_suffix n _)
      rw [piecesFrom]
      simp only [hnone]
      rw [ih (fun rest hrest => h rest (hrest.trans (List.suffix_cons c s))), List.reverse_cons,
        List.append_assoc, List.singleton_append]

/-! ## What is shown -/

theorem signs_shownText_le (s : Text) : signs (shownText s) ≤ signs s :=
  (signs_sanitize_le _).trans (reduct_replacePictures s).le

/-- A tag shows nothing, whatever it opens or closes. -/
theorem drawFrom_tag {tags : List OpenTag} {marks : List Mark} {shown content : Text}
    {size position : Nat} {rest : List Piece} {m : Marked}
    (h : drawFrom tags marks shown size (.tag content position :: rest) = .ok m) :
    ∃ tags marks, drawFrom tags marks shown size rest = .ok m := by
  unfold drawFrom at h
  split at h
  next name parameters hsplit =>
    simp only [bind] at h
    split at h
    next =>
      split at h
      next => cases h
      next tag tags =>
        obtain ⟨mark, -, hrest⟩ := bind_eq_ok_iff.mp h
        exact ⟨_, _, hrest⟩
    next =>
      obtain ⟨style, -, hstyle⟩ := bind_eq_ok_iff.mp h
      split at hstyle
      next => cases hstyle
      next tag tags _ =>
        obtain ⟨mark, -, hrest⟩ := bind_eq_ok_iff.mp hstyle
        exact ⟨_, _, hrest⟩
  next name parameters hname hsplit =>
    obtain ⟨style, -, hrest⟩ := bind_eq_ok_iff.mp h
    exact ⟨_, _, hrest⟩

/-- What pieces show has no more signs than the pieces. -/
theorem signs_drawFrom_le {tags : List OpenTag} {marks : List Mark} {shown : Text} {size : Nat}
    {pieces : List Piece} {m : Marked} (h : drawFrom tags marks shown size pieces = .ok m) :
    signs m.text ≤ signs shown + pieceSigns pieces := by
  induction pieces generalizing tags marks shown size with
  | nil =>
      cases h
      exact (signs_reverse shown).le
  | cons piece rest ih =>
      cases piece with
      | plain s =>
          have hlater := ih h
          have hplain : signs (shownText (Text.replace "\\[".toList ['['] s)) ≤ signs s :=
            (signs_shownText_le _).trans (signs_replace_le s)
          rw [signs_append, signs_reverse] at hlater
          rw [pieceSigns]
          omega
      | tag content position =>
          obtain ⟨tags, marks, hrest⟩ := drawFrom_tag h
          exact ih hrest

theorem tag?_of_not_mem {s rest : Text} (hbracket : '[' ∉ s) (hrest : rest <:+ s) :
    tag? rest = none := by
  cases htag : tag? rest with
  | none => rfl
  | some tag =>
      obtain ⟨after, rfl⟩ := tag?_eq_some htag
      exact absurd (hrest.mem List.mem_cons_self) hbracket

/-- Without tags there is only one piece, and no mark. -/
theorem ofMarkup_of_untagged {s : Text} (h : ∀ rest, rest <:+ s → tag? rest = none) :
    Marked.ofMarkup s = .ok (.plain (shownText (Text.replace escapedBracket ['['] s))) := by
  rw [Marked.ofMarkup]
  split
  next hbracket =>
    have hne : s ≠ [] := by
      rintro rfl
      cases hbracket
    have hpieces : piecesOf s = [.plain s] := by
      rw [piecesOf, piecesFrom_of_untagged h, List.append_nil, plainPiece, List.reverse_reverse,
        if_neg (by simpa using hne)]
    rw [hpieces, drawFrom, drawFrom]
    simp only [List.reverse_nil, List.map_nil, List.append_nil, List.mergeSort_nil,
      List.reverse_reverse]
    rfl
  next hbracket =>
    have hnone : ¬ escapedBracket <:+: s := fun hescape => hbracket (by
      simpa using hescape.mem (List.mem_cons_of_mem '\\' List.mem_cons_self))
    rw [Text.replace, replaceFrom_of_not_infix hnone]

/-- A text without anything that styled text is read for is shown as it is, without marks. -/
theorem ofMarkup_of_unstyled {s : Text} (h : Unstyled s) : Marked.ofMarkup s = .ok (.plain s) := by
  have hreplace : Text.replace escapedBracket ['['] s = s := replaceFrom_of_not_infix h.unescaped
  have hsanitize : sanitize s = s :=
    List.filter_eq_self.mpr fun c hc => by rw [h.shown c hc]; rfl
  rw [ofMarkup_of_untagged h.untagged, hreplace, shownText, h.unpictured, hsanitize]

/-- A text that is shown as it is has no tag: a tag would have taken a sign away. -/
theorem untagged_of_ofMarkup {s : Text} {m : Marked} (h : Marked.ofMarkup s = .ok m)
    (htext : m.text = s) : ∀ rest, rest <:+ s → tag? rest = none := by
  by_cases hbracket : '[' ∈ s
  · rw [Marked.ofMarkup, if_pos (by simpa using hbracket)] at h
    have hle : signs m.text ≤ 0 + pieceSigns (piecesFrom 0 0 [] s) := signs_drawFrom_le h
    have hcases : _ ∨ pieceSigns (piecesFrom 0 0 [] s) < 0 + signs s :=
      (piecesFrom_cases s 0 0 []).2 rfl
    rw [htext, Nat.zero_add] at hle
    rw [Nat.zero_add] at hcases
    exact hcases.resolve_right hle.not_gt
  · exact fun rest => tag?_of_not_mem hbracket

/-- The texts that are shown as they are. -/
theorem ofMarkup_shows_iff {s : Text} :
    (∃ m, Marked.ofMarkup s = .ok m ∧ m.text = s) ↔ Unstyled s := by
  refine ⟨fun ⟨m, hmarkup, htext⟩ => ?_, fun h => ⟨.plain s, ofMarkup_of_unstyled h, rfl⟩⟩
  have huntagged := untagged_of_ofMarkup hmarkup htext
  rw [ofMarkup_of_untagged huntagged] at hmarkup
  obtain rfl := Except.ok.inj hmarkup
  have hshown : shownText (Text.replace escapedBracket ['['] s) = s := htext
  -- Each stage keeps all signs, since none adds any.
  have hescapes : ¬ escapedBracket <:+: s := not_infix_of_signs (by
    conv_lhs => rw [← hshown]
    exact signs_shownText_le _)
  rw [Text.replace, replaceFrom_of_not_infix hescapes] at hshown
  have hpictures : replacePictures s = s := (reduct_replacePictures s).eq_of_le (by
    conv_lhs => rw [← hshown]
    exact signs_sanitize_le _)
  rw [shownText, hpictures] at hshown
  refine ⟨fun c hc => ?_, huntagged, hescapes, hpictures⟩
  simpa using List.filter_eq_self.mp hshown c hc

/-- Whether a character is shown as it is in every text. -/
def isTame (c : Char) : Bool :=
  !isSign c && !isDropped c

/-- A text of such characters is shown as it is. -/
theorem unstyled_of_tame {s : Text} (h : ∀ c ∈ s, isTame c = true) : Unstyled s := by
  have hboth (c : Char) (hc : c ∈ s) : isSign c = false ∧ isDropped c = false := by
    simpa [isTame] using h c hc
  have hbracket : '[' ∉ s := fun hmem => by cases (hboth _ hmem).1
  have hpictures : signs s ≤ signs (replacePictures s) := by
    rw [signs_eq_zero fun c hc => (hboth c hc).1]
    exact Nat.zero_le _
  exact ⟨fun c hc => (hboth c hc).2, fun rest => tag?_of_not_mem hbracket,
    fun hescape => hbracket (hescape.mem (List.mem_cons_of_mem '\\' List.mem_cons_self)),
    (reduct_replacePictures s).eq_of_le hpictures⟩

end TlaRunner.Console
