import TlaRunner.Proofs.Protocol.Delivery
import TlaRunner.Proofs.Text.Erasure

/-!
# Markers inside shown lines

Lines that are shown lose the texts of markers inside them (`MarkerText`).  All of these are taken
out at once, from left to right, so none of the line is left; but what stood on either side of one
is joined, and may then be the text of a marker itself.

A line `Rejoins` if its gaps do that.  Markers are shown of just these lines, and cleaning what is
shown once more changes just that of these lines (`Session.echoes_unmarked_iff`).  Such a line has
the fences of two markers at least.
-/

namespace TlaRunner.Protocol

open Text (Scan IsNumeral Occurs Astride Cut)

/-- A text that counts as a marker inside a line: an end marker may have a class, too. -/
inductive MarkerText : Text → Prop
  /-- A fence, the kind, a numeral with or without a class, and a fence; blanks around the
  numbers. -/
  | intro {kind front code subCode back : Text}
      (hkind : kind = "START".toList ∨ kind = "END".toList)
      (hfront : ∀ c ∈ front, Text.isBlank c = true) (hcode : IsNumeral code)
      (hsubCode : subCode = [] ∨ ∃ digits, IsNumeral digits ∧ subCode = ':' :: digits)
      (hback : ∀ c ∈ back, Text.isBlank c = true) :
      MarkerText
        (fence ++ (kind ++ ("MSG".toList ++ (front ++ (code ++ (subCode ++ (back ++ fence)))))))

/-- Whether there is the text of a marker in a line. -/
abbrev Marked (s : Text) : Prop :=
  Occurs MarkerText s

/-- Whether taking the markers out of a line joins parts of its gaps to the text of a marker. -/
def Rejoins (line : Text) : Prop :=
  ∃ gaps, Cut MarkerText line gaps ∧ Astride MarkerText gaps

/-! ## Reading markers -/

/-- A class, if there is one, is a colon and a numeral. -/
theorem exists_classForm_iff {subCode : Text} :
    (subCode = [] ∨ ∃ digits, IsNumeral digits ∧ subCode = ':' :: digits) ↔
      ∃ found, subCode = classForm found ∧ ∀ digits ∈ found, IsNumeral digits := by
  constructor
  · rintro (rfl | ⟨digits, hdigits, rfl⟩)
    · exact ⟨none, rfl, fun _ hnone => by cases hnone⟩
    · exact ⟨some digits, rfl, fun other hother => by cases hother; exact hdigits⟩
  · rintro ⟨found, rfl, hfound⟩
    cases found with
    | none => exact Or.inl rfl
    | some digits => exact Or.inr ⟨digits, hfound digits rfl, rfl⟩

/-- The text of a marker is read where it stands. -/
theorem anyMarker_append {part : Text} (hpart : MarkerText part) (rest : Text) :
    anyMarker (part ++ rest) = some ((), rest) := by
  obtain ⟨hkind, hfront, hcode, hsubCode, hback⟩ := hpart
  rename_i kind front code subCode back
  have hchoice (s : Text) :
      (Scan.literal "START".toList <|> Scan.literal "END".toList) (kind ++ s) = some ((), s) := by
    rw [Scan.orElse_apply]
    rcases hkind with rfl | rfl
    · rw [Scan.literal_append]
      rfl
    · have hother : Scan.literal "START".toList ("END".toList ++ s) = none := rfl
      rw [hother, Scan.literal_append]
      rfl
  obtain ⟨found, rfl, hfound⟩ := exists_classForm_iff.mp hsubCode
  have hdigits := Scan.digits_eq_some_iff.mpr ⟨rfl, hcode, isDigit_head?_class found hback rest⟩
  simp only [List.append_assoc]
  rw [anyMarker, Scan.bind_apply, Scan.literal_append, Option.bind_some, Scan.bind_apply, hchoice,
    Option.bind_some, Scan.bind_apply, Scan.literal_append, Option.bind_some, Scan.bind_apply,
    Scan.many_append hfront (head?_numeral hcode _), Option.bind_some, Scan.bind_apply, hdigits,
    Option.bind_some, Scan.bind_apply, optional_classDigits_append hfound hback, Option.bind_some,
    Scan.bind_apply, Scan.many_append hback (head?_fence rest), Option.bind_some,
    Scan.literal_append]

/-- What is read as a marker is the text of one. -/
theorem of_anyMarker {s rest : Text} (h : anyMarker s = some ((), rest)) :
    ∃ part, MarkerText part ∧ s = part ++ rest := by
  obtain ⟨_, s₁, hfence, h⟩ := Scan.bind_eq_some.mp h
  obtain ⟨_, s₂, hchoice, h⟩ := Scan.bind_eq_some.mp h
  obtain ⟨_, s₃, hmessage, h⟩ := Scan.bind_eq_some.mp h
  obtain ⟨front, s₄, hrun, h⟩ := Scan.bind_eq_some.mp h
  obtain ⟨code, s₅, hdigits, h⟩ := Scan.bind_eq_some.mp h
  obtain ⟨_, s₆, hclass, h⟩ := Scan.bind_eq_some.mp h
  obtain ⟨back, s₇, hrun', hlast⟩ := Scan.bind_eq_some.mp h
  obtain ⟨kind, rfl, hkind⟩ : ∃ kind, s₁ = kind ++ s₂ ∧
      (kind = "START".toList ∨ kind = "END".toList) := by
    rw [Scan.orElse_apply, Option.or_eq_some_iff] at hchoice
    rcases hchoice with hstart | ⟨_, hend⟩
    · exact ⟨_, Scan.literal_eq_some hstart, Or.inl rfl⟩
    · exact ⟨_, Scan.literal_eq_some hend, Or.inr rfl⟩
  obtain rfl := Scan.literal_eq_some hfence
  obtain rfl := Scan.literal_eq_some hmessage
  obtain ⟨rfl, hfront⟩ := Scan.many_eq_some hrun
  obtain ⟨rfl, hcode, _⟩ := Scan.digits_eq_some_iff.mp hdigits
  obtain ⟨rfl, hsubCode⟩ := of_optional_classDigits hclass
  obtain ⟨rfl, hback⟩ := Scan.many_eq_some hrun'
  obtain rfl := Scan.literal_eq_some hlast
  exact ⟨_, .intro hkind hfront hcode (exists_classForm_iff.mpr ⟨_, rfl, hsubCode⟩) hback,
    by simp only [List.append_assoc]⟩

/-- A marker has six of the characters that fences start with. -/
theorem MarkerText.count_at {part : Text} (h : MarkerText part) : part.count '@' = 6 := by
  obtain ⟨hkind, hfront, hcode, hsubCode, hback⟩ := h
  rename_i kind front code subCode back
  obtain ⟨found, rfl, hfound⟩ := exists_classForm_iff.mp hsubCode
  have hkindCount : (kind ++ "MSG".toList).count '@' = 0 := by
    rcases hkind with rfl | rfl
    · decide
    · decide
  rw [← count_at_written found hkindCount hfront hcode hfound hback]
  simp only [List.append_assoc]

theorem reads_anyMarker : Scan.Reads anyMarker MarkerText where
  iff s rest := by
    refine ⟨of_anyMarker, ?_⟩
    rintro ⟨part, hpart, rfl⟩
    exact anyMarker_append hpart rest
  nonempty h := by
    have hcount := h.count_at
    cases hcount

/-! ## Cleaned lines -/

/-- What is left of a line is what was between its markers. -/
theorem stripMarkers_eq_some_iff {line text : Text} :
    stripMarkers line = some text ↔
      Scan.eraseAll anyMarker line = text ∧ (text = [] → line = []) := by
  rw [stripMarkers]
  split
  next hempty =>
    obtain rfl := List.isEmpty_iff.mp hempty
    exact ⟨fun h => ⟨Option.some.inj h, fun _ => rfl⟩, fun h => congrArg some h.1⟩
  next hline =>
    rw [List.isEmpty_iff] at hline
    dsimp only
    split
    next hnone =>
      rw [List.isEmpty_iff.mp hnone]
      exact ⟨fun h => (Option.some_ne_none _ h.symm).elim, fun h => absurd (h.2 h.1.symm) hline⟩
    next hleft =>
      rw [List.isEmpty_iff] at hleft
      exact ⟨fun h => ⟨Option.some.inj h, fun h' => absurd (Option.some.inj h ▸ h') hleft⟩,
        fun h => congrArg some h.1⟩

/-- A cleaned line is what its gaps are, joined. -/
theorem stripMarkers_of_cut {line text : Text} {gaps : List Text} (hcut : Cut MarkerText line gaps)
    (h : stripMarkers line = some text) : text = gaps.flatten := by
  rw [← (stripMarkers_eq_some_iff.mp h).1, reads_anyMarker.eraseAll_of_cut hcut]

/-- A cleaned line has a marker exactly if its gaps join to one. -/
theorem marked_iff_rejoins {line text : Text} (h : stripMarkers line = some text) :
    Marked text ↔ Rejoins line := by
  have hiff {gaps : List Text} (hcut : Cut MarkerText line gaps) :
      Marked text ↔ Astride MarkerText gaps := by
    rw [stripMarkers_of_cut hcut h, Marked, Text.occurs_flatten_iff reads_anyMarker.nonempty,
      or_iff_right]
    rintro ⟨gap, hgap, hmarked⟩
    exact hcut.not_occurs reads_anyMarker.nonempty gap hgap hmarked
  constructor
  · intro hmarked
    obtain ⟨gaps, hcut⟩ := reads_anyMarker.exists_cut line
    exact ⟨gaps, hcut, (hiff hcut).mp hmarked⟩
  · rintro ⟨gaps, hcut, hastride⟩
    exact (hiff hcut).mpr hastride

/-- Cleaning leaves exactly the texts without markers as they are. -/
theorem stripMarkers_eq_self_iff {text : Text} : stripMarkers text = some text ↔ ¬Marked text := by
  rw [Marked, ← reads_anyMarker.eraseAll_eq_self_iff, stripMarkers_eq_some_iff]
  exact and_iff_left id

/-- Something is left of a line that rejoins. -/
theorem Rejoins.exists_stripMarkers {line : Text} (h : Rejoins line) :
    ∃ text, stripMarkers line = some text := by
  obtain ⟨gaps, hcut, hastride⟩ := h
  obtain ⟨part, hpart, hmarker⟩ :=
    (Text.occurs_flatten_iff reads_anyMarker.nonempty).mpr (Or.inr hastride)
  refine ⟨gaps.flatten, stripMarkers_eq_some_iff.mpr
    ⟨reads_anyMarker.eraseAll_of_cut hcut, fun hempty => ?_⟩⟩
  rw [hempty, List.infix_nil] at hpart
  exact absurd (hpart ▸ hmarker) reads_anyMarker.nonempty

/-- A line needs the fences of two markers to join a marker. -/
theorem Rejoins.count_at {line : Text} (h : Rejoins line) : 12 ≤ line.count '@' := by
  obtain ⟨gaps, hcut, hastride⟩ := h
  have htotal := hcut.count_eq (c := '@') fun _ => MarkerText.count_at
  obtain ⟨part, hpart, hmarker⟩ :=
    (Text.occurs_flatten_iff reads_anyMarker.nonempty).mpr (Or.inr hastride)
  have hleft : 6 ≤ gaps.flatten.count '@' := by
    rw [← hmarker.count_at]
    exact hpart.sublist.count_le '@'
  have htwo : 2 ≤ gaps.length := by
    obtain ⟨before, first, between, last, after, _, _, rfl, _⟩ := hastride
    simp only [List.length_append, List.length_cons]
    omega
  omega

/-! ## What a session shows -/

theorem shown_of_plain {line : Text} (h : Marker.ofLine? line = none) :
    shown line = stripMarkers line := by
  rw [shown, signOf?, h]
  rfl

/-- A line that is shown is no marker, and is cleaned. -/
theorem of_shown {line text : Text} (h : shown line = some text) :
    Marker.ofLine? line = none ∧ stripMarkers line = some text := by
  rw [shown, signOf?] at h
  cases hline : Marker.ofLine? line with
  | none =>
      rw [hline] at h
      exact ⟨rfl, h⟩
  | some marker =>
      rw [hline] at h
      cases h

namespace Session

variable {σ ρ : Type}

/-- What is shown of lines that are read one after the other, whether they are refused or not. -/
def echoes (d : Decoder σ ρ) (s : Session σ ρ) : List Text → List Text
  | [] => []
  | line :: rest => (s.feed d line).2.echo.toList ++ echoes d (s.feed d line).1 rest

/-- A session shows what is left of the lines that are no markers. -/
theorem echoes_eq (d : Decoder σ ρ) (m : Option OpenMessage) (g : Gathered σ)
    (lines : List Text) : (⟨m, g, none⟩ : Session σ ρ).echoes d lines = lines.filterMap shown := by
  induction lines generalizing m g with
  | nil => rfl
  | cons line lines ih =>
      obtain ⟨m', g', hnext, hecho⟩ := feed_unfinished d m g line
      rw [echoes, hnext, hecho, ih, List.filterMap_cons]
      cases shown line with
      | none => rfl
      | some text => rfl

/-- Of a cleaned line a marker is left, and cleaning it once more changes it, exactly if the line
rejoins; so a session that is fed lines shows no marker exactly if none of the lines does that,
markers apart.  A line with fewer than twelve of the characters that fences start with never
does. -/
theorem echoes_unmarked_iff (d : Decoder σ ρ) (m : Option OpenMessage) (g : Gathered σ)
    (lines : List Text) :
    (∀ line text, stripMarkers line = some text →
      (Marked text ↔ Rejoins line) ∧ (stripMarkers text = some text ↔ ¬Rejoins line)) ∧
    ((∀ text ∈ (⟨m, g, none⟩ : Session σ ρ).echoes d lines, ¬Marked text) ↔
      ∀ line ∈ lines, Marker.ofLine? line = none → ¬Rejoins line) ∧
    ∀ line, Rejoins line → 12 ≤ line.count '@' := by
  refine ⟨fun line text h => ⟨marked_iff_rejoins h, ?_⟩, ?_, fun line h => h.count_at⟩
  · rw [stripMarkers_eq_self_iff, marked_iff_rejoins h]
  · rw [echoes_eq]
    constructor
    · intro hunmarked line hline hplain hrejoins
      obtain ⟨text, htext⟩ := hrejoins.exists_stripMarkers
      have hshown : text ∈ lines.filterMap shown :=
        List.mem_filterMap.mpr ⟨line, hline, (shown_of_plain hplain).trans htext⟩
      exact hunmarked text hshown ((marked_iff_rejoins htext).mpr hrejoins)
    · intro hnever text htext hmarked
      obtain ⟨line, hline, hshown⟩ := List.mem_filterMap.mp htext
      obtain ⟨hplain, hclean⟩ := of_shown hshown
      exact hnever line hline hplain ((marked_iff_rejoins hclean).mp hmarked)

/-- The parts of a marker around another one are shown as a marker, and are nothing once this is
taken out, too. -/
theorem marked_of_nested :
    stripMarkers "@!@!@END@!@!@ENDMSG 1 @!@!@MSG 2 @!@!@".toList =
        some "@!@!@ENDMSG 2 @!@!@".toList ∧
      Marked "@!@!@ENDMSG 2 @!@!@".toList ∧
      stripMarkers "@!@!@ENDMSG 2 @!@!@".toList = none := by
  refine ⟨by decide +kernel, ⟨_, List.infix_rfl, ?_⟩, by decide +kernel⟩
  have hblank : ∀ c ∈ [' '], Text.isBlank c = true := List.forall_mem_singleton.mpr rfl
  have htwo : IsNumeral ['2'] := ⟨List.cons_ne_nil _ _, List.forall_mem_singleton.mpr rfl⟩
  exact .intro (Or.inr rfl) hblank htwo (Or.inl rfl) hblank

end Session

end TlaRunner.Protocol
