import TlaRunner.Proofs.Analyzer.Grammar
import TlaRunner.Proofs.Result
import TlaRunner.Proofs.Text.Search

/-!
# What a line is to the grammar

A line is read in one of four ways.  A location starts a finding, whatever came before
it.  Any other line belongs to the finding that is being read, if there is one.  Else it is
asked for the place of a parse error, if one is awaited and something stands on the line.
All that is left is read by its own form.  There is one equation of `Grammar.feed` for each
way (`feed_of_location`, `feed_of_pending`, `feed_of_awaiting`, `feed_of_other`).

The first way is told by the line alone, and `locationOf?_eq_some_iff` says how such a line
is written.
-/

namespace TlaRunner.Analyzer

open Text (Scan IsNumeral)
open Text.Scan (digits_eq_some_iff digits_word)

/-! ## Locations -/

/-- The location that a line starts with. -/
def locationOf? (line : Text) : Option LocationDigits :=
  Scan.front location (Text.strip line)

/-- Whether nothing but blanks stands on a line. -/
def isEmptyLine (line : Text) : Bool :=
  (Text.strip line).isEmpty

namespace LocationDigits

/-- A location as it is written. -/
def text (d : LocationDigits) : Text :=
  "line ".toList ++ (d.line ++ (", col ".toList ++ (d.column ++ (" to line ".toList ++
    (d.endLine ++ (", col ".toList ++ (d.endColumn ++ (" of module ".toList ++
      d.moduleName))))))))

theorem text_append (d : LocationDigits) (rest : Text) :
    d.text ++ rest = "line ".toList ++ (d.line ++ (", col ".toList ++ (d.column ++
      (" to line ".toList ++ (d.endLine ++ (", col ".toList ++ (d.endColumn ++
        (" of module ".toList ++ (d.moduleName ++ rest))))))))) := by
  unfold text
  simp only [List.append_assoc]

/-- The range of a location. -/
def span (d : LocationDigits) : Range :=
  .ofToolSpan (Text.digitsValue d.line) (Text.digitsValue d.column) (Text.digitsValue d.endLine)
    (Text.digitsValue d.endColumn)

/-- What the parts of a location are. -/
structure Written (d : LocationDigits) : Prop where
  /-- The first line is a number. -/
  line : IsNumeral d.line
  /-- So is the first column, -/
  column : IsNumeral d.column
  /-- the last line -/
  endLine : IsNumeral d.endLine
  /-- and the last column. -/
  endColumn : IsNumeral d.endColumn
  /-- The module has a name. -/
  named : d.moduleName ≠ []
  /-- There is no blank in it. -/
  unbroken : ∀ c ∈ d.moduleName, Text.isBlank c = false

end LocationDigits

/-- The locations that are read are those that are written, up to the next blank. -/
theorem location_eq_some_iff {s rest : Text} {d : LocationDigits} :
    location s = some (d, rest) ↔
      s = d.text ++ rest ∧ d.Written ∧ ∀ c ∈ rest.head?, Text.isBlank c = true := by
  constructor
  · intro h
    simp only [location, Scan.bind_eq_some] at h
    obtain ⟨_, _, hlead, line, _, hline, _, _, hfirst, column, _, hcolumn, _, _, hto, endLine, _,
      hendLine, _, _, hlast, endColumn, _, hendColumn, _, _, hof, moduleName, _, hmodule,
      hpure⟩ := h
    cases hpure
    obtain rfl := Scan.literal_eq_some hlead
    obtain ⟨rfl, isLine, -⟩ := digits_eq_some_iff.mp hline
    obtain rfl := Scan.literal_eq_some hfirst
    obtain ⟨rfl, isColumn, -⟩ := digits_eq_some_iff.mp hcolumn
    obtain rfl := Scan.literal_eq_some hto
    obtain ⟨rfl, isEndLine, -⟩ := digits_eq_some_iff.mp hendLine
    obtain rfl := Scan.literal_eq_some hlast
    obtain ⟨rfl, isEndColumn, -⟩ := digits_eq_some_iff.mp hendColumn
    obtain rfl := Scan.literal_eq_some hof
    obtain ⟨rfl, hnamed, hunbroken, hrest⟩ := Scan.some1_eq_some_iff.mp hmodule
    refine ⟨?_, ⟨isLine, isColumn, isEndLine, isEndColumn, hnamed, ?_⟩, ?_⟩
    · exact (LocationDigits.text_append ⟨line, column, endLine, endColumn, moduleName⟩ _).symm
    · simpa using hunbroken
    · simpa using hrest
  · rintro ⟨rfl, hwritten, hrest⟩
    have hmodule : Scan.some1 (!Text.isBlank ·) (d.moduleName ++ rest) =
        some (d.moduleName, rest) :=
      Scan.some1_append hwritten.named (by simpa using hwritten.unbroken) (by simpa using hrest)
    rw [d.text_append]
    simp only [location, Scan.bind_apply, Scan.literal_append, Option.bind_some]
    rw [digits_word hwritten.line (by decide)]
    simp only [Scan.literal_append, Option.bind_some]
    rw [digits_word hwritten.column (by decide)]
    simp only [Scan.literal_append, Option.bind_some]
    rw [digits_word hwritten.endLine (by decide)]
    simp only [Scan.literal_append, Option.bind_some]
    rw [digits_word hwritten.endColumn (by decide)]
    simp only [Scan.literal_append, Option.bind_some, hmodule]
    rfl

/-- A line starts with a location if one is written there, up to a blank or the end. -/
theorem locationOf?_eq_some_iff {line : Text} {d : LocationDigits} :
    locationOf? line = some d ↔
      d.Written ∧ ∃ rest, Text.strip line = d.text ++ rest ∧
        ∀ c ∈ rest.head?, Text.isBlank c = true := by
  rw [locationOf?, Scan.front, Option.map_eq_some_iff]
  constructor
  · rintro ⟨⟨_, rest⟩, hread, rfl⟩
    obtain ⟨hline, hwritten, hrest⟩ := location_eq_some_iff.mp hread
    exact ⟨hwritten, rest, hline, hrest⟩
  · rintro ⟨hwritten, rest, hline, hrest⟩
    exact ⟨(d, rest), location_eq_some_iff.mpr ⟨hline, hwritten, hrest⟩, rfl⟩

/-- What goes on behind a numeral that was read goes on with its value. -/
theorem of_readNumber_bind {α : Type} {s : Text} {f : Nat → Except Protocol.Fault α} {a : α}
    (hs : IsNumeral s) (h : (do let n ← Protocol.readNumber s; f n) = .ok a) :
    f (Text.digitsValue s) = .ok a := by
  obtain ⟨n, hn, hrest⟩ := bind_eq_ok_iff.mp h
  rw [Protocol.digitsValue_of_readNumber hs hn]
  exact hrest

/-- The range of a location that could be read. -/
theorem readRange_eq_ok {d : LocationDigits} {range : Range} (hd : d.Written)
    (h : Grammar.readRange d = .ok range) : range = d.span := by
  have hcolumn := of_readNumber_bind hd.column (of_readNumber_bind hd.line h)
  have hrange := of_readNumber_bind hd.endColumn (of_readNumber_bind hd.endLine hcolumn)
  exact (Except.ok.inj hrange).symm

/-! ## The four ways -/

namespace Grammar

variable {g : Grammar} {line : Text}

/-- A line that starts with a location and can be read gives up the finding before it and
starts another one. -/
theorem feed_of_location {d : LocationDigits} (hline : locationOf? line = some d)
    (hread : ∃ result, (g.feed line).2 = .ok result) :
    g.feed line = ({ g with pending := some ⟨g.fileOf d.moduleName, d.span, g.severity, []⟩ },
      .ok ⟨g.flush.1, none, none⟩) := by
  have hwritten := (locationOf?_eq_some_iff.mp hline).1
  have hfeed : g.feed line = g.onLocation d := by
    rw [locationOf?] at hline
    simp only [feed, hline]
  rw [hfeed] at hread ⊢
  obtain ⟨result, hresult⟩ := hread
  cases hrange : readRange d with
  | error fault =>
      simp only [onLocation, hrange] at hresult
      cases hresult
  | ok range =>
      rw [readRange_eq_ok hwritten hrange] at hrange
      simp only [onLocation, hrange]
      rfl

/-- Any other line belongs to the finding that is being read. -/
theorem feed_of_pending {p : Pending} (hline : locationOf? line = none)
    (hpending : g.pending = some p) :
    g.feed line = ((g.onText p (Text.strip line)).1, .ok (g.onText p (Text.strip line)).2) := by
  rw [locationOf?] at hline
  simp only [feed, hline, hpending]

/-- Reads the line that is asked for the place of a parse error. -/
def onAwaited (g : Grammar) (stripped : Text) : Grammar × Except Protocol.Fault LineResult :=
  match Scan.search (point encounteredLead) stripped, g.currentFile with
  | some digits, some file =>
    { g with awaitingPlace := false }.onPlace file digits stripped
  | _, _ => ({ g with awaitingPlace := false }, .ok .nothing)

/-- A line without a place is asked in vain. -/
theorem onAwaited_of_none {stripped : Text}
    (h : Scan.search (point encounteredLead) stripped = none) :
    g.onAwaited stripped = ({ g with awaitingPlace := false }, .ok .nothing) := by
  rw [onAwaited, h]

/-- Where nothing is being read and the place of a parse error is awaited, the first line
with something on it is asked for it. -/
theorem feed_of_awaiting (hline : locationOf? line = none) (hpending : g.pending = none)
    (hwait : (g.awaitingPlace && !isEmptyLine line) = true) :
    g.feed line = g.onAwaited (Text.strip line) := by
  rw [locationOf?] at hline
  rw [isEmptyLine] at hwait
  rw [onAwaited]
  cases hplace : Scan.search (point encounteredLead) (Text.strip line) with
  | none => simp only [feed, hline, hpending, hwait, if_true, hplace]
  | some digits =>
      cases hfile : g.currentFile with
      | none => simp only [feed, hline, hpending, hwait, if_true, hplace, hfile]
      | some file => simp only [feed, hline, hpending, hwait, if_true, hplace, hfile]

/-- Where nothing is being read and nothing is awaited, a line is read by its own form. -/
theorem feed_of_other (hline : locationOf? line = none) (hpending : g.pending = none)
    (hwait : (g.awaitingPlace && !isEmptyLine line) = false) :
    g.feed line = g.onOther (Text.strip line) := by
  rw [locationOf?] at hline
  rw [isEmptyLine] at hwait
  simp only [feed, hline, hpending, hwait, Bool.false_eq_true, if_false]

end Grammar

end TlaRunner.Analyzer
