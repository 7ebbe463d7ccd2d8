import TlaRunner.Proofs.Checker.Statistics
import TlaRunner.Proofs.Text.Lines

/-!
# Coverage of the model checker

An `Entry` is the coverage of an action: where the action stands, how many distinct states
it led to and how many states in all.  It is printed as one line, and the parts of the line
are read back (`front_text`).  That the place is cut where it ends comes from the blanks: what
is read behind it has four of them, and behind any later character there are fewer
(`count_tailText`).

The line has the distinct states first, but it is the first counter that is entered as the
number of all states.  So an entry is read with its counters exchanged (`Entry.reading`).

A `Sheet` is a message with entries between other lines, and the `Part`s of a run are its
sheets and whatever else is printed.  The coverage of the run has the entries of the sheets in
order, and nothing else (`coverage_of_parts`).
-/

namespace TlaRunner.Checker

open Text (Scan IsNumeral)
open Protocol (Gathered Item Message Marker Delivery)

/-! ## Coverage lines -/

/-- A name of word characters. -/
def IsName (s : Text) : Prop :=
  s ≠ [] ∧ ∀ c ∈ s, Text.isWord c = true

instance (s : Text) : Decidable (IsName s) :=
  decidable_of_iff ((!s.isEmpty && s.all Text.isWord) = true) (by simp [IsName])

theorem blank_not_mem_name {s : Text} (h : IsName s) : ' ' ∉ s := fun hmem => by
  have hword := h.2 ' ' hmem
  revert hword
  decide +kernel

/-- A coverage line, from the module on. -/
def tailText (moduleName first second : Text) : Text :=
  " of module ".toList ++ (moduleName ++ (">: ".toList ++ (first ++ ([':'] ++ second))))

/-- A coverage line. -/
def lineText (action place moduleName first second : Text) : Text :=
  ['<'] ++ (action ++ (" line ".toList ++ (place ++ tailText moduleName first second)))

/-- What the parts of a coverage line are. -/
structure Written (action place moduleName first second : Text) : Prop where
  /-- The action has a name. -/
  action : IsName action
  /-- There is a place, -/
  placed : place ≠ []
  /-- which is on one line. -/
  unbroken : '\n' ∉ place
  /-- The module has a name. -/
  moduleName : IsName moduleName
  /-- The counters are numbers. -/
  first : IsNumeral first
  /-- Both of them are. -/
  second : IsNumeral second

/-- Whether a text starts with a coverage line. -/
def StartsEntry (s : Text) : Prop :=
  ∃ action place moduleName first second rest, Written action place moduleName first second ∧
    s = lineText action place moduleName first second ++ rest ∧
      ∀ c ∈ rest.head?, Text.isDigit c = false

section

variable {action place moduleName first second s rest : Text}

/-- What is read from the module on is what is written, up to the next character that is
no digit. -/
theorem coverageTail_eq_some_iff :
    coverageTail s = some ((moduleName, first, second), rest) ↔
      s = tailText moduleName first second ++ rest ∧ IsName moduleName ∧ IsNumeral first ∧
        IsNumeral second ∧ ∀ c ∈ rest.head?, Text.isDigit c = false := by
  have hassoc : tailText moduleName first second ++ rest = " of module ".toList ++
      (moduleName ++ (">: ".toList ++ (first ++ ([':'] ++ (second ++ rest))))) := by
    unfold tailText
    simp only [List.append_assoc]
  rw [hassoc]
  constructor
  · intro h
    simp only [coverageTail, Scan.bind_eq_some] at h
    obtain ⟨_, _, hof, name, _, hname, _, _, hmark, one, _, hone, _, _, hcolon, two, _, htwo,
      hpure⟩ := h
    cases hpure
    obtain rfl := Scan.literal_eq_some hof
    obtain ⟨rfl, hne, hword, -⟩ := Scan.some1_eq_some_iff.mp hname
    obtain rfl := Scan.literal_eq_some hmark
    obtain ⟨rfl, isOne, -⟩ := Scan.digits_eq_some_iff.mp hone
    obtain rfl := Scan.literal_eq_some hcolon
    obtain ⟨rfl, isTwo, hrest⟩ := Scan.digits_eq_some_iff.mp htwo
    exact ⟨rfl, ⟨hne, hword⟩, isOne, isTwo, hrest⟩
  · rintro ⟨rfl, hname, isFirst, isSecond, hrest⟩
    have hword (s : Text) : Scan.some1 Text.isWord (moduleName ++ (">: ".toList ++ s)) =
        some (moduleName, ">: ".toList ++ s) :=
      Scan.some1_word hname.1 hname.2 (by decide +kernel) s
    have hsecond : Scan.digits (second ++ rest) = some (second, rest) :=
      Scan.digits_eq_some_iff.mpr ⟨rfl, isSecond, hrest⟩
    simp only [coverageTail, Scan.bind_apply, Scan.literal_append, Option.bind_some, hword]
    rw [Scan.digits_word isFirst (by decide)]
    simp only [Scan.literal_append, Option.bind_some, hsecond]
    rfl

/-- Before the place of a coverage line its action is read. -/
theorem coverageLine_text (haction : IsName action) (s : Text) :
    coverageLine (['<'] ++ (action ++ (" line ".toList ++ s))) =
      (Scan.longest coverageTail 1 s).map fun found =>
        (⟨action, "line ".toList ++ found.1.1 ++ " of module ".toList ++ found.1.2.1,
          found.1.2.1, found.1.2.2.1, found.1.2.2.2⟩, found.2) := by
  have hword : Scan.some1 Text.isWord (action ++ (" line ".toList ++ s)) =
      some (action, " line ".toList ++ s) :=
    Scan.some1_word haction.1 haction.2 (by decide +kernel) s
  simp only [coverageLine, Scan.bind_apply, Scan.literal_append, Option.bind_some, hword]
  cases Scan.longest coverageTail 1 s with
  | none => rfl
  | some found => rfl

/-- A coverage line is read where one is written. -/
theorem isSome_front_coverageLine :
    (Scan.front coverageLine s).isSome = true ↔ StartsEntry s := by
  rw [Scan.front, Option.isSome_map]
  constructor
  · intro h
    obtain ⟨⟨d, rest⟩, hread⟩ := Option.isSome_iff_exists.mp h
    simp only [coverageLine, Scan.bind_eq_some] at hread
    obtain ⟨_, _, hstart, action, _, haction, _, _, hlead, ⟨place, moduleName, first, second⟩, _,
      hplace, hpure⟩ := hread
    cases hpure
    obtain rfl := Scan.literal_eq_some hstart
    obtain ⟨rfl, hne, hword, -⟩ := Scan.some1_eq_some_iff.mp haction
    obtain rfl := Scan.literal_eq_some hlead
    obtain ⟨back, rfl, hback, hlength, hunbroken⟩ := Scan.of_longest_eq_some hplace
    obtain ⟨rfl, hname, isFirst, isSecond, hrest⟩ := coverageTail_eq_some_iff.mp hback
    refine ⟨action, place, moduleName, first, second, rest, ⟨⟨hne, hword⟩, ?_, hunbroken, hname,
      isFirst, isSecond⟩, ?_, hrest⟩
    · exact List.ne_nil_of_length_pos hlength
    · unfold lineText
      simp only [List.append_assoc]
  · rintro ⟨action, place, moduleName, first, second, rest, hwritten, rfl, hrest⟩
    have htail : (coverageTail (tailText moduleName first second ++ rest)).isSome := by
      rw [coverageTail_eq_some_iff.mpr
        ⟨rfl, hwritten.moduleName, hwritten.first, hwritten.second, hrest⟩]
      rfl
    unfold lineText
    simp only [List.append_assoc]
    rw [coverageLine_text hwritten.action, Option.isSome_map]
    exact Scan.isSome_longest_append hwritten.unbroken (List.length_pos_iff.mpr hwritten.placed)
      htail

theorem front_coverageLine_eq_none (h : ¬StartsEntry s) : Scan.front coverageLine s = none :=
  Option.not_isSome_iff_eq_none.mp (mt isSome_front_coverageLine.mp h)

instance (s : Text) : Decidable (StartsEntry s) :=
  decidable_of_iff ((Scan.front coverageLine s).isSome = true) isSome_front_coverageLine

example : StartsEntry "<Next line 7 of module Spec>: 5:11 states".toList := by decide +kernel

example : ¬StartsEntry "<Next line of module Spec>: 5:11".toList := by decide +kernel

/-! ### The end of the place -/

theorem count_tailText (hname : IsName moduleName) (hfirst : IsNumeral first)
    (hsecond : IsNumeral second) : (tailText moduleName first second).count ' ' = 4 := by
  unfold tailText
  simp only [List.count_append, List.count_eq_zero.mpr (blank_not_mem_name hname),
    List.count_eq_zero.mpr (hfirst.not_mem (c := ' ') (by decide)),
    List.count_eq_zero.mpr (hsecond.not_mem (c := ' ') (by decide))]
  decide

/-- The place goes as far as the last module that is written. -/
theorem longest_coverageTail (h : Written action place moduleName first second) :
    Scan.longest coverageTail 1 (place ++ tailText moduleName first second) =
      some ((place, moduleName, first, second), []) := by
  refine Scan.longest_append h.unbroken (List.length_pos_iff.mpr h.placed)
    (coverageTail_eq_some_iff.mpr ⟨(List.append_nil _).symm, h.moduleName, h.first, h.second,
      fun c hc => by cases hc⟩) ?_
  rintro part ⟨front, hsplit⟩ hne
  refine Option.eq_none_iff_forall_ne_some.mpr fun found hfound => ?_
  obtain ⟨⟨other, one, two⟩, later⟩ := found
  obtain ⟨hpart, hother, hone, htwo, _⟩ := coverageTail_eq_some_iff.mp hfound
  have hfour : 4 ≤ part.count ' ' := by
    rw [hpart, List.count_append, count_tailText hother hone htwo]
    exact Nat.le_add_right 4 _
  have hcount := count_tailText h.moduleName h.first h.second
  cases front with
  | nil => exact hne hsplit
  | cons c front =>
      -- The first character is a blank that the part lacks.
      have hc : c = ' ' := (List.cons.inj hsplit).1
      rw [← hsplit, List.count_append, hc, List.count_cons_self] at hcount
      omega

end

/-! ## Entries -/

/-- The coverage of an action. -/
structure Entry where
  /-- The action. -/
  action : Text
  /-- Where it stands, from the number of the line on. -/
  place : Text
  /-- Its module. -/
  moduleName : Text
  /-- The distinct states that it led to. -/
  distinct : Nat
  /-- All states that it led to. -/
  total : Nat
  /-- The action has a name, -/
  action_isName : IsName action
  /-- and so has its module. -/
  module_isName : IsName moduleName
  /-- There is a place, -/
  placed : place ≠ []
  /-- which is on one line. -/
  unbroken : Text.IsUnbroken place
  /-- The counters are within the limit. -/
  distinct_short : (Text.ofNat distinct).length ≤ Text.digitLimit
  /-- Both of them are. -/
  total_short : (Text.ofNat total).length ≤ Text.digitLimit

namespace Entry

variable (e : Entry)

/-- Its location. -/
def location : Text :=
  "line ".toList ++ e.place ++ " of module ".toList ++ e.moduleName

/-- The line that tells it. -/
def text : Text :=
  ['<'] ++ e.action ++ [' '] ++ e.location ++ ">: ".toList ++ Text.ofNat e.distinct ++ [':'] ++
    Text.ofNat e.total

/-- The line in parts. -/
def digits : CoverageDigits :=
  ⟨e.action, e.location, e.moduleName, Text.ofNat e.distinct, Text.ofNat e.total⟩

/-- The coverage that the line tells. -/
def coverage : Coverage :=
  { moduleName := e.moduleName, action := e.action, location := e.location, total := e.total,
    distinct := e.distinct }

/-- The coverage as it is read, with the counters exchanged. -/
def reading : Coverage :=
  { e.coverage with total := e.distinct, distinct := e.total }

/-- It is read as it was told exactly if the counters are the same. -/
theorem reading_eq_coverage_iff : e.reading = e.coverage ↔ e.distinct = e.total := by
  constructor
  · intro h
    have hdistinct : (e.total : Int) = e.distinct := congrArg Coverage.distinct h
    omega
  · intro h
    rw [reading, coverage, h]

theorem written : Written e.action e.place e.moduleName (Text.ofNat e.distinct)
    (Text.ofNat e.total) where
  action := e.action_isName
  placed := e.placed
  unbroken := fun hmem => by
    have hbreak := e.unbroken '\n' hmem
    revert hbreak
    decide
  moduleName := e.module_isName
  first := Text.isNumeral_ofNat e.distinct
  second := Text.isNumeral_ofNat e.total

theorem text_eq : e.text = lineText e.action e.place e.moduleName (Text.ofNat e.distinct)
    (Text.ofNat e.total) := by
  have hlead (s : Text) : [' '] ++ ("line ".toList ++ s) = " line ".toList ++ s := rfl
  unfold text location lineText tailText
  simp only [List.append_assoc, hlead]

theorem text_ne_nil : e.text ≠ [] := by
  rw [text_eq]
  exact List.cons_ne_nil _ _

/-- The line is one line. -/
theorem filled_text : Text.filled e.text = [e.text] := by
  have hname {s : Text} (h : IsName s) : Text.IsUnbroken s := fun c hc =>
    Text.isLineBreak_of_isWord (h.2 c hc)
  have htail : Text.IsUnbroken (tailText e.moduleName (Text.ofNat e.distinct) (Text.ofNat e.total)) :=
    .append (by decide) (.append (hname e.module_isName) (.append (by decide)
      (.append (Text.isUnbroken_ofNat _) (.append (by decide) (Text.isUnbroken_ofNat _)))))
  have hunbroken : Text.IsUnbroken e.text := by
    rw [text_eq]
    exact .append (by decide) (.append (hname e.action_isName) (.append (by decide)
      (.append e.unbroken htail)))
  rw [Text.filled, Text.lines_of_unbroken hunbroken e.text_ne_nil]
  exact List.filter_cons_of_pos (by simpa using e.text_ne_nil)

/-- There are no blanks around the line. -/
theorem strip_text : Text.strip e.text = e.text := by
  refine Text.strip_eq_self (fun c hc => ?_) (fun c hc => ?_)
  · rw [text_eq] at hc
    cases hc
    decide
  · rw [text, List.getLast?_append_of_ne_nil _ (Text.isNumeral_ofNat e.total).1] at hc
    exact Text.isBlank_of_isDigit ((Text.isNumeral_ofNat _).2 c (List.mem_of_getLast? hc))

/-- The line is read as its parts. -/
theorem front_text : Scan.front coverageLine (Text.strip e.text) = some e.digits := by
  rw [strip_text, text_eq, lineText, Scan.front, coverageLine_text e.action_isName,
    longest_coverageTail e.written]
  rfl

theorem readCoverage_digits : readCoverage e.digits = .ok e.reading := by
  rw [readCoverage, digits]
  simp only [readNumber_ofNat e.distinct_short, readNumber_ofNat e.total_short]
  rfl

/-- The line is no marker. -/
theorem unmarked_text : Marker.ofLine? e.text = none := by
  rw [text_eq, lineText]
  exact Protocol.ofLine?_of_lead (by decide) _

end Entry

/-! ## Lines that can be read -/

/-- The entry that a line makes. -/
def entryOn? (line : Text) : Option Coverage :=
  (Scan.front coverageLine (Text.strip line)).bind fun d => (readCoverage d).toOption

/-- Whether an entry on a line can be read, if there is one. -/
def Legible (line : Text) : Prop :=
  ∀ d ∈ Scan.front coverageLine (Text.strip line), ∃ entry, readCoverage d = .ok entry

section

variable {lines : List Text}

theorem coverageIn_of_legible (h : ∀ line ∈ lines, Legible line) :
    coverageIn lines = lines.filterMap entryOn? := by
  induction lines with
  | nil => rfl
  | cons line rest ih =>
      rw [List.forall_mem_cons] at h
      rw [coverageIn, List.filterMap_cons, entryOn?]
      cases hfront : Scan.front coverageLine (Text.strip line) with
      | none => exact ih h.2
      | some d =>
          obtain ⟨entry, hentry⟩ := h.1 d hfront
          simp only [hentry, ih h.2, Option.bind_some]
          rfl

theorem onCoverage_snd_of_legible (h : ∀ line ∈ lines, Legible line) (g : Gathered Run) :
    (onCoverage g lines).2 = .ok () := by
  induction lines generalizing g with
  | nil => rfl
  | cons line rest ih =>
      rw [List.forall_mem_cons] at h
      rw [onCoverage]
      cases hfront : Scan.front coverageLine (Text.strip line) with
      | none => exact ih h.2 g
      | some d =>
          obtain ⟨entry, hentry⟩ := h.1 d hfront
          simp only [hentry]
          exact ih h.2 _

end

/-! ## Sheets -/

/-- A line of a coverage message. -/
inductive Piece
  /-- An entry. -/
  | entry (e : Entry)
  /-- A line that is no marker, and no entry starts on it, nor behind a break within it. -/
  | remark (line : Text) (unmarked : Marker.ofLine? line = none)
      (other : ∀ part ∈ Text.lines line, ¬StartsEntry (Text.strip part))

namespace Piece

/-- The line. -/
def line : Piece → Text
  | entry e => e.text
  | remark line _ _ => line

/-- The entry on it, if it has one. -/
def entry? : Piece → Option Entry
  | entry e => some e
  | remark _ _ _ => none

theorem unmarked (p : Piece) : Marker.ofLine? p.line = none := by
  cases p with
  | entry e => exact e.unmarked_text
  | remark line hunmarked other => exact hunmarked

/-- What is read on it is its entry. -/
theorem front_of_mem_filled (p : Piece) {line : Text} (h : line ∈ Text.filled p.line) :
    Scan.front coverageLine (Text.strip line) = p.entry?.map Entry.digits := by
  cases p with
  | entry e =>
      rw [Piece.line, e.filled_text, List.mem_singleton] at h
      rw [h]
      exact e.front_text
  | remark whole hunmarked other =>
      exact front_coverageLine_eq_none (other line (List.mem_filter.mp h).1)

theorem filterMap_filled (p : Piece) :
    (Text.filled p.line).filterMap entryOn? = (p.entry?.map Entry.reading).toList := by
  cases p with
  | entry e =>
      have hentry : entryOn? e.text = some e.reading := by
        rw [entryOn?, e.front_text, Option.bind_some, e.readCoverage_digits]
        rfl
      rw [line, e.filled_text, List.filterMap_cons_some hentry]
      rfl
  | remark whole hunmarked other =>
      refine List.filterMap_eq_nil_iff.mpr fun line hline => ?_
      rw [entryOn?, front_of_mem_filled _ hline]
      rfl

end Piece

/-- A coverage message. -/
structure Sheet where
  /-- Its code. -/
  code : Nat
  /-- Its class. -/
  subCode : Option Nat
  /-- Its lines. -/
  pieces : List Piece
  /-- It is about the initial states or about the next ones. -/
  code_mem : code = 2201 ∨ code = 2772
  /-- It is no error, no warning and no state. -/
  plain : subCode = none ∨ subCode = some 0

namespace Sheet

variable (s : Sheet)

/-- The message. -/
def message : Message :=
  ⟨s.code, s.subCode, s.pieces.map Piece.line⟩

/-- The entries on it. -/
def entries : List Entry :=
  s.pieces.filterMap Piece.entry?

theorem roleOf_message : roleOf s.message = .status .coverage := by
  have hcode : Topic.ofCode s.code = .coverage := by
    rcases s.code_mem with h | h
    · rw [h]; rfl
    · rw [h]; rfl
  exact roleOf_status hcode (by decide) s.plain _

theorem filled_message : Text.filled s.message.text =
    s.pieces.flatMap fun p => Text.filled p.line := by
  rw [Message.text, Text.filled_join, message, List.flatMap_map]

theorem legible_message : ∀ line ∈ Text.lines s.message.text, Legible line := by
  intro line hline d hd
  by_cases hempty : line = []
  · rw [hempty] at hd
    cases hd
  · have hmem : line ∈ Text.filled s.message.text :=
      List.mem_filter.mpr ⟨hline, by simpa using hempty⟩
    rw [filled_message] at hmem
    obtain ⟨p, -, hp⟩ := List.mem_flatMap.mp hmem
    rw [p.front_of_mem_filled hp] at hd
    obtain ⟨e, -, rfl⟩ := Option.map_eq_some_iff.mp hd
    exact ⟨e.reading, e.readCoverage_digits⟩

/-- The coverage lines of a sheet are its entries, with the counters exchanged. -/
theorem coverageIn_message :
    coverageIn (Text.lines s.message.text) = s.entries.map Entry.reading := by
  have hfilled : (Text.lines s.message.text).filterMap entryOn? =
      (Text.filled s.message.text).filterMap entryOn? := by
    rw [Text.filled, List.filterMap_filter]
    refine List.filterMap_congr fun line _ => ?_
    by_cases hempty : line = []
    · rw [hempty]
      rfl
    · rw [if_pos (by simpa using hempty)]
  rw [coverageIn_of_legible s.legible_message, hfilled, filled_message, List.filterMap_flatMap,
    entries, List.map_filterMap, List.filterMap_eq_flatMap_toList]
  exact List.flatMap_congr fun p _ => p.filterMap_filled

/-- The numbers on its markers can be read. -/
theorem short_numbers : ∀ n ∈ (Item.message s.message).numbers,
    (Text.ofNat n).length ≤ Text.digitLimit := by
  have hclass : ∀ n ∈ s.subCode.toList, (Text.ofNat n).length ≤ Text.digitLimit := by
    rcases s.plain with h | h
    · rw [h]
      decide
    · rw [h]
      decide
  have hcode : (Text.ofNat s.code).length ≤ Text.digitLimit := by
    rcases s.code_mem with h | h
    · rw [h]
      decide
    · rw [h]
      decide
  exact List.forall_mem_cons.mpr ⟨hcode, hclass⟩

/-- What is gathered behind a sheet. -/
def enter (g : Gathered Run) : Gathered Run :=
  update g fun r => { r with coverage := r.coverage ++ s.entries.map Entry.reading }

/-- A sheet can be read, whatever came before it.  Its entries are put behind the others, and
nothing else changes. -/
theorem onMessage_message (g : Gathered Run) : onMessage g s.message =
    ⟨s.enter g, .ok [.progress tool (detail s.message) (some (snapshot (s.enter g)))]⟩ := by
  refine onMessage_status s.roleOf_message (Prod.ext ?_ ?_)
  · refine (onCoverage_fst g _).trans ?_
    rw [s.coverageIn_message]
    rfl
  · exact onCoverage_snd_of_legible s.legible_message g

end Sheet

/-! ## Runs with sheets -/

/-- A part of a run. -/
inductive Part
  /-- A coverage message. -/
  | sheet (s : Sheet)
  /-- Another message or a line outside messages, which has no marker in it. -/
  | other (i : Item) (unmarked : ∀ line ∈ i.content, Marker.ofLine? line = none)
      (apart : ∀ m, i = .message m → roleOf m ≠ .status .coverage)

namespace Part

/-- What is printed. -/
def item : Part → Item
  | sheet s => .message s.message
  | other i _ _ => i

/-- The entries in it. -/
def entries : Part → List Entry
  | sheet s => s.entries
  | other _ _ _ => []

/-- Whether it is a sheet or a line outside messages. -/
def IsQuiet : Part → Prop
  | sheet _ => True
  | other (.line _) _ _ => True
  | other (.message _) _ _ => False

theorem unmarked (p : Part) : ∀ line ∈ p.item.content, Marker.ofLine? line = none := by
  cases p with
  | sheet s =>
      intro line hline
      obtain ⟨piece, -, rfl⟩ := List.mem_map.mp hline
      exact piece.unmarked
  | other i hunmarked apart => exact hunmarked

/-- The messages of a part make its entries. -/
theorem flatMap_coverageOf (p : Part) :
    (messages [.item p.item]).flatMap coverageOf = p.entries.map Entry.reading := by
  cases p with
  | sheet s =>
      have hcoverage : coverageOf s.message = s.entries.map Entry.reading := by
        rw [coverageOf, s.roleOf_message]
        exact s.coverageIn_message
      exact (List.flatMap_singleton _ _).trans hcoverage
  | other i hunmarked apart =>
      cases i with
      | line content => rfl
      | message m =>
          have hcoverage : coverageOf m = [] := by
            rw [coverageOf]
            split
            next hrole => exact absurd hrole (apart m rfl)
            next => rfl
          exact (List.flatMap_singleton _ _).trans hcoverage

/-- The numbers on the markers of a quiet part can be read. -/
theorem short_of_isQuiet {p : Part} (h : p.IsQuiet) :
    ∀ n ∈ p.item.numbers, (Text.ofNat n).length ≤ Text.digitLimit := by
  cases p with
  | sheet s => exact s.short_numbers
  | other i hunmarked apart =>
      cases i with
      | line content => exact fun n hn => by cases hn
      | message m => exact h.elim

/-- While no analyzer runs, a quiet part can be read, and none runs behind it. -/
theorem carry_of_isQuiet {p : Part} (h : p.IsQuiet) {g : Gathered Run}
    (hoff : g.grammar.analyzer = none) :
    ∃ after events, (Delivery.item p.item).carry decoder g = ⟨after, .ok events⟩ ∧
      after.grammar.analyzer = none := by
  cases p with
  | sheet s => exact ⟨_, _, s.onMessage_message g, hoff⟩
  | other i hunmarked apart =>
      cases i with
      | line content =>
          have hline : onLine g content = ⟨g, .ok []⟩ := by rw [onLine, hoff]
          exact ⟨g, [], hline, hoff⟩
      | message m => exact h.elim

end Part

variable {parts : List Part}

/-- Quiet parts can be read one after the other. -/
theorem deliver_of_isQuiet (hquiet : ∀ p ∈ parts, p.IsQuiet) {g : Gathered Run}
    (hoff : g.grammar.analyzer = none) :
    ∃ after events, Protocol.deliver decoder g ((parts.map Part.item).map .item) =
      ⟨after, .ok events⟩ := by
  induction parts generalizing g with
  | nil => exact ⟨g, [], rfl⟩
  | cons p rest ih =>
      rw [List.forall_mem_cons] at hquiet
      obtain ⟨middle, first, hfirst, hmiddle⟩ := Part.carry_of_isQuiet hquiet.1 hoff
      obtain ⟨after, last, hlast⟩ := ih hquiet.2 hmiddle
      exact ⟨after, first ++ last,
        Protocol.deliver_cons_eq_ok.mpr ⟨middle, first, last, hfirst, hlast, rfl⟩⟩

/-- The messages of a run make the entries of its parts. -/
theorem flatMap_coverageOf_parts (parts : List Part) :
    (messages ((parts.map Part.item).map .item)).flatMap coverageOf =
      (parts.flatMap Part.entries).map Entry.reading := by
  induction parts with
  | nil => rfl
  | cons p rest ih =>
      have hcons : messages (((p :: rest).map Part.item).map .item) =
          messages [.item p.item] ++ messages ((rest.map Part.item).map .item) := by
        rw [messages, messages, messages, ← List.filterMap_append]
        rfl
      rw [hcons, List.flatMap_append, p.flatMap_coverageOf, ih, List.flatMap_cons, List.map_append]

theorem unmarked_parts (parts : List Part) :
    ∀ i ∈ parts.map Part.item, ∀ line ∈ i.content, Marker.ofLine? line = none := by
  intro i hi
  obtain ⟨p, -, rfl⟩ := List.mem_map.mp hi
  exact p.unmarked

/-- The lines of a run. -/
def linesOf (parts : List Part) : List Text :=
  (parts.map Part.item).flatMap Item.lines

/-- The coverage of a run that could be read has the entries of its sheets, in order and with
the counters exchanged. -/
theorem report_of_parts {spec : Option Text} {stopped : Bool}
    (hrun : (Protocol.Reading.readLines decoder (session spec) (linesOf parts) stopped).2.fault =
      none) :
    ∃ report, (Protocol.Reading.readLines decoder (session spec) (linesOf parts) stopped).1.result =
      some report ∧ report.coverage = (parts.flatMap Part.entries).map Entry.reading := by
  obtain ⟨hshort, after, events, hread⟩ := Protocol.Reading.ok_of_readLines hrun
  obtain ⟨hsession, -⟩ := Protocol.Reading.readLines_of_ok hshort hread stopped
  rw [linesOf, Protocol.driveAll_flatMap (unmarked_parts parts)] at hread
  have hmeasure := measure_deliver hread
  rw [foldl_next, flatMap_coverageOf_parts] at hmeasure
  refine ⟨_, congrArg (·.result) hsession, ?_⟩
  change (measure (flushAnalyzer after).1).coverage = _
  rw [measure_flushAnalyzer, hmeasure]
  rfl

/-- The coverage of a run has the entries of its sheets in order, each with its module, its
action and its location, but with the counters exchanged.  So it is the coverage that was told
exactly if each entry has the same number of distinct states and of all states.  A run of
sheets and lines outside messages can always be read. -/
theorem coverage_of_parts (spec : Option Text) (parts : List Part) (stopped : Bool) :
    let run := Protocol.Reading.readLines decoder (session spec) (linesOf parts) stopped
    let entries := parts.flatMap Part.entries
    ((∀ p ∈ parts, p.IsQuiet) → run.2.fault = none) ∧
      (run.2.fault = none → ∃ report, run.1.result = some report ∧
        report.coverage = entries.map Entry.reading ∧
        (report.coverage = entries.map Entry.coverage ↔ ∀ e ∈ entries, e.distinct = e.total)) := by
  intro run entries
  refine ⟨fun hquiet => ?_, fun hrun => ?_⟩
  · have hshort : ∀ line ∈ linesOf parts, Protocol.ShortLine line := by
      intro line hline
      obtain ⟨i, hi, hmem⟩ := List.mem_flatMap.mp hline
      obtain ⟨p, hp, rfl⟩ := List.mem_map.mp hi
      exact Protocol.short_of_numbers p.unmarked (Part.short_of_isQuiet (hquiet p hp)) line hmem
    obtain ⟨after, events, hread⟩ := deliver_of_isQuiet hquiet (g := (session spec).gathered) rfl
    have hdrive := Protocol.driveAll_flatMap (unmarked_parts parts)
    rw [← hdrive] at hread
    exact (Protocol.Reading.readLines_of_ok hshort hread stopped).2.1
  · obtain ⟨report, hresult, hcoverage⟩ := report_of_parts hrun
    refine ⟨report, hresult, hcoverage, ?_⟩
    rw [hcoverage, List.map_inj_left]
    exact forall₂_congr fun e _ => e.reading_eq_coverage_iff

/-- The initial states of a check. -/
def initCoverage : Entry where
  action := "Init".toList
  place := "5, col 1 to line 5, col 12".toList
  moduleName := "Spec".toList
  distinct := 1
  total := 1
  action_isName := by decide +kernel
  module_isName := by decide +kernel
  placed := by decide
  unbroken := by decide
  distinct_short := by decide
  total_short := by decide

/-- Its next states, more than half of which were there before. -/
def nextCoverage : Entry where
  action := "Next".toList
  place := "7, col 1 to line 7, col 20".toList
  moduleName := "Spec".toList
  distinct := 5
  total := 11
  action_isName := by decide +kernel
  module_isName := by decide +kernel
  placed := by decide
  unbroken := by decide
  distinct_short := by decide
  total_short := by decide

example : nextCoverage.text =
    "<Next line 7, col 1 to line 7, col 20 of module Spec>: 5:11".toList := by
  decide

/-- The sheet of the initial states, with a line of another kind. -/
def initSheet : Sheet where
  code := 2201
  subCode := some 0
  pieces := [.entry initCoverage,
    .remark "  |line 6, col 3 of module Spec: 2".toList (by decide +kernel) (by decide +kernel)]
  code_mem := Or.inl rfl
  plain := Or.inr rfl

/-- The sheet of the next states. -/
def nextSheet : Sheet where
  code := 2772
  subCode := some 0
  pieces := [.entry nextCoverage]
  code_mem := Or.inr rfl
  plain := Or.inr rfl

theorem coverage_of_parts_mixed :
    let parts : List Part :=
      [.sheet initSheet, .other (.line []) (by decide) (fun _ h => by cases h), .sheet nextSheet]
    let run := Protocol.Reading.readLines decoder (session none) (linesOf parts) false
    run.2.fault = none ∧ ∃ report, run.1.result = some report ∧
      report.coverage = [initCoverage.coverage, nextCoverage.reading] := by
  intro parts
  have hquiet : ∀ p ∈ parts, p.IsQuiet :=
    List.forall_mem_cons.mpr ⟨trivial, List.forall_mem_cons.mpr
      ⟨trivial, List.forall_mem_singleton.mpr trivial⟩⟩
  obtain ⟨hfault, hreport⟩ := coverage_of_parts none parts false
  obtain ⟨report, hresult, hcoverage, -⟩ := hreport (hfault hquiet)
  exact ⟨hfault hquiet, report, hresult, hcoverage⟩

/-- Counters that differ are not read as they were told. -/
theorem coverage_exchanged :
    ¬∀ (spec : Option Text) (s : Sheet) (report : CheckReport),
      (Protocol.Reading.readLines decoder (session spec) (Item.message s.message).lines
        false).1.result = some report → report.coverage = s.entries.map Entry.coverage := by
  intro hall
  have hlines : linesOf [.sheet nextSheet] = (Item.message nextSheet.message).lines :=
    List.flatMap_singleton Item.lines _
  have hrun : (Protocol.Reading.readLines decoder (session none) (linesOf [.sheet nextSheet])
      false).2.fault = none := by decide +kernel
  obtain ⟨report, hresult, hcoverage⟩ := report_of_parts hrun
  rw [hlines] at hresult
  have htold := hall none nextSheet report hresult
  rw [hcoverage] at htold
  revert htold
  decide

end TlaRunner.Checker
