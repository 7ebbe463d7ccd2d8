import TlaRunner.Proofs.Settings.Precedence
import TlaRunner.Proofs.Toml.Document

/-!
# How loading settings can end

Loading is meant to end in settings, or in a complaint that names the place to blame
(`IsAnswer`).  It does so if and only if the files that are looked at can be read: the project file
always, and the configuration file where the project file is accepted
(`Settings.Sources.load_isAnswer_iff`).  A file can be read that is not there, or holds a text
without decimal integers of more digits than the limit.

In all other cases what ends the reading of a file gets through as it is, and this is one of three:
the path is too long, the bytes are no text, or the digits are too many (`Settings.Unreadable`).
-/

namespace TlaRunner

/-- Whether there are settings, or a place is to blame that there are none. -/
def IsAnswer (result : Except SettingsFault Config) : Prop :=
  (∃ c, result = .ok c) ∨ ∃ fault origin, result = .error fault ∧ fault.Names origin

theorem isAnswer_ok (c : Config) : IsAnswer (.ok c) :=
  Or.inl ⟨c, rfl⟩

theorem isAnswer_error_iff {fault : SettingsFault} :
    IsAnswer (.error fault) ↔ ∃ origin, fault.Names origin := by
  constructor
  · rintro (⟨c, hc⟩ | ⟨_, origin, hfault, hnames⟩)
    · cases hc
    · cases hfault
      exact ⟨origin, hnames⟩
  · rintro ⟨origin, hnames⟩
    exact Or.inr ⟨fault, origin, rfl, hnames⟩

namespace Settings

open Files (Host)
open Value (Table)
open Text (encode digitLimit)
open Installation (mergeAll check)
open Sources (isNull)

/-- What a place makes of what it sets: settings, or the reason why there are none. -/
def verdict (i : Installation) (place : Origin × Except SettingsFault Table) :
    Except SettingsFault Config :=
  place.2.bind (i.check place.1)

/-- A file that is not there, or holds a text without numerals that are too long. -/
def Readable (h : Host) (p : Path) : Prop :=
  h.read? p = .ok none ∨ ∃ s, h.read? p = .ok (some (Text.encode s)) ∧
    ∀ error, Toml.parse s ≠ .error (.numeral error)

/-- What ends the reading of a file besides a complaint about it. -/
inductive Unreadable (h : Host) (p : Path) : SettingsFault → Prop
  /-- The path is too long. -/
  | long {error : Files.LongPath} (hread : h.read? p = .error error) : Unreadable h p (.long error)
  /-- The bytes are those of no text. -/
  | undecodable {bytes : Bytes} {fault : Text.Utf8Fault} (hread : h.read? p = .ok (some bytes))
      (hbytes : ∀ s, bytes ≠ encode s) : Unreadable h p (.undecodable fault)
  /-- Some digits in the text are more than the limit. -/
  | numeral {s digits : Text} (hread : h.read? p = .ok (some (encode s)))
      (hdigits : Toml.HasDigits s digits) (hlimit : digitLimit < digits.length) :
      Unreadable h p (.numeral (.tooLong digits.length))

/-- Nothing of this names a place. -/
theorem Unreadable.not_names {h : Host} {p : Path} {fault : SettingsFault}
    (hfault : Unreadable h p fault) (origin : Origin) : ¬ fault.Names origin := by
  rintro (rfl | ⟨issues, rfl⟩)
  · cases hfault
  · cases hfault

/-! ## Files -/

variable {i : Installation} {h : Host} {p : Path} {origin : Origin}

/-- A file that can be read holds a table, or is malformed. -/
theorem Readable.holds (hreadable : Readable h p) : ∃ document, Holds h p document := by
  rcases hreadable with hnone | ⟨s, hsome, hnumerals⟩
  · exact ⟨_, .missing hnone⟩
  · cases hparse : Toml.parse s with
    | ok t => exact ⟨_, .table hsome hparse⟩
    | error fault =>
        cases fault with
        | malformed => exact ⟨_, .malformed hsome hparse⟩
        | numeral error => exact absurd hparse (hnumerals error)

/-- A file that can be read is read, unless it is malformed. -/
theorem readDocument_error {fault : SettingsFault} (hreadable : Readable h p)
    (herror : readDocument h p origin = .error fault) : fault = .malformed origin := by
  obtain ⟨document, hholds⟩ := hreadable.holds
  rw [readDocument_of_holds hholds] at herror
  cases document with
  | none => exact (Except.error.inj herror).symm
  | some t => cases herror

/-- Reading a file ends in a table or a complaint about the file, or it cannot be read. -/
theorem readDocument_cases (h : Host) (p : Path) (origin : Origin) :
    (Readable h p ∧
      ((∃ t, readDocument h p origin = .ok t) ∨
        readDocument h p origin = .error (.malformed origin))) ∨
      ∃ fault, readDocument h p origin = .error fault ∧ Unreadable h p fault := by
  rw [readDocument]
  cases hread : h.read? p with
  | error error => exact Or.inr ⟨_, rfl, .long hread⟩
  | ok found =>
      cases found with
      | none => exact Or.inl ⟨Or.inl hread, Or.inl ⟨_, rfl⟩⟩
      | some bytes =>
          simp only [Except.mapError, bind, Except.bind]
          cases hdecoded : Text.decodeOrFault bytes with
          | error fault =>
              refine Or.inr ⟨_, rfl, .undecodable hread fun s hs => ?_⟩
              rw [hs, Text.decodeOrFault_encode] at hdecoded
              cases hdecoded
          | ok s =>
              obtain rfl := Text.decodeOrFault_eq_ok_iff.mp hdecoded
              have hreadable (hnone : ∀ error, Toml.parse s ≠ .error (.numeral error)) :
                  Readable h p := Or.inr ⟨s, hread, hnone⟩
              simp only
              cases hparse : Toml.parse s with
              | ok t =>
                  refine Or.inl ⟨hreadable fun error herror => ?_, Or.inl ⟨_, rfl⟩⟩
                  rw [hparse] at herror
                  cases herror
              | error fault =>
                  cases Toml.parse_error hparse with
                  | malformed =>
                      refine Or.inl ⟨hreadable fun error herror => ?_, Or.inr rfl⟩
                      rw [hparse] at herror
                      cases herror
                  | numeral hdigits hlimit =>
                      exact Or.inr ⟨_, rfl, .numeral hread hdigits hlimit⟩

/-- What a file makes of what it sets. -/
inductive FileVerdict (h : Host) (p : Path) (origin : Origin) :
    Except SettingsFault Config → Prop
  /-- It is read and accepted. -/
  | accepted {c : Config} (hreadable : Readable h p) : FileVerdict h p origin (.ok c)
  /-- It is read, and to blame. -/
  | blamed {fault : SettingsFault} (hreadable : Readable h p) (hnames : fault.Names origin) :
      FileVerdict h p origin (.error fault)
  /-- It cannot be read. -/
  | unreadable {fault : SettingsFault} (hreadable : ¬ Readable h p)
      (hfault : Unreadable h p fault) : FileVerdict h p origin (.error fault)

/-- A fault of a file is a complaint about it if and only if the file can be read. -/
theorem FileVerdict.isAnswer_iff {fault : SettingsFault}
    (hverdict : FileVerdict h p origin (.error fault)) :
    (IsAnswer (.error fault) ↔ Readable h p) ∧
      (¬ IsAnswer (.error fault) → Unreadable h p fault) := by
  cases hverdict with
  | blamed hreadable hnames =>
      have hanswer : IsAnswer (.error fault) := isAnswer_error_iff.mpr ⟨origin, hnames⟩
      exact ⟨iff_of_true hanswer hreadable, fun hnot => absurd hanswer hnot⟩
  | unreadable hreadable hfault =>
      refine ⟨iff_of_false (fun hanswer => ?_) hreadable, fun _ => hfault⟩
      obtain ⟨other, hnames⟩ := isAnswer_error_iff.mp hanswer
      exact hfault.not_names other hnames

theorem verdict_of_ok {place : Origin × Except SettingsFault Table} {t : Table}
    (h : place.2 = .ok t) : verdict i place = i.check place.1 t := by
  rw [verdict, h]
  rfl

theorem fileVerdict (i : Installation) (h : Host) (p : Path) (origin : Origin)
    (f : Table → Table) :
    FileVerdict h p origin (verdict i (origin, (readDocument h p origin).map f)) := by
  rcases readDocument_cases h p origin with
    ⟨hreadable, ⟨t, hread⟩ | hread⟩ | ⟨fault, hread, hfault⟩
  · rw [hread, verdict_of_ok (t := f t) rfl]
    cases hcheck : i.check origin (f t) with
    | ok c => exact .accepted hreadable
    | error fault => exact .blamed hreadable (names_of_check hcheck)
  · rw [hread]
    exact .blamed hreadable (Or.inl rfl)
  · have hnot : ¬ Readable h p := fun hreadable =>
      hfault.not_names origin (Or.inl (readDocument_error hreadable hread))
    rw [hread]
    exact .unreadable hnot hfault

/-! ## All places -/

theorem mergeAll_cons_of_error {place : Origin × Except SettingsFault Table}
    {fault : SettingsFault} (hplace : verdict i place = .error fault) (t : Table)
    (rest : List (Origin × Except SettingsFault Table)) :
    i.mergeAll t (place :: rest) = .error fault := by
  rw [mergeAll_cons]
  cases hset : place.2 with
  | error unread =>
      rw [verdict, hset] at hplace
      obtain rfl : unread = fault := Except.error.inj hplace
      rfl
  | ok fragment =>
      rw [verdict_of_ok hset] at hplace
      simp only [Except.bind, hplace]

theorem mergeAll_cons_of_ok {place : Origin × Except SettingsFault Table} {c : Config}
    (hplace : verdict i place = .ok c) (t : Table)
    (rest : List (Origin × Except SettingsFault Table)) :
    ∃ merged, i.mergeAll t (place :: rest) = i.mergeAll merged rest := by
  rw [mergeAll_cons]
  cases hset : place.2 with
  | error unread =>
      rw [verdict, hset] at hplace
      cases hplace
  | ok fragment =>
      rw [verdict_of_ok hset] at hplace
      simp only [Except.bind, hplace]
      exact ⟨_, rfl⟩

theorem isAnswer_check (i : Installation) (origin : Origin) (t : Table) :
    IsAnswer (i.check origin t) := by
  cases hcheck : i.check origin t with
  | ok c => exact isAnswer_ok c
  | error fault => exact isAnswer_error_iff.mpr ⟨origin, names_of_check hcheck⟩

/-- Nothing besides files can end otherwise. -/
theorem isAnswer_rest (s : Sources) (i : Installation) (t : Table) :
    IsAnswer ((i.mergeAll t [(.environment, .ok (ofEnvironment s.environment))]).bind fun merged =>
      i.check .overrides (merged.update (s.overrides.filter fun entry => !isNull entry.2))) := by
  rw [mergeAll_cons]
  cases hcheck : i.check .environment (ofEnvironment s.environment) with
  | error fault =>
      simp only [Except.bind, hcheck]
      exact isAnswer_error_iff.mpr ⟨.environment, names_of_check hcheck⟩
  | ok c =>
      simp only [Except.bind, hcheck]
      exact isAnswer_check i .overrides _

/-- Whether a result is an answer under a condition, and otherwise one of certain faults. -/
structure Ends (result : Except SettingsFault Config) (good : Prop)
    (bad : SettingsFault → Prop) : Prop where
  isAnswer_iff : IsAnswer result ↔ good
  bad_of_not : ∀ fault, result = .error fault → ¬ IsAnswer result → bad fault

theorem ends_of_isAnswer {result : Except SettingsFault Config} (h : IsAnswer result) :
    Ends result True fun _ => False :=
  ⟨iff_true_intro h, fun _ _ hnot => hnot h⟩

/-- A file that is not accepted ends everything, and behind one that is accepted the rest counts. -/
theorem FileVerdict.ends {place : Origin × Except SettingsFault Table}
    (hverdict : FileVerdict h p origin (verdict i place))
    {rest : List (Origin × Except SettingsFault Table)}
    {finish : Table → Except SettingsFault Config} {good : Prop} {bad : SettingsFault → Prop}
    (hrest : ∀ merged, Ends ((i.mergeAll merged rest).bind finish) good bad) (t : Table) :
    Ends ((i.mergeAll t (place :: rest)).bind finish)
      (Readable h p ∧ ((∃ c, verdict i place = .ok c) → good))
      fun fault => Unreadable h p fault ∨ bad fault := by
  cases hplace : verdict i place with
  | error fault =>
      rw [hplace] at hverdict
      rw [mergeAll_cons_of_error hplace]
      obtain ⟨hiff, hunreadable⟩ := hverdict.isAnswer_iff
      refine ⟨hiff.trans ⟨fun hread => ⟨hread, ?_⟩, And.left⟩, ?_⟩
      · rintro ⟨c, hc⟩
        cases hc
      · intro _ hsame hnot
        cases hsame
        exact Or.inl (hunreadable hnot)
  | ok c =>
      rw [hplace] at hverdict
      cases hverdict with | accepted hread
      obtain ⟨merged, hmerged⟩ := mergeAll_cons_of_ok hplace t rest
      rw [hmerged]
      obtain ⟨hiff, hbad⟩ := hrest merged
      refine ⟨hiff.trans ⟨fun hgood => ⟨hread, fun _ => hgood⟩, ?_⟩, ?_⟩
      · exact fun hboth => hboth.2 ⟨c, rfl⟩
      · exact fun fault hsome hnot => Or.inr (hbad fault hsome hnot)

namespace Sources

/-- Behind the defaults, loading goes through the project file, the configuration file and the
environment. -/
theorem exists_load_eq (s : Sources) (package : Path) (h : Host) :
    let i := Installation.ofPackage package
    ∃ defaults, s.load i h = (i.mergeAll defaults
        [ofProject h s.projectPath none, ofFile h s.configPath none,
          (.environment, .ok (ofEnvironment s.environment))]).bind fun merged =>
      i.check .overrides (merged.update (s.overrides.filter fun entry => !isNull entry.2)) := by
  intro i
  obtain ⟨c, hc⟩ : ∃ c, i.validate (i.dump i.default) = .ok c :=
    Config.exists_ofTable_default package
  have hdefaults : verdict i (.defaults, .ok (i.dump i.default)) = .ok c :=
    (verdict_of_ok rfl).trans (check_eq_ok_iff.mpr hc)
  obtain ⟨defaults, hmerged⟩ := mergeAll_cons_of_ok hdefaults []
    [ofProject h s.projectPath none, ofFile h s.configPath none,
      (.environment, .ok (ofEnvironment s.environment))]
  refine ⟨defaults, ?_⟩
  rw [← hmerged]
  rfl

/-- There are settings or a complaint about a place if and only if the files can be read that are
looked at.  In all other cases one of these files cannot be read, and this is what is raised. -/
theorem load_isAnswer_iff (s : Sources) (package : Path) (h : Host) :
    let i := Installation.ofPackage package
    (IsAnswer (s.load i h) ↔
      Readable h s.projectPath ∧
        ((∃ c, verdict i (ofProject h s.projectPath none) = .ok c) → Readable h s.configPath)) ∧
      ∀ fault, s.load i h = .error fault → ¬ IsAnswer (s.load i h) →
        Unreadable h s.projectPath fault ∨ Unreadable h s.configPath fault := by
  intro i
  obtain ⟨defaults, hload⟩ := s.exists_load_eq package h
  rw [hload]
  have hproject : FileVerdict h s.projectPath _ (verdict i (ofProject h s.projectPath none)) :=
    fileVerdict i h s.projectPath _ fun t => plainKeys (sectionOf t)
  have hconfig : FileVerdict h s.configPath _ (verdict i (ofFile h s.configPath none)) :=
    fileVerdict i h s.configPath _ plainKeys
  obtain ⟨hiff, hbad⟩ := hproject.ends
    (fun t => hconfig.ends (fun t => ends_of_isAnswer (isAnswer_rest s i t)) t) defaults
  simp only [implies_true, and_true, or_false] at hiff hbad
  exact ⟨hiff, hbad⟩

/-- A byte that starts no character is complained about without a place. -/
theorem load_undecodable :
    let h : Host := ⟨[([['p'], "tlaqa.toml".toList], .file [0xFF] false)], [], none, []⟩
    let s : Sources := ⟨⟨.root, [['p']]⟩, none, [], []⟩
    let i := Installation.ofPackage ⟨.root, [['t']]⟩
    s.load i h = .error (.undecodable ⟨0xFF, 0, 1, .badStart⟩) ∧ ¬ IsAnswer (s.load i h) := by
  intro h s i
  have hload : s.load i h = .error (.undecodable ⟨0xFF, 0, 1, .badStart⟩) := by decide +kernel
  refine ⟨hload, fun hanswer => ?_⟩
  rw [hload] at hanswer
  obtain ⟨origin, hsame | ⟨issues, hsame⟩⟩ := isAnswer_error_iff.mp hanswer
  · cases hsame
  · cases hsame

end Sources

end Settings

end TlaRunner
