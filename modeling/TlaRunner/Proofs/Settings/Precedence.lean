import TlaRunner.Proofs.Settings.Config
import TlaRunner.Proofs.Text.Utf8

/-!
# Which place a setting comes from

Settings are taken from several places, each of which is checked on its own before the next one is
taken in.  In the end everything that was taken in is checked once more, together with the
overrides, which are checked nowhere else.

All of this comes to a simple rule (`Settings.Sources.precedes`).  There are settings if and only if
every place is accepted on its own.  Then each setting is what the last place says that says
anything for it.  Otherwise the first place that is not accepted is to blame, and the overrides only
if all other places are accepted.  What a place says is stated on what is written there
(`Settings.Sources.places`), and how values are checked is left to the installation, as long as
every setting is checked on its own.

The reason is that whatever was taken in so far is accepted.  So nothing can be wrong with it
together with the overrides that is not wrong with the overrides (`Config.Fields.accepts_or_iff`).
-/

namespace TlaRunner

/-- Whether missing settings are blamed on a place. -/
def SettingsFault.Names (fault : SettingsFault) (origin : Origin) : Prop :=
  fault = .malformed origin ∨ ∃ issues, fault = .invalid origin issues

/-- Whoever is to blame is called by its name. -/
theorem SettingsFault.Names.isInfix {fault : SettingsFault} {origin : Origin}
    (h : fault.Names origin) : origin.describe <:+: fault.message := by
  rcases h with rfl | ⟨issues, rfl⟩
  · exact (List.prefix_append _ _).isInfix
  · exact (List.suffix_append _ _).isInfix

theorem SettingsFault.Names.unique {fault : SettingsFault} {origin other : Origin}
    (h : fault.Names origin) (hother : fault.Names other) : other = origin := by
  rcases h with rfl | ⟨issues, rfl⟩
  · rcases hother with hsame | ⟨_, hsame⟩
    · exact (SettingsFault.malformed.inj hsame).symm
    · cases hsame
  · rcases hother with hsame | ⟨_, hsame⟩
    · cases hsame
    · exact (SettingsFault.invalid.inj hsame).1.symm

namespace Settings

open Files (Host)
open Value (Table)
open Config (Fields)
open Installation (check mergeAll)

/-! ## Places -/

/-- A place as it is seen from outside. -/
structure Place where
  origin : Origin
  /-- What it is called. -/
  name : Text
  /-- What it says for a key.  A malformed file says nothing at all. -/
  said : Option (Text → Option Value)

namespace Place

/-- What a place says for a key. -/
def mention (key : Text) (p : Place) : Option Value :=
  p.said.bind (· key)

/-- Whether a place can be read and all that it says is accepted. -/
def Accepted (f : Fields) (p : Place) : Prop :=
  ∃ said, p.said = some said ∧ f.Accepts said

/-- What is said last is said by the places that come later, if they say anything. -/
theorem getLast?_mention_cons (key : Text) (p : Place) (rest : List Place) :
    ((p :: rest).filterMap (mention key)).getLast? =
      ((rest.filterMap (mention key)).getLast?).or (p.mention key) := by
  rw [List.filterMap_cons]
  cases p.mention key with
  | none => exact Option.or_none.symm
  | some v =>
      simp only [List.getLast?_cons]
      cases (rest.filterMap (mention key)).getLast? with
      | none => rfl
      | some last => rfl

theorem getLast?_mention_concat (key : Text) (places : List Place) (p : Place) :
    ((places ++ [p]).filterMap (mention key)).getLast? =
      (p.mention key).or ((places.filterMap (mention key)).getLast?) := by
  rw [List.filterMap_append, List.getLast?_append, getLast?_mention_cons]
  rfl

end Place

/-- A place that was looked at: a table whose keys are distinct, or a malformed file. -/
inductive Shows : Origin × Except SettingsFault Table → Place → Prop
  | told {origin : Origin} {t : Table} {name : Text} {said : Text → Option Value}
      (hkeys : t.keys.Nodup) (hsaid : ∀ key, t.get? key = said key) :
      Shows (origin, .ok t) ⟨origin, name, some said⟩
  | malformed {origin : Origin} {name : Text} :
      Shows (origin, .error (.malformed origin)) ⟨origin, name, none⟩

/-! ## Taking places in -/

section Merging

variable {i : Installation} {f : Fields}

/-- What is wrong with the settings of a place is blamed on it. -/
theorem names_of_check {origin : Origin} {t : Table} {fault : SettingsFault}
    (h : i.check origin t = .error fault) : fault.Names origin := by
  rw [check] at h
  cases hissues : i.validate t with
  | ok c =>
      rw [hissues] at h
      cases h
  | error issues =>
      rw [hissues] at h
      cases h
      exact Or.inr ⟨issues, rfl⟩

theorem check_eq_ok_iff {origin : Origin} {t : Table} {c : Config} :
    i.check origin t = .ok c ↔ i.validate t = .ok c :=
  mapError_eq_ok_iff

theorem mergeAll_cons (t : Table) (place : Origin × Except SettingsFault Table)
    (rest : List (Origin × Except SettingsFault Table)) :
    i.mergeAll t (place :: rest) = place.2.bind fun fragment =>
      (i.check place.1 fragment).bind fun _ => i.mergeAll (t.update fragment) rest := rfl

/-- What taking places in leads to, where something was accepted before. -/
inductive Merges (f : Fields) (t : Table) (places : List Place) :
    Except SettingsFault Table → Prop
  /-- Every place is accepted, and so is all of it together; for each key the last place counts that
  says anything. -/
  | merged {merged : Table} (hplaces : ∀ place ∈ places, place.Accepted f)
      (hkeys : merged.keys.Nodup) (haccepted : f.Accepts merged.get?)
      (hsaid : ∀ key,
        merged.get? key = ((places.filterMap (·.mention key)).getLast?).or (t.get? key)) :
      Merges f t places (.ok merged)
  /-- The first place that is not accepted is to blame. -/
  | refused {before after : List Place} {place : Place} {fault : SettingsFault}
      (hplaces : places = before ++ place :: after)
      (hbefore : ∀ earlier ∈ before, earlier.Accepted f) (hplace : ¬ place.Accepted f)
      (hnames : fault.Names place.origin) : Merges f t places (.error fault)

/-- A table that takes in another one says what that one says, and else what it said before. -/
theorem get?_update_eq_or {t other : Table} {said : Text → Option Value} (hkeys : other.keys.Nodup)
    (hsaid : ∀ key, other.get? key = said key) :
    (t.update other).get? = fun key => (said key).or (t.get? key) := by
  funext key
  rw [Table.get?_update, Table.last?_eq_get? hkeys, hsaid]

/-- Taking places in leads to one of these. -/
theorem merges (hfields : i.Fieldwise f) {looked : List (Origin × Except SettingsFault Table)}
    {places : List Place} (hshows : List.Forall₂ Shows looked places) {t : Table}
    (hkeys : t.keys.Nodup) (haccepted : f.Accepts t.get?) :
    Merges f t places (i.mergeAll t looked) := by
  induction hshows generalizing t with
  | nil => exact .merged (fun _ h => by cases h) hkeys haccepted fun _ => rfl
  | cons hshow hrest ih =>
      rw [mergeAll_cons]
      cases hshow with
      | malformed =>
          refine .refused (List.nil_append _).symm (fun _ h => by cases h) ?_ (Or.inl rfl)
          rintro ⟨said, hnone, _⟩
          cases hnone
      | @told origin fragment name said hnodup hsaid =>
          have hfragment : fragment.get? = said := funext hsaid
          have hiff := hfields.accepts fragment hnodup
          rw [hfragment] at hiff
          simp only [Except.bind]
          cases hcheck : i.check origin fragment with
          | error fault =>
              refine .refused (List.nil_append _).symm (fun _ h => by cases h) ?_
                (names_of_check hcheck)
              rintro ⟨said', hsame, haccepts⟩
              obtain rfl := Option.some.inj hsame
              obtain ⟨c, hc⟩ := hiff.mpr haccepts
              rw [check_eq_ok_iff.mpr hc] at hcheck
              cases hcheck
          | ok c =>
              have haccepts : f.Accepts said := hiff.mp ⟨c, check_eq_ok_iff.mp hcheck⟩
              have hupdate := get?_update_eq_or (t := t) hnodup hsaid
              have hnext : f.Accepts (t.update fragment).get? := by
                rw [hupdate]
                exact (Fields.accepts_or_iff haccepted).mpr haccepts
              have hlater := ih (Table.nodup_keys_update hkeys fragment) hnext
              simp only
              generalize i.mergeAll (t.update fragment) _ = result at hlater ⊢
              cases hlater with
              | merged hplaces hmerged hall hlast =>
                  refine .merged (List.forall_mem_cons.mpr ⟨⟨said, rfl, haccepts⟩, hplaces⟩)
                    hmerged hall fun key => ?_
                  rw [hlast, hupdate, Place.getLast?_mention_cons, Option.or_assoc]
                  rfl
              | refused hplaces hbefore hblamed hnames =>
                  exact .refused (hplaces ▸ (List.cons_append ..).symm)
                    (List.forall_mem_cons.mpr ⟨⟨said, rfl, haccepts⟩, hbefore⟩) hblamed hnames

end Merging

/-! ## Files -/

/-- What is found in a file that is not there or holds a text: a table, or none if the text is
malformed.  In a file that is not there nothing is found. -/
inductive Holds (h : Host) (p : Path) : Option Table → Prop
  | missing (hread : h.read? p = .ok none) : Holds h p (some [])
  | table {s : Text} {t : Table} (hread : h.read? p = .ok (some (Text.encode s)))
      (hparse : Toml.parse s = .ok t) : Holds h p (some t)
  | malformed {s : Text} (hread : h.read? p = .ok (some (Text.encode s)))
      (hparse : Toml.parse s = .error .malformed) : Holds h p none

theorem readDocument_of_holds {h : Host} {p : Path} {document : Option Table}
    (hholds : Holds h p document) (origin : Origin) :
    readDocument h p origin =
      match document with
      | some t => .ok t
      | none => .error (.malformed origin) := by
  rw [readDocument]
  cases hholds with
  | missing hread =>
      rw [hread]
      rfl
  | table hread hparse =>
      rw [hread]
      simp only [Except.mapError, bind, Except.bind, Text.decodeOrFault_encode, hparse]
      rfl
  | malformed hread hparse =>
      rw [hread]
      simp only [Except.mapError, bind, Except.bind, Text.decodeOrFault_encode, hparse]
      rfl

/-- A file whose table is made plain shows what is said by the table. -/
theorem shows_file {h : Host} {p : Path} {document : Option Table} (hholds : Holds h p document)
    {f : Table → Table} {said : Table → Text → Option Value}
    (hsaid : ∀ t key, (plainKeys (f t)).get? key = said t key) (origin : Origin) (name : Text) :
    Shows (origin, (readDocument h p origin).map fun t => plainKeys (f t))
      ⟨origin, name, document.map said⟩ := by
  rw [readDocument_of_holds hholds]
  cases document with
  | none => exact .malformed
  | some t => exact .told (nodup_plainKeys _) (hsaid t)

/-! ## The environment -/

/-- The variable of the environment for a key, if it has one. -/
def variableOf? (key : Text) : Option Text :=
  if key = "java_home".toList then some "TLAQA_JAVA_HOME".toList
  else if key = "java_options".toList then some "TLAQA_JAVA_OPTIONS".toList
  else if key = "tools_archive".toList then some "TLAQA_TOOLS_ARCHIVE".toList
  else none

/-- What an environment says for a key. -/
def saidByVariable (environment : List (Text × Text)) (key : Text) : Option Value :=
  (variableOf? key).bind fun name =>
    (environment.find? (·.1 = name)).map fun entry => .text entry.2

theorem find?_environmentNames (key : Text) :
    (environmentNames.find? (·.1 = key)).map (·.2) = variableOf? key := by
  by_cases hhome : key = "java_home".toList
  · subst hhome
    rfl
  by_cases hoptions : key = "java_options".toList
  · subst hoptions
    rfl
  by_cases harchive : key = "tools_archive".toList
  · subst harchive
    rfl
  rw [variableOf?, if_neg hhome, if_neg hoptions, if_neg harchive, Option.map_eq_none_iff,
    List.find?_eq_none]
  intro known hknown hsame
  simp only [environmentNames, List.mem_cons, List.not_mem_nil, or_false] at hknown
  have hkey := of_decide_eq_true hsame
  rcases hknown with rfl | rfl | rfl
  · exact hhome hkey.symm
  · exact hoptions hkey.symm
  · exact harchive hkey.symm

/-- A variable gives the value of its key. -/
theorem key_of_variable {environment : List (Text × Text)} {known : Text × Text} :
    ∀ entry ∈ (environment.find? (·.1 = known.2)).map fun entry => (known.1, Value.text entry.2),
      entry.1 = known.1 := by
  intro entry hentry
  obtain ⟨_, _, rfl⟩ := Option.map_eq_some_iff.mp hentry
  rfl

theorem shows_environment (environment : List (Text × Text)) (name : Text) :
    Shows (.environment, .ok (ofEnvironment environment))
      ⟨.environment, name, some (saidByVariable environment)⟩ := by
  have hnames : (environmentNames.map (·.1)).Nodup := by decide
  refine .told ?_ fun key => ?_
  · exact hnames.sublist (Table.keys_filterMap_sublist (fun _ => key_of_variable) environmentNames)
  · refine (Table.get?_filterMap hnames (fun _ => key_of_variable) key).trans ?_
    rw [saidByVariable, ← find?_environmentNames, Option.bind_map]
    simp only [Option.map_map]
    rfl

/-! ## The overrides -/

/-- What overrides say for a key.  One without a value says nothing. -/
def saidByOverride (overrides : Table) (key : Text) : Option Value :=
  match overrides.get? key with
  | some .null => none
  | said => said

theorem get?_filter_notNull {overrides : Table} (hkeys : overrides.keys.Nodup) (key : Text) :
    Table.get? (overrides.filter fun entry => !Sources.isNull entry.2) key =
      saidByOverride overrides key := by
  rw [Table.get?_filter hkeys (!Sources.isNull ·), saidByOverride]
  cases overrides.get? key with
  | none => rfl
  | some v =>
      cases v with
      | null => rfl
      | _ => rfl

/-- A table with overrides says what these say, and else what it said before. -/
theorem get?_update_overrides {t overrides : Table} (hkeys : t.keys.Nodup)
    (hoverrides : overrides.keys.Nodup) :
    let table := t.update (overrides.filter fun entry => !Sources.isNull entry.2)
    table.keys.Nodup ∧ table.get? = fun key => (saidByOverride overrides key).or (t.get? key) := by
  have hgiven : (Table.keys (overrides.filter fun entry => !Sources.isNull entry.2)).Nodup :=
    hoverrides.sublist (List.filter_sublist.map _)
  exact ⟨Table.nodup_keys_update hkeys _,
    get?_update_eq_or hgiven (get?_filter_notNull hoverrides)⟩

namespace Sources

/-- Where the project file is. -/
def projectPath (s : Sources) : Path :=
  s.root.join (.ofText "pyproject.toml".toList)

/-- Where the configuration file is. -/
def configPath (s : Sources) : Path :=
  s.configFile.getD (s.root.join (.ofText "tlaqa.toml".toList))

/-- The places with files and variables, in order, given what is found in the files. -/
def written (s : Sources) (project config : Option Table) : List Place :=
  [⟨.project s.projectPath.toText, "pyproject.toml (".toList ++ s.projectPath.toText ++ [')'],
      project.map saidInSection⟩,
    ⟨.file s.configPath.toText, "TOML configuration at ".toList ++ s.configPath.toText,
      config.map saidBy⟩,
    ⟨.environment, "environment variables".toList, some (saidByVariable s.environment)⟩]

/-- The overrides as a place. -/
def overriding (s : Sources) : Place :=
  ⟨.overrides, "command line overrides".toList, some (saidByOverride s.overrides)⟩

/-- All places, in order. -/
def places (s : Sources) (project config : Option Table) : List Place :=
  s.written project config ++ [s.overriding]

/-- How the places make up the settings, given what is found in the files. -/
structure Precedes (s : Sources) (i : Installation) (h : Host) (f : Fields)
    (project config : Option Table) : Prop where
  /-- There are settings if and only if every place can be read and is accepted on its own. -/
  loads : (∃ c, s.load i h = .ok c) ↔ ∀ place ∈ s.places project config, place.Accepted f
  /-- Then each setting is what is said last for its key, and its default if nothing is said. -/
  reads : ∀ c, s.load i h = .ok c →
    c.Reads f (.default i.package) fun key =>
      ((s.places project config).filterMap (·.mention key)).getLast?
  /-- Otherwise the first place that is not accepted on its own is to blame, and is named. -/
  blames : ∀ fault, s.load i h = .error fault → ∃ before place after,
    s.places project config = before ++ place :: after ∧
      (∀ earlier ∈ before, earlier.Accepted f) ∧ ¬ place.Accepted f ∧
      fault.Names place.origin ∧ place.name <:+: fault.message
  /-- The overrides are to blame only if every other place is accepted. -/
  spares : ∀ fault, s.load i h = .error fault → fault.Names .overrides →
    ∀ place ∈ s.written project config, place.Accepted f

variable {s : Sources} {i : Installation} {h : Host} {f : Fields} {project config : Option Table}

/-- Every place is called as it is in complaints. -/
theorem name_of_mem_places {place : Place} (hplace : place ∈ s.places project config) :
    place.name = place.origin.describe := by
  simp only [places, written, List.cons_append, List.nil_append, List.mem_cons, List.not_mem_nil,
    or_false] at hplace
  rcases hplace with rfl | rfl | rfl | rfl
  · rfl
  · rfl
  · rfl
  · rfl

theorem origin_of_mem_written {place : Place} (hplace : place ∈ s.written project config) :
    place.origin ≠ .overrides := by
  simp only [written, List.mem_cons, List.not_mem_nil, or_false] at hplace
  rcases hplace with rfl | rfl | rfl
  · exact nofun
  · exact nofun
  · exact nofun

/-- Loading starts with the defaults, which are accepted. -/
theorem load_eq_bind (hfields : i.Fieldwise f) (s : Sources) (h : Host) :
    s.load i h = (i.mergeAll (i.dump i.default)
        [ofProject h s.projectPath none, ofFile h s.configPath none,
          (.environment, .ok (ofEnvironment s.environment))]).bind fun merged =>
      i.check .overrides (merged.update (s.overrides.filter fun entry => !isNull entry.2)) := by
  rw [load, fragments, mergeAll_cons]
  have hcheck : i.check .defaults (i.dump i.default) = .ok i.default :=
    check_eq_ok_iff.mpr hfields.restores
  simp only [Except.bind, hcheck, Table.update_nil hfields.distinct]
  rfl

/-- Where a place is to blame, all that is to be shown is that it is the first one. -/
theorem precedes_of_error {before after : List Place} {place : Place} {fault : SettingsFault}
    (hload : s.load i h = .error fault)
    (hplaces : s.places project config = before ++ place :: after)
    (hbefore : ∀ earlier ∈ before, earlier.Accepted f) (hplace : ¬ place.Accepted f)
    (hnames : fault.Names place.origin)
    (hspared : place.origin = .overrides → ∀ p ∈ s.written project config, p.Accepted f) :
    s.Precedes i h f project config := by
  have hmem : place ∈ s.places project config :=
    hplaces ▸ List.mem_append_right _ List.mem_cons_self
  refine ⟨iff_of_false (fun ⟨_, hok⟩ => ?_) fun hall => hplace (hall place hmem), fun _ hok => ?_,
    fun fault' hfault => ?_, fun fault' hfault hoverride => ?_⟩
  · rw [hload] at hok
    cases hok
  · rw [hload] at hok
    cases hok
  · obtain rfl : fault = fault' := Except.error.inj (hload.symm.trans hfault)
    refine ⟨before, place, after, hplaces, hbefore, hplace, hnames, ?_⟩
    exact name_of_mem_places hmem ▸ hnames.isInfix
  · obtain rfl : fault = fault' := Except.error.inj (hload.symm.trans hfault)
    exact hspared (hoverride.unique hnames)

/-- Where there are settings, all that is to be shown is where they come from. -/
theorem precedes_of_ok {c : Config} (hload : s.load i h = .ok c)
    (hplaces : ∀ place ∈ s.places project config, place.Accepted f)
    (hreads : c.Reads f (.default i.package) fun key =>
      ((s.places project config).filterMap (·.mention key)).getLast?) :
    s.Precedes i h f project config := by
  refine ⟨iff_of_true ⟨c, hload⟩ hplaces, fun c' hc' => ?_, fun _ hfault => ?_,
    fun _ hfault => ?_⟩
  · obtain rfl : c = c' := Except.ok.inj (hload.symm.trans hc')
    exact hreads
  · rw [hload] at hfault
    cases hfault
  · rw [hload] at hfault
    cases hfault

/-- Each place overrides those before it, and the first one that is not accepted is to blame. -/
theorem precedes (s : Sources) (i : Installation) (h : Host) (hfields : i.Fieldwise f)
    (hoverrides : s.overrides.keys.Nodup) (hproject : Holds h s.projectPath project)
    (hconfig : Holds h s.configPath config) : s.Precedes i h f project config := by
  have hload := load_eq_bind hfields s h
  have hdefaults : f.Accepts (i.dump i.default).get? :=
    (hfields.accepts _ hfields.distinct).mp ⟨_, hfields.restores⟩
  have hshows : List.Forall₂ Shows [ofProject h s.projectPath none, ofFile h s.configPath none,
      (.environment, .ok (ofEnvironment s.environment))] (s.written project config) :=
    .cons (shows_file hproject get?_plainKeys_sectionOf _ _) <|
      .cons (shows_file (f := id) hconfig get?_plainKeys _ _) <|
      .cons (shows_environment s.environment _) .nil
  have hmerges := merges hfields hshows hfields.distinct hdefaults
  generalize i.mergeAll (i.dump i.default) _ = result at hload hmerges
  cases hmerges with
  | @refused before after place fault hplaces hbefore hplace hnames =>
      have hall : s.places project config = before ++ place :: (after ++ [s.overriding]) := by
        rw [places, hplaces, List.append_assoc, List.cons_append]
      refine precedes_of_error hload hall hbefore hplace hnames fun hoverride => ?_
      have hmem : place ∈ s.written project config :=
        hplaces ▸ List.mem_append_right _ List.mem_cons_self
      exact absurd hoverride (origin_of_mem_written hmem)
  | @merged merged hplaces hkeys haccepted hsaid =>
      -- The overrides are checked together with everything else, as if on their own.
      obtain ⟨hnodup, hupdate⟩ := get?_update_overrides hkeys hoverrides
      change s.load i h = i.check .overrides (merged.update _) at hload
      generalize merged.update _ = table at hload hupdate hnodup
      have haccepts := hfields.accepts table hnodup
      rw [hupdate, Fields.accepts_or_iff haccepted] at haccepts
      cases hcheck : i.check .overrides table with
      | error fault =>
          have hall : s.places project config = s.written project config ++ [s.overriding] := rfl
          refine precedes_of_error (hload.trans hcheck) hall hplaces ?_ (names_of_check hcheck)
            fun _ => hplaces
          rintro ⟨said, hsame, hsaid⟩
          obtain rfl := Option.some.inj hsame
          obtain ⟨c, hc⟩ := haccepts.mpr hsaid
          rw [check_eq_ok_iff.mpr hc] at hcheck
          cases hcheck
      | ok c =>
          have hc := check_eq_ok_iff.mp hcheck
          refine precedes_of_ok (hload.trans hcheck) (List.forall_mem_append.mpr ⟨hplaces, ?_⟩) ?_
          · exact List.forall_mem_singleton.mpr ⟨_, rfl, haccepts.mp ⟨c, hc⟩⟩
          · have hreads := hfields.reads table hnodup c hc
            rw [hupdate] at hreads
            simp only [hsaid, ← Option.or_assoc] at hreads
            simp only [places, Place.getLast?_mention_concat]
            have hdefault := hfields.reads _ hfields.distinct _ hfields.restores
            exact (Config.reads_or_iff hdefault).mp hreads

/-- Two files with keys in several spellings, a blank variable, and a Java home as an override. -/
theorem precedes_spellings :
    let project :=
      "[tool.tlaqa]\njava-home = '/a'\njava-options = '-ea'\n\n[tool.other]\nkey = 1\n".toList
    let config := "tlc-options = '-a'\ntlc_options = '-b'\n".toList
    let h : Host := ⟨[([['p'], "pyproject.toml".toList], .file (Text.encode project) false),
      ([['p'], "tlaqa.toml".toList], .file (Text.encode config) false)], [], none, []⟩
    let s (home : Value) : Sources :=
      ⟨⟨.root, [['p']]⟩, none, [("TLAQA_JAVA_HOME".toList, [' '])], [("java_home".toList, home)]⟩
    let i := Installation.ofPackage ⟨.root, [['t']]⟩
    let archive : Path := ⟨.root, [['t'], "tools".toList, "tla2tools.jar".toList]⟩
    let c : Config := ⟨none, "-ea".toList, [], "-b".toList, true, archive, .ofInt 2⟩
    let home : Path := ⟨.root, [['b']]⟩
    (∃ projectTable configTable, i.Fieldwise .standard ∧ (s (.path home)).overrides.keys.Nodup ∧
      Holds h (s (.path home)).projectPath (some projectTable) ∧
      Holds h (s (.path home)).configPath (some configTable) ∧
      (s (.path home)).Precedes i h .standard (some projectTable) (some configTable)) ∧
      (s (.path home)).load i h = .ok { c with javaHome := some home } ∧
      (s .null).load i h = .ok c := by
  intro project config h s i archive c home
  have hfields : i.Fieldwise .standard := ofPackage_fieldwise (by decide +kernel)
  have hoverrides : (s (.path home)).overrides.keys.Nodup := by decide
  have hparsed : (Toml.parse project).isOk = true ∧ (Toml.parse config).isOk = true := by
    decide +kernel
  have hholds {p : Path} {document : Text} (hread : h.read? p = .ok (some (Text.encode document)))
      (hok : (Toml.parse document).isOk = true) : ∃ t, Holds h p (some t) := by
    cases hparse : Toml.parse document with
    | error fault =>
        rw [hparse] at hok
        cases hok
    | ok t => exact ⟨t, .table hread hparse⟩
  obtain ⟨projectTable, hproject⟩ := hholds (p := (s (.path home)).projectPath)
    (by decide +kernel) hparsed.1
  obtain ⟨configTable, hconfig⟩ := hholds (p := (s (.path home)).configPath)
    (by decide +kernel) hparsed.2
  refine ⟨⟨projectTable, configTable, hfields, hoverrides, hproject, hconfig, ?_⟩, ?_⟩
  · exact precedes _ i h hfields hoverrides hproject hconfig
  · decide +kernel

end Sources

end Settings

end TlaRunner
