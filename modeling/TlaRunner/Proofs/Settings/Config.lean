import TlaRunner.Proofs.Result
import TlaRunner.Proofs.Settings.Table

/-!
# What a table of settings gives

How a table of settings is checked is up to a library.  All that is needed of it is that every
setting is checked on its own (`Settings.Installation.Fieldwise`).  A table is accepted if and only
if all of its keys are settings and each value is accepted for its own setting, and then every
setting is read from the entry for its key alone.

So settings may be mixed from several tables.  What says more than something that was accepted is
accepted if and only if what it says more is accepted (`Config.Fields.accepts_or_iff`).

The library that the program runs with is such a library (`Settings.ofPackage_fieldwise`).
-/

namespace TlaRunner

namespace Checked

variable {α β : Type}

theorem below_eq_ok_iff {key : Text} {c : Checked α} {x : α} : below key c = .ok x ↔ c = .ok x := by
  cases c with
  | error issues => exact iff_of_false (fun h => by cases h) fun h => by cases h
  | ok y => exact Iff.rfl

theorem both_eq_ok_iff {a : Checked α} {b : Checked β} {p : α × β} :
    a.both b = .ok p ↔ a = .ok p.1 ∧ b = .ok p.2 := by
  obtain ⟨x, y⟩ := p
  cases a with
  | error issues => exact iff_of_false (fun h => by cases h) fun h => by cases h.1
  | ok x' =>
      cases b with
      | error issues => exact iff_of_false (fun h => by cases h) fun h => by cases h.2
      | ok y' => simp [both]

end Checked

/-! ## Fields -/

namespace Value

variable {α : Type}

/-- What a field is, given what is said for its key: the value as its check takes it, and its
default if nothing is said. -/
def Given (check : Value → Checked α) (default : α) (said : Option Value) (x : α) : Prop :=
  match said with
  | some v => check v = .ok x
  | none => x = default

/-- Whether a field takes what is said for its key, if anything is. -/
def Takes (check : Value → Checked α) (said : Option Value) : Prop :=
  ∀ v, said = some v → ∃ x, check v = .ok x

variable {check : Value → Checked α} {default x : α} {said base : Option Value}

theorem exists_given_iff : (∃ x, Given check default said x) ↔ Takes check said := by
  cases said with
  | none => exact iff_of_true ⟨default, rfl⟩ fun _ h => by cases h
  | some v =>
      refine ⟨fun hgiven v' hv' => ?_, fun htakes => htakes v rfl⟩
      obtain rfl := Option.some.inj hv'
      exact hgiven

/-- What gives the default may be left unsaid. -/
theorem given_or_iff (hbase : Given check default base default) :
    Given check default (said.or base) x ↔ Given check default said x := by
  cases said with
  | some v => exact Iff.rfl
  | none =>
      rw [Option.none_or]
      cases base with
      | none => exact Iff.rfl
      | some v =>
          have hv : check v = .ok default := hbase
          rw [Given, Given, hv]
          exact ⟨fun hsame => (Except.ok.inj hsame).symm, fun hsame => congrArg _ hsame.symm⟩

/-- Where a field takes what is said in any case, it depends on what is said more. -/
theorem takes_or_iff (hbase : Takes check base) :
    Takes check (said.or base) ↔ Takes check said := by
  cases said with
  | some v => exact Iff.rfl
  | none => exact iff_of_true hbase fun _ h => by cases h

theorem Table.fieldOr_eq_ok_iff {t : Table} {key : Text} :
    t.fieldOr key check default = .ok x ↔ Given check default (t.get? key) x := by
  rw [fieldOr]
  cases t.get? key with
  | none => exact ⟨fun h => (Except.ok.inj h).symm, fun h => congrArg Except.ok h.symm⟩
  | some v => exact Checked.below_eq_ok_iff

end Value

/-! ## Settings -/

namespace Config

open Decimal (Double)
open Value (Given Takes Table)

/-- The checks of values, one for each setting.  That of the Java home is not asked about blank
texts. -/
structure Fields where
  javaHome : Value → Checked (Option Path)
  javaOptions : Value → Checked Text
  transpilerOptions : Value → Checked Text
  checkerOptions : Value → Checked Text
  createOutFiles : Value → Checked Bool
  toolsArchive : Value → Checked Path
  debuggerDelay : Value → Checked Double

/-- The settings, given what is said for each key. -/
structure Reads (c : Config) (f : Fields) (default : Config) (said : Text → Option Value) :
    Prop where
  javaHome : Given (fun v => f.javaHome (unsetBlank v)) default.javaHome (said "java_home".toList)
    c.javaHome
  javaOptions : Given f.javaOptions default.javaOptions (said "java_options".toList) c.javaOptions
  transpilerOptions : Given f.transpilerOptions default.transpilerOptions
    (said "pluscal_options".toList) c.transpilerOptions
  checkerOptions :
    Given f.checkerOptions default.checkerOptions (said "tlc_options".toList) c.checkerOptions
  createOutFiles : Given f.createOutFiles default.createOutFiles (said "create_out_files".toList)
    c.createOutFiles
  toolsArchive :
    Given f.toolsArchive default.toolsArchive (said "tools_archive".toList) c.toolsArchive
  debuggerDelay :
    Given f.debuggerDelay default.debuggerDelay (said "debugger_delay".toList) c.debuggerDelay

/-- What gives the defaults may be left unsaid. -/
theorem reads_or_iff {c default : Config} {f : Fields} {said base : Text → Option Value}
    (hbase : default.Reads f default base) :
    (c.Reads f default fun key => (said key).or (base key)) ↔ c.Reads f default said := by
  constructor
  · intro h
    exact ⟨(Value.given_or_iff hbase.javaHome).mp h.javaHome,
      (Value.given_or_iff hbase.javaOptions).mp h.javaOptions,
      (Value.given_or_iff hbase.transpilerOptions).mp h.transpilerOptions,
      (Value.given_or_iff hbase.checkerOptions).mp h.checkerOptions,
      (Value.given_or_iff hbase.createOutFiles).mp h.createOutFiles,
      (Value.given_or_iff hbase.toolsArchive).mp h.toolsArchive,
      (Value.given_or_iff hbase.debuggerDelay).mp h.debuggerDelay⟩
  · intro h
    exact ⟨(Value.given_or_iff hbase.javaHome).mpr h.javaHome,
      (Value.given_or_iff hbase.javaOptions).mpr h.javaOptions,
      (Value.given_or_iff hbase.transpilerOptions).mpr h.transpilerOptions,
      (Value.given_or_iff hbase.checkerOptions).mpr h.checkerOptions,
      (Value.given_or_iff hbase.createOutFiles).mpr h.createOutFiles,
      (Value.given_or_iff hbase.toolsArchive).mpr h.toolsArchive,
      (Value.given_or_iff hbase.debuggerDelay).mpr h.debuggerDelay⟩

namespace Fields

/-- Whether all that is said is accepted: nothing is said for other keys than those of settings,
and each setting takes what is said for its key. -/
structure Accepts (f : Fields) (said : Text → Option Value) : Prop where
  known : ∀ key v, said key = some v → key ∈ keys
  javaHome : Takes (fun v => f.javaHome (unsetBlank v)) (said "java_home".toList)
  javaOptions : Takes f.javaOptions (said "java_options".toList)
  transpilerOptions : Takes f.transpilerOptions (said "pluscal_options".toList)
  checkerOptions : Takes f.checkerOptions (said "tlc_options".toList)
  createOutFiles : Takes f.createOutFiles (said "create_out_files".toList)
  toolsArchive : Takes f.toolsArchive (said "tools_archive".toList)
  debuggerDelay : Takes f.debuggerDelay (said "debugger_delay".toList)

/-- Where something is accepted in any case, it depends on what is said more. -/
theorem accepts_or_iff {f : Fields} {said base : Text → Option Value} (hbase : f.Accepts base) :
    (f.Accepts fun key => (said key).or (base key)) ↔ f.Accepts said := by
  constructor
  · intro h
    refine ⟨fun key v hv => h.known key v ?_, (Value.takes_or_iff hbase.javaHome).mp h.javaHome,
      (Value.takes_or_iff hbase.javaOptions).mp h.javaOptions,
      (Value.takes_or_iff hbase.transpilerOptions).mp h.transpilerOptions,
      (Value.takes_or_iff hbase.checkerOptions).mp h.checkerOptions,
      (Value.takes_or_iff hbase.createOutFiles).mp h.createOutFiles,
      (Value.takes_or_iff hbase.toolsArchive).mp h.toolsArchive,
      (Value.takes_or_iff hbase.debuggerDelay).mp h.debuggerDelay⟩
    rw [hv, Option.some_or]
  · intro h
    refine ⟨fun key v hv => ?_, (Value.takes_or_iff hbase.javaHome).mpr h.javaHome,
      (Value.takes_or_iff hbase.javaOptions).mpr h.javaOptions,
      (Value.takes_or_iff hbase.transpilerOptions).mpr h.transpilerOptions,
      (Value.takes_or_iff hbase.checkerOptions).mpr h.checkerOptions,
      (Value.takes_or_iff hbase.createOutFiles).mpr h.createOutFiles,
      (Value.takes_or_iff hbase.toolsArchive).mpr h.toolsArchive,
      (Value.takes_or_iff hbase.debuggerDelay).mpr h.debuggerDelay⟩
    rcases Option.or_eq_some_iff.mp hv with hsaid | ⟨-, hsaid⟩
    · exact h.known key v hsaid
    · exact hbase.known key v hsaid

/-- The checks that the program runs with. -/
def standard : Fields :=
  ⟨Value.asOption Value.asPath, Value.asText, Value.asText, Value.asText, Value.asBool,
    Value.asPath, Value.asNonnegative⟩

end Fields

/-! ## Tables -/

theorem unknownKeys_eq_ok_iff {t : Table} {u : Unit} :
    unknownKeys t = .ok u ↔ ∀ key ∈ t.keys, key ∈ keys := by
  have hstrangers : t.filter (fun entry => !keys.contains entry.1) = [] ↔
      ∀ key ∈ t.keys, key ∈ keys := by
    rw [List.filter_eq_nil_iff, Table.keys, List.forall_mem_map]
    simp
  rw [← hstrangers, unknownKeys]
  cases t.filter fun entry => !keys.contains entry.1 with
  | nil => exact iff_of_true rfl rfl
  | cons entry rest => exact iff_of_false (fun h => by cases h) (List.cons_ne_nil _ _)

/-- A table is accepted if and only if its keys are settings and each of its values is accepted,
and then gives every setting on its own. -/
theorem ofTable_eq_ok_iff {package : Path} {t : Table} {c : Config} :
    ofTable package t = .ok c ↔
      (∀ key ∈ t.keys, key ∈ keys) ∧ c.Reads .standard (default package) t.get? := by
  rw [ofTable]
  simp only [map_eq_ok_iff, Checked.both_eq_ok_iff, Table.fieldOr_eq_ok_iff,
    unknownKeys_eq_ok_iff]
  constructor
  · rintro ⟨x, ⟨h1, h2, h3, h4, h5, h6, h7, hkeys⟩, rfl⟩
    exact ⟨hkeys, h1, h2, h3, h4, h5, h6, h7⟩
  · rintro ⟨hkeys, h1, h2, h3, h4, h5, h6, h7⟩
    exact ⟨(_, _, _, _, _, _, _, ()), ⟨h1, h2, h3, h4, h5, h6, h7, hkeys⟩, rfl⟩

theorem exists_ofTable_iff {package : Path} {t : Table} :
    (∃ c, ofTable package t = .ok c) ↔ Fields.standard.Accepts t.get? := by
  simp only [ofTable_eq_ok_iff]
  constructor
  · rintro ⟨c, hknown, h⟩
    exact ⟨fun key v hv => hknown key (Table.mem_keys_iff.mpr ⟨v, hv⟩),
      Value.exists_given_iff.mp ⟨_, h.javaHome⟩,
      Value.exists_given_iff.mp ⟨_, h.javaOptions⟩,
      Value.exists_given_iff.mp ⟨_, h.transpilerOptions⟩,
      Value.exists_given_iff.mp ⟨_, h.checkerOptions⟩,
      Value.exists_given_iff.mp ⟨_, h.createOutFiles⟩,
      Value.exists_given_iff.mp ⟨_, h.toolsArchive⟩,
      Value.exists_given_iff.mp ⟨_, h.debuggerDelay⟩⟩
  · intro h
    obtain ⟨javaHome, hjavaHome⟩ := Value.exists_given_iff.mpr h.javaHome
    obtain ⟨javaOptions, hjavaOptions⟩ := Value.exists_given_iff.mpr h.javaOptions
    obtain ⟨transpiler, htranspiler⟩ := Value.exists_given_iff.mpr h.transpilerOptions
    obtain ⟨checker, hchecker⟩ := Value.exists_given_iff.mpr h.checkerOptions
    obtain ⟨outFiles, houtFiles⟩ := Value.exists_given_iff.mpr h.createOutFiles
    obtain ⟨archive, harchive⟩ := Value.exists_given_iff.mpr h.toolsArchive
    obtain ⟨delay, hdelay⟩ := Value.exists_given_iff.mpr h.debuggerDelay
    refine ⟨⟨javaHome, javaOptions, transpiler, checker, outFiles, archive, delay⟩,
      fun key hkey => ?_, hjavaHome, hjavaOptions, htranspiler, hchecker, houtFiles, harchive,
      hdelay⟩
    obtain ⟨v, hv⟩ := Table.mem_keys_iff.mp hkey
    exact h.known key v hv

theorem keys_toTable (c : Config) : c.toTable.keys = keys := rfl

/-- The defaults are accepted as they are written. -/
theorem exists_ofTable_default (package : Path) :
    ∃ c, ofTable package (default package).toTable = .ok c :=
  ⟨_, rfl⟩

end Config

/-! ## The library -/

namespace Settings

open Value (Table)

/-- A library that checks every setting on its own, with the checks of some fields. -/
structure Installation.Fieldwise (i : Installation) (f : Config.Fields) : Prop where
  /-- A table is accepted if and only if its keys are settings and each of its values is accepted
  for its key. -/
  accepts : ∀ t : Table, t.keys.Nodup → ((∃ c, i.validate t = .ok c) ↔ f.Accepts t.get?)
  /-- Then each setting is the value for its key as it was checked, or its default. -/
  reads : ∀ t : Table, t.keys.Nodup → ∀ c, i.validate t = .ok c → c.Reads f i.default t.get?
  /-- No key is written twice. -/
  distinct : (i.dump i.default).keys.Nodup
  /-- The defaults are read back as they are written. -/
  restores : i.validate (i.dump i.default) = .ok i.default

/-- The library that the program runs with is of this kind, where the path of the archive is read
back as it is written. -/
theorem ofPackage_fieldwise {package : Path}
    (harchive :
      Path.ofText (Config.defaultArchive package).toText = Config.defaultArchive package) :
    (Installation.ofPackage package).Fieldwise .standard where
  accepts _ _ := Config.exists_ofTable_iff
  reads _ _ _ hc := (Config.ofTable_eq_ok_iff.mp hc).2
  distinct := by
    change (Config.toTable _).keys.Nodup
    rw [Config.keys_toTable]
    decide
  restores := by
    change Config.ofTable package (Config.default package).toTable = .ok (Config.default package)
    rw [Config.ofTable_eq_ok_iff, Config.keys_toTable]
    exact ⟨fun _ hkey => hkey, rfl, rfl, rfl, rfl, rfl, congrArg _ harchive, rfl⟩

end Settings

end TlaRunner
