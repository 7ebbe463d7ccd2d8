import TlaRunner.Command.Run
import TlaRunner.Proofs.Arguments.Quoting
import TlaRunner.Proofs.Settings.Config

/-!
# Before a tool is started

A check needs files, settings and options, and looks at them in this order.  It is refused for the
first of these that is not as it should be, and then no tool is started (`Machine.check_prepares`).
So an option string with an open quote ends the check with the status for tools and settings and
with the message about this option string (`Machine.check_of_openQuote`).

The settings are those of all places, and a Java home that was asked for overrides them
(`Machine.javaHome_of_settings`).
-/

namespace TlaRunner.Command.Machine

open Arguments (Splits openQuote? splitAll)
open Value (Table)
open Workflow (Floor)

variable {m : Machine} {r : Request}

/-! ## Settings -/

/-- A Java home that was asked for is the Java home in the settings. -/
theorem javaHome_of_settings {c : Config} {home : Path} (hhome : r.javaHome = some home)
    (h : m.settings r = .ok c) : c.javaHome = some home := by
  rw [settings, mapError_eq_ok_iff, Settings.Sources.load, bind_eq_ok_iff] at h
  obtain ⟨merged, -, hchecked⟩ := h
  rw [Settings.Installation.check, mapError_eq_ok_iff] at hchecked
  have hreads := (Config.ofTable_eq_ok_iff.mp hchecked).2.javaHome
  rw [Table.get?_update, sources, Request.overrides, hhome] at hreads
  exact (Except.ok.inj hreads).symm

/-- Without one the settings are those of the other places. -/
theorem settings_of_none (hhome : r.javaHome = none) :
    m.settings r =
      (({ m.sources r with overrides := [] }).load (.ofPackage m.package) m.host).mapError
        .settings := by
  rw [settings, Settings.Sources.load, Settings.Sources.load, sources, Request.overrides, hhome]
  rfl

/-! ## Checks -/

/-- What a check is refused for: the first that is wrong of its files, its settings and its option
strings. -/
inductive Refuses (m : Machine) (r : Request) (t : Target) (values : List Text) : Fault → Prop
  | spec {fault : Fault} (hspec : m.spec t = .error fault) : Refuses m r t values fault
  | settings {spec : Files.SpecFiles} {fault : Fault} (hspec : m.spec t = .ok spec)
      (hsettings : m.settings r = .error fault) : Refuses m r t values fault
  | options {spec : Files.SpecFiles} {config : Config} {before after : List Text} {value : Text}
      (hspec : m.spec t = .ok spec) (hsettings : m.settings r = .ok config)
      (hvalues : values = before ++ value :: after) (hbefore : ∀ o ∈ before, openQuote? o = none)
      (hopen : openQuote? value ≠ none) : Refuses m r t values (.options ⟨value⟩)

/-- A check is refused, or has all that it needs and is carried out. -/
theorem check_prepares (m : Machine) (v : Voice) (r : Request) (t : Target) (values : List Text)
    (echoes : Bool) :
    (∃ fault, m.Refuses r t values fault ∧ m.check v r t values echoes = m.refuse v fault) ∨
      ∃ spec config extra, m.spec t = .ok spec ∧ m.settings r = .ok config ∧
        splitAll values = .ok extra ∧ m.check v r t values echoes =
          concludeCheck v echoes ((Floor.empty (m.bench config)).check spec extra) := by
  rw [check]
  cases hspec : m.spec t with
  | error fault => exact Or.inl ⟨fault, .spec hspec, rfl⟩
  | ok spec =>
      cases hsettings : m.settings r with
      | error fault => exact Or.inl ⟨fault, .settings hspec hsettings, rfl⟩
      | ok config =>
          by_cases hsplits : ∀ o ∈ values, Splits o
          · obtain ⟨extra, hextra, -⟩ := Arguments.splitAll_join hsplits
            rw [hextra]
            exact Or.inr ⟨spec, config, extra, rfl, rfl, rfl, rfl⟩
          · obtain ⟨before, value, after, hvalues, hbefore, hopen, hrefused⟩ :=
              Arguments.splitAll_refused (by simpa using hsplits)
            have hclosed : ∀ o ∈ before, openQuote? o = none := fun o ho =>
              Arguments.splits_iff.mp (hbefore o ho)
            have hquote : openQuote? value ≠ none := mt Arguments.splits_iff.mpr hopen
            rw [hrefused]
            exact Or.inl ⟨_, .options hspec hsettings hvalues hclosed hquote, rfl⟩

/-- An option string whose quote stays open ends the check before any tool is started. -/
theorem check_of_openQuote {v : Voice} {t : Target} {values : List Text} {echoes : Bool}
    {spec : Files.SpecFiles} {config : Config} (hspec : m.spec t = .ok spec)
    (hsettings : m.settings r = .ok config) (hopen : ∃ value ∈ values, openQuote? value ≠ none) :
    ∃ value ∈ values, openQuote? value ≠ none ∧
      m.check v r t values echoes =
        ⟨toolingStatus, v.say .failure (Arguments.OpenQuote.message ⟨value⟩), none,
          m.bench (.default m.package)⟩ := by
  rcases m.check_prepares v r t values echoes with
    ⟨fault, hrefuses, hcheck⟩ | ⟨_, _, extra, _, _, hextra, _⟩
  · cases hrefuses with
    | spec hfault =>
        rw [hspec] at hfault
        cases hfault
    | settings _ hfault =>
        rw [hsettings] at hfault
        cases hfault
    | @options _ _ before after value _ _ hvalues _ hquote =>
        refine ⟨value, ?_, hquote, hcheck⟩
        rw [hvalues]
        exact List.mem_append_right before List.mem_cons_self
  · obtain ⟨value, hvalue, hquote⟩ := hopen
    obtain ⟨_, other, _, _, _, _, hrefused⟩ :=
      Arguments.splitAll_refused ⟨value, hvalue, mt Arguments.splits_iff.mp hquote⟩
    rw [hextra] at hrefused
    cases hrefused

end TlaRunner.Command.Machine
