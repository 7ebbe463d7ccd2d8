import TlaRunner.Arguments.Tool

/-!
# Which model file the model checker gets

The model checker is given one model flag with a value.  Among the user's tokens, such a flag takes
its place, but only the first model flag is looked at.  If a value follows it, both are taken out.
If not, nothing is (`checker_eq`).

What is left are the other model flags with a value, so that there may be several
(`configs_checker`).  There is only one, and it is the user's, exactly if every model flag with a
value is the first model flag (`checker_one_model_iff`).  One behind a model flag without a value is
not taken out, and the default stays (`checker_two_models`).
-/

namespace TlaRunner.Arguments

variable {tokens rest : List Text} {value : Text}

/-! ## Model flags with a value -/

/-- The values of the model flags, in order. -/
def configs : List Text → List Text
  | flag :: value :: rest =>
    if flag = configFlag ∧ isValue value = true then value :: configs (value :: rest)
    else configs (value :: rest)
  | _ => []

/-- The tokens without the model flags that have a value, and without these values. -/
def withoutConfigs : List Text → List Text
  | flag :: value :: rest =>
    if flag = configFlag ∧ isValue value = true then withoutConfigs rest
    else flag :: withoutConfigs (value :: rest)
  | tokens => tokens

/-- A model flag is no value. -/
theorem ne_configFlag_of_isValue (h : isValue value = true) : value ≠ configFlag := by
  rintro rfl
  cases h

theorem configs_cons_of_ne {token : Text} (h : token ≠ configFlag) (tokens : List Text) :
    configs (token :: tokens) = configs tokens := by
  cases tokens with
  | nil => rfl
  | cons next rest => exact if_neg fun hboth => h hboth.1

theorem configs_cons_of_not_value {next : Text} (h : isValue next = false) (token : Text)
    (rest : List Text) : configs (token :: next :: rest) = configs (next :: rest) := by
  refine if_neg fun hboth => ?_
  rw [h] at hboth
  cases hboth.2

theorem configs_cons_of_value (h : isValue value = true) (rest : List Text) :
    configs (configFlag :: value :: rest) = value :: configs rest := by
  rw [configs, if_pos ⟨rfl, h⟩, configs_cons_of_ne (ne_configFlag_of_isValue h)]

theorem withoutConfigs_cons_of_ne {token : Text} (h : token ≠ configFlag) (tokens : List Text) :
    withoutConfigs (token :: tokens) = token :: withoutConfigs tokens := by
  cases tokens with
  | nil => rfl
  | cons next rest => exact if_neg fun hboth => h hboth.1

theorem withoutConfigs_of_configs (h : configs tokens = []) : withoutConfigs tokens = tokens := by
  induction tokens with
  | nil => rfl
  | cons token tokens ih =>
      cases tokens with
      | nil => rfl
      | cons next rest =>
          rw [configs] at h
          rw [withoutConfigs]
          split at h
          next => cases h
          next hneither => rw [if_neg hneither, ih h]

/-! ## The first model flag -/

/-- Whether each model flag with a value is the first model flag. -/
def Leads (tokens : List Text) : Prop :=
  ∀ before value after, tokens = before ++ configFlag :: value :: after → isValue value = true →
    configFlag ∉ before

theorem leads_cons_of_ne {token : Text} (h : token ≠ configFlag) (tokens : List Text) :
    Leads (token :: tokens) ↔ Leads tokens := by
  constructor
  · intro hleads before value after htokens hvalue hmem
    have hwhole : token :: tokens = (token :: before) ++ configFlag :: value :: after := by
      rw [htokens, List.cons_append]
    exact hleads _ _ _ hwhole hvalue (List.mem_cons_of_mem _ hmem)
  · intro hleads before value after htokens hvalue
    cases before with
    | nil => exact absurd (List.cons.inj htokens).1 h
    | cons first before =>
        obtain ⟨rfl, hrest⟩ := List.cons.inj htokens
        exact fun hmem => (List.mem_cons.mp hmem).elim (fun hsame => h hsame.symm)
          (hleads before value after hrest hvalue)

/-- Behind the first model flag there may be no other one with a value. -/
theorem leads_cons_flag (tokens : List Text) :
    Leads (configFlag :: tokens) ↔
      ∀ before value after, tokens = before ++ configFlag :: value :: after →
        isValue value = false := by
  constructor
  · intro hleads before value after htokens
    refine Bool.eq_false_iff.mpr fun hvalue => ?_
    have hwhole :
        configFlag :: tokens = (configFlag :: before) ++ configFlag :: value :: after := by
      rw [htokens, List.cons_append]
    exact hleads _ _ _ hwhole hvalue List.mem_cons_self
  · intro hnone before value after htokens hvalue hmem
    cases before with
    | nil => cases hmem
    | cons first before =>
        have hrest := (List.cons.inj htokens).2
        rw [hnone before value after hrest] at hvalue
        cases hvalue

theorem configs_eq_nil_iff : configs tokens = [] ↔
    ∀ before value after, tokens = before ++ configFlag :: value :: after →
      isValue value = false := by
  induction tokens with
  | nil => exact iff_of_true rfl fun before _ _ h => by cases before <;> cases h
  | cons token tokens ih =>
      have hlater : configs tokens = [] ↔ ∀ first before value after,
          token :: tokens = (first :: before) ++ configFlag :: value :: after →
            isValue value = false := by
        rw [ih]
        constructor
        · exact fun h _ before value after hsplit =>
            h before value after (List.cons.inj hsplit).2
        · exact fun h before value after hsplit =>
            h token before value after (by rw [hsplit, List.cons_append])
      constructor
      · intro hnone before value after hsplit
        cases before with
        | nil =>
            obtain ⟨rfl, rfl⟩ := List.cons.inj hsplit
            refine Bool.eq_false_iff.mpr fun hvalue => ?_
            rw [configs_cons_of_value hvalue] at hnone
            cases hnone
        | cons first before =>
            refine hlater.mp ?_ first before value after hsplit
            cases tokens with
            | nil => rfl
            | cons next rest =>
                rw [configs] at hnone
                split at hnone
                next => cases hnone
                next => exact hnone
      · intro h
        have htail : configs tokens = [] := hlater.mpr fun first before => h (first :: before)
        cases tokens with
        | nil => rfl
        | cons next rest =>
            rw [configs]
            split
            next hboth =>
              have hvalue := h [] next rest (by rw [hboth.1]; rfl)
              rw [hboth.2] at hvalue
              cases hvalue
            next => exact htail

/-- What is taken out is the first model flag and the value behind it. -/
theorem takeConfig_cons_flag (tokens : List Text) : takeConfig (configFlag :: tokens) =
    match tokens with
    | [] => none
    | value :: rest => if isValue value then some (value, rest) else none := by
  rw [takeConfig.eq_def]
  exact if_pos rfl

theorem takeConfig_cons_of_ne {token : Text} (h : token ≠ configFlag) (tokens : List Text) :
    takeConfig (token :: tokens) =
      (takeConfig tokens).map fun found => (found.1, token :: found.2) := by
  rw [takeConfig.eq_def]
  exact if_neg h

/-- Taking out a value with its flag takes out one of the values. -/
theorem configs_of_takeConfig (h : takeConfig tokens = some (value, rest)) :
    isValue value = true ∧ configs tokens = value :: configs rest ∧
      withoutConfigs tokens = withoutConfigs rest := by
  induction tokens generalizing rest with
  | nil => cases h
  | cons token tokens ih =>
      by_cases hflag : token = configFlag
      · subst hflag
        rw [takeConfig_cons_flag] at h
        cases tokens with
        | nil => cases h
        | cons next tokens =>
            simp only at h
            split at h
            next hvalue =>
              obtain ⟨rfl, rfl⟩ := Prod.mk.inj (Option.some.inj h)
              exact ⟨hvalue, configs_cons_of_value hvalue _, if_pos ⟨rfl, hvalue⟩⟩
            next => cases h
      · rw [takeConfig_cons_of_ne hflag] at h
        obtain ⟨⟨_, later⟩, hfound, hsame⟩ := Option.map_eq_some_iff.mp h
        obtain ⟨rfl, rfl⟩ := Prod.mk.inj hsame
        obtain ⟨hvalue, hconfigs, hwithout⟩ := ih hfound
        rw [configs_cons_of_ne hflag, configs_cons_of_ne hflag, withoutConfigs_cons_of_ne hflag,
          withoutConfigs_cons_of_ne hflag, hwithout]
        exact ⟨hvalue, hconfigs, rfl⟩

/-- What is left has no model flag with a value exactly if each of these was the first one. -/
theorem leads_iff : Leads tokens ↔
    configs ((takeConfig tokens).elim tokens (·.2)) = [] := by
  induction tokens with
  | nil => exact iff_of_true (fun before _ _ h => by cases before <;> cases h) rfl
  | cons token tokens ih =>
      by_cases hflag : token = configFlag
      · subst hflag
        rw [leads_cons_flag, ← configs_eq_nil_iff, takeConfig_cons_flag]
        cases tokens with
        | nil => exact Iff.rfl
        | cons next tokens =>
            simp only
            split
            next hvalue =>
              rw [configs_cons_of_ne (ne_configFlag_of_isValue hvalue)]
              exact Iff.rfl
            next hvalue =>
              rw [Option.elim_none, configs_cons_of_not_value (Bool.eq_false_iff.mpr hvalue)]
      · rw [leads_cons_of_ne hflag, ih, takeConfig_cons_of_ne hflag]
        cases takeConfig tokens with
        | none => rw [Option.map_none, Option.elim_none, Option.elim_none, configs_cons_of_ne hflag]
        | some found =>
            rw [Option.map_some, Option.elim_some, Option.elim_some, configs_cons_of_ne hflag]

instance (tokens : List Text) : Decidable (Leads tokens) :=
  decidable_of_iff _ leads_iff.symm

/-! ## The arguments -/

variable {configPath : Text}

/-- The model file that is chosen stands before what is left of the user's tokens. -/
theorem checker_eq (modulePath configPath : Text) (options : List Text) :
    let custom := options.map (substitute modulePath configPath)
    checker modulePath configPath options = baseName modulePath :: checkerFlags ++
      configFlag :: (takeConfig custom).elim configPath (·.1) ::
        (takeConfig custom).elim custom (·.2) := by
  intro custom
  rw [checker]
  cases takeConfig custom with
  | none => rfl
  | some found => rfl

/-- The model checker gets the chosen model file, and those that are left among the user's
tokens. -/
theorem configs_checker (hconfig : isValue configPath = true) (modulePath : Text)
    (options : List Text) :
    let custom := options.map (substitute modulePath configPath)
    configs (checker modulePath configPath options) =
      (takeConfig custom).elim configPath (·.1) ::
        configs ((takeConfig custom).elim custom (·.2)) := by
  intro custom
  have hchosen : isValue ((takeConfig custom).elim configPath (·.1)) = true := by
    cases hfound : takeConfig custom with
    | none => exact hconfig
    | some found => exact (configs_of_takeConfig hfound).1
  rw [checker_eq, checkerFlags, List.cons_append, List.cons_append, List.cons_append,
    List.nil_append, configs_cons_of_not_value rfl, configs_cons_of_ne (by decide),
    configs_cons_of_ne (by decide), configs_cons_of_value hchosen]

/-- The model checker gets one model file, which is one of the user's if there is any, and the
user's other tokens follow in their order, exactly if each of the user's model flags with a value
is the first model flag. -/
theorem checker_one_model_iff (hconfig : isValue configPath = true) (modulePath : Text)
    (options : List Text) :
    let custom := options.map (substitute modulePath configPath)
    let output := checker modulePath configPath options
    (∃ chosen, output = baseName modulePath :: checkerFlags ++
          configFlag :: chosen :: withoutConfigs custom ∧
        configs output = [chosen] ∧
        if configs custom = [] then chosen = configPath else chosen ∈ configs custom) ↔
      Leads custom := by
  intro custom output
  have houtput : output = _ := checker_eq modulePath configPath options
  have hconfigs : configs output = _ := configs_checker hconfig modulePath options
  rw [leads_iff]
  constructor
  · rintro ⟨chosen, -, hone, -⟩
    rw [hone] at hconfigs
    exact (List.cons.inj hconfigs).2.symm
  · intro hnone
    rw [hnone] at hconfigs
    refine ⟨_, houtput.trans ?_, hconfigs, ?_⟩
    · cases hfound : takeConfig custom with
      | none =>
          rw [hfound, Option.elim_none] at hnone
          rw [Option.elim_none, Option.elim_none, withoutConfigs_of_configs hnone]
      | some found =>
          rw [hfound, Option.elim_some] at hnone
          rw [Option.elim_some, Option.elim_some, (configs_of_takeConfig hfound).2.2,
            withoutConfigs_of_configs hnone]
    · cases hfound : takeConfig custom with
      | none =>
          rw [hfound, Option.elim_none] at hnone
          rw [if_pos hnone, Option.elim_none]
      | some found =>
          rw [(configs_of_takeConfig hfound).2.1, if_neg (List.cons_ne_nil _ _)]
          exact List.mem_cons_self

/-- A value that comes about by replacement, before a model flag without one. -/
theorem checker_one_model_iff_replaced :
    let modulePath := "/p/m.tla".toList
    let configPath := "/p/m.cfg".toList
    let options := ["-deadlock".toList, configFlag, specVariable ++ "2.cfg".toList, configFlag]
    isValue configPath = true ∧ Leads (options.map (substitute modulePath configPath)) ∧
      ∃ chosen, checker modulePath configPath options =
        baseName modulePath :: checkerFlags ++
          [configFlag, chosen, "-deadlock".toList, configFlag] := by
  intro modulePath configPath options
  have hconfig : isValue configPath = true := by decide
  have hleads : Leads (options.map (substitute modulePath configPath)) := by decide +kernel
  obtain ⟨chosen, houtput, -⟩ := (checker_one_model_iff hconfig modulePath options).mpr hleads
  exact ⟨hconfig, hleads, chosen, houtput⟩

/-- A model flag without a value keeps a later one with a value from being taken out. -/
theorem checker_two_models :
    let modulePath := "/p/m.tla".toList
    let configPath := "/p/m.cfg".toList
    let options := [configFlag, "-deadlock".toList, configFlag, "b.cfg".toList]
    isValue configPath = true ∧
      configs (options.map (substitute modulePath configPath)) = ["b.cfg".toList] ∧
      configs (checker modulePath configPath options) = [configPath, "b.cfg".toList] := by
  decide +kernel

end TlaRunner.Arguments
