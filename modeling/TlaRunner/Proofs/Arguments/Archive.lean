import Mathlib.Data.List.TakeWhile
import TlaRunner.Arguments.Command
import TlaRunner.Proofs.Arguments.Java

/-!
# A tools archive that is missing

Where the archive is not there, the options of the Java runtime are used only if some classpath
among them has an entry of the archive's name (`providesArchive_eq`).  The archive is put on the
first of these classpaths all the same, unless that one has such an entry.

So a missing archive is kept out exactly if the first classpath has the entry
(`missing_archive_kept_out_iff`).  One that only a later classpath has lets the options pass, and
then the missing archive is named (`missing_archive_named`).
-/

namespace TlaRunner.Arguments

open Files (Host)

variable {archive : Text} {options : List Text}

/-! ## Names and entries -/

/-- The final name of a path stands at its end. -/
theorem baseName_suffix (s : Text) : baseName s <:+ s := by
  have hlast (p : Char → Bool) (s : Text) : (s.reverse.takeWhile p).reverse <:+ s := by
    have hprefix := List.takeWhile_prefix p (l := s.reverse)
    rwa [← List.reverse_suffix, List.reverse_reverse] at hprefix
  rw [baseName]
  split
  · refine (hlast _ _).trans ?_
    rw [afterDrive.eq_def]
    split
    · split
      · split
        · exact List.nil_suffix
        · split
          · exact List.nil_suffix
          · exact List.drop_suffix _ _
      · split
        · exact List.drop_suffix _ _
        · exact List.suffix_refl _
    · exact List.suffix_refl _
  · exact hlast _ s

/-- A path without slashes is its own final name. -/
theorem baseName_of_no_slash {s : Text} (hslash : '/' ∉ s) (hback : '\\' ∉ s) : baseName s = s := by
  have hall : ∀ c ∈ s.reverse, decide (c ≠ '/') = true := fun c hc =>
    decide_eq_true fun h => hslash (h ▸ List.mem_reverse.mp hc)
  rw [baseName, if_neg (by simpa using hback), Text.afterLast, List.takeWhile_eq_self_iff.mpr hall,
    List.reverse_reverse]

/-- What is cut out at a separator is a part of the text. -/
theorem infix_of_mem_splitOn {separator : Char} {s entry : Text} (h : entry ∈ s.splitOn separator) :
    entry <:+: s := by
  have hjoin {parts : List Text} (hmem : entry ∈ parts) :
      entry <:+: [separator].intercalate parts := by
    induction parts with
    | nil => cases hmem
    | cons first rest ih =>
        cases rest with
        | nil =>
            simp only [List.intercalate_singleton, List.mem_singleton.mp hmem, List.infix_refl]
        | cons next rest =>
            rw [List.intercalate_cons_cons]
            rcases List.mem_cons.mp hmem with rfl | hlater
            · rw [List.append_assoc]
              exact (List.prefix_append _ _).isInfix
            · exact (ih hlater).trans (List.suffix_append _ _).isInfix
  have hwhole := hjoin h
  rwa [List.intercalate_splitOn] at hwhole

/-! ## Classpaths -/

/-- The values of the classpath flags, in order.  A value may be a flag itself. -/
def classpaths : List Text → List Text
  | flag :: value :: rest =>
    if isClasspathFlag flag then value :: classpaths (value :: rest) else classpaths (value :: rest)
  | _ => []

/-- Whether some classpath has an entry with the archive's final name. -/
def Provides (archive : Text) (options : List Text) : Prop :=
  ∃ value ∈ classpaths options, HasEntry ':' archive value

instance (archive : Text) (options : List Text) : Decidable (Provides archive options) :=
  inferInstanceAs (Decidable (∃ value ∈ classpaths options, _))

theorem providesArchive_eq (archive : Text) (options : List Text) :
    providesArchive archive options = .ok (decide (Provides archive options)) := by
  induction options with
  | nil => rfl
  | cons flag rest ih =>
      cases rest with
      | nil => rfl
      | cons value rest =>
          rw [providesArchive]
          by_cases hflag : isClasspathFlag flag = true
          · have hclasspaths : classpaths (flag :: value :: rest) =
                value :: classpaths (value :: rest) := if_pos hflag
            rw [if_pos hflag, classpathSeparator, references_eq, ih]
            by_cases hentry : HasEntry ':' archive value
            · have hprovides : Provides archive (flag :: value :: rest) :=
                ⟨value, hclasspaths ▸ List.mem_cons_self, hentry⟩
              rw [decide_eq_true hentry, decide_eq_true hprovides]
              rfl
            · have hprovides : Provides archive (flag :: value :: rest) ↔
                  Provides archive (value :: rest) := by
                simp only [Provides, hclasspaths, List.mem_cons, exists_eq_or_imp, hentry, false_or]
              rw [decide_eq_false hentry, decide_eq_decide.mpr hprovides]
              rfl
          · have hclasspaths : classpaths (flag :: value :: rest) = classpaths (value :: rest) :=
              if_neg hflag
            have hprovides : Provides archive (flag :: value :: rest) ↔
                Provides archive (value :: rest) := by
              rw [Provides, hclasspaths]
              rfl
            rw [if_neg hflag, decide_eq_decide.mpr hprovides]
            exact ih

/-- The classpath that the archive may be put on is the first one. -/
theorem head?_classpaths (options : List Text) :
    (classpaths options).head? = (classpath? options).map (·.2) := by
  induction options with
  | nil => rfl
  | cons flag rest ih =>
      cases hflag : isClasspathFlag flag with
      | true =>
          have hfirst : (flag :: rest).findIdx? isClasspathFlag = some 0 := by
            rw [List.findIdx?_cons, if_pos hflag]
          rw [classpath?, hfirst]
          cases rest with
          | nil => rfl
          | cons value rest =>
              rw [classpaths, if_pos hflag]
              rfl
      | false =>
          rw [classpath?_cons_of_not_flag hflag, Option.map_map]
          cases rest with
          | nil => rfl
          | cons value rest =>
              rw [classpaths, if_neg (by rw [hflag]; exact Bool.false_ne_true), ih]
              rfl

theorem getElem?_of_classpath? {i : Nat} {value : Text} (h : classpath? options = some (i, value)) :
    options[i]? = some value := by
  obtain ⟨j, -, hvalue⟩ := Option.bind_eq_some_iff.mp h
  obtain ⟨found, hfound, hsame⟩ := Option.map_eq_some_iff.mp hvalue
  cases hsame
  exact hfound

/-- Options behind others change no classpath of theirs. -/
theorem classpaths_prefix_append (options more : List Text) :
    classpaths options <+: classpaths (options ++ more) := by
  induction options with
  | nil => exact List.nil_prefix
  | cons flag rest ih =>
      cases rest with
      | nil => exact List.nil_prefix
      | cons value rest =>
          rw [List.cons_append, List.cons_append, classpaths, classpaths]
          split
          · exact (List.prefix_cons_inj value).mpr ih
          · exact ih

/-! ## The archive's path -/

/-- Where an entry has the name of an archive that the options do not mention, the archive is not
mentioned in the default collector either: it would be its own name. -/
theorem not_infix_defaultCollector {value : Text} (hentry : HasEntry ':' archive value)
    (hvalue : ¬archive <:+: value) : ¬archive <:+: defaultCollector := by
  intro hmention
  have hslash : '/' ∉ archive := fun h => absurd (hmention.subset h) (by decide +kernel)
  have hback : '\\' ∉ archive := fun h => absurd (hmention.subset h) (by decide +kernel)
  obtain ⟨entry, hmem, -, hname⟩ := hentry
  rw [baseName_of_no_slash hslash hback] at hname
  exact hvalue ((hname ▸ (baseName_suffix entry).isInfix).trans (infix_of_mem_splitOn hmem))

/-- Whether options have the classpaths of the user's options as they are, and mention the archive
nowhere. -/
structure KeepsOut (archive : Text) (options output : List Text) : Prop where
  values : classpaths options <+: classpaths output
  unmentioned : ∀ token ∈ output, ¬archive <:+: token

theorem withCollector_keepsOut (hunmentioned : ∀ token ∈ options, ¬archive <:+: token)
    (hcollector : ¬archive <:+: defaultCollector) :
    KeepsOut archive options (withCollector options) := by
  rw [withCollector_eq]
  refine ⟨classpaths_prefix_append options _, fun token htoken => ?_⟩
  rcases List.mem_append.mp htoken with huser | hdefault
  · exact hunmentioned token huser
  · split at hdefault
    · cases hdefault
    · rwa [List.mem_singleton.mp hdefault]

/-- An extended classpath mentions the archive. -/
theorem not_keepsOut_extended {i : Nat} {value : Text} (h : classpath? options = some (i, value))
    (hentry : ¬HasEntry ':' archive value) (original : List Text) :
    ¬KeepsOut archive original (withCollector (options.set i (extended ':' archive value))) := by
  intro hkeeps
  have hbound : i < options.length := (List.getElem?_eq_some_iff.mp (getElem?_of_classpath? h)).1
  have hmem : extended ':' archive value ∈
      withCollector (options.set i (extended ':' archive value)) := by
    rw [withCollector_eq]
    exact List.mem_append_left _ (List.mem_set hbound _)
  have hmention : archive <:+: extended ':' archive value := by
    rw [extended, if_neg hentry]
    exact (List.suffix_append _ _).isInfix
  exact hkeeps.unmentioned _ hmem hmention

/-! ## Options without the archive -/

variable {h : Host} {c : Config}

theorem javaOptions_of_missing (hsplit : split c.javaOptions = .ok options)
    (hmissing : h.has c.toolsArchive = .ok false) : javaOptions h c =
      if Provides c.toolsArchive.toText options then
        (java classpathSeparator c.toolsArchive.toText options).mapError .separator
      else .error (.noArchive c.toolsArchive) := by
  simp only [javaOptions, hsplit, hmissing, Except.mapError, bind, Except.bind]
  rw [providesArchive_eq]
  by_cases hprovides : Provides c.toolsArchive.toText options
  · rw [decide_eq_true hprovides, if_pos hprovides]
    rfl
  · rw [decide_eq_false hprovides, if_neg hprovides]
    rfl

/-- The options that name no archive are used exactly if one of their classpaths has an entry of
its name.  Then the missing archive is kept out exactly if the first of them has it; otherwise it
is put there. -/
theorem missing_archive_kept_out_iff (hsplit : split c.javaOptions = .ok options)
    (hmissing : h.has c.toolsArchive = .ok false)
    (hunmentioned : ∀ token ∈ options, ¬c.toolsArchive.toText <:+: token) :
    ((∃ output, javaOptions h c = .ok output) ↔ Provides c.toolsArchive.toText options) ∧
      ∀ output, javaOptions h c = .ok output →
        ∃ i value, classpath? options = some (i, value) ∧
          (classpaths options).head? = some value ∧
          output = withCollector (options.set i (extended ':' c.toolsArchive.toText value)) ∧
          (KeepsOut c.toolsArchive.toText options output ↔
            HasEntry ':' c.toolsArchive.toText value) := by
  have hjava := javaOptions_of_missing hsplit hmissing
  by_cases hprovides : Provides c.toolsArchive.toText options
  · rw [if_pos hprovides] at hjava
    obtain ⟨i, value, hclasspath⟩ : ∃ i value, classpath? options = some (i, value) := by
      obtain ⟨provided, hmem, -⟩ := hprovides
      have hhead := head?_classpaths options
      cases hclasspath : classpath? options with
      | some found => exact ⟨found.1, found.2, rfl⟩
      | none =>
          rw [hclasspath, Option.map_none, List.head?_eq_none_iff] at hhead
          rw [hhead] at hmem
          cases hmem
    have hvalue := getElem?_of_classpath? hclasspath
    have houtput : javaOptions h c =
        .ok (withCollector (options.set i (extended ':' c.toolsArchive.toText value))) := by
      rw [hjava, java, classpathSeparator, withArchive_eq, hclasspath]
      rfl
    refine ⟨iff_of_true ⟨_, houtput⟩ hprovides, fun output hsome => ⟨i, value, hclasspath, ?_⟩⟩
    obtain rfl := Except.ok.inj (houtput.symm.trans hsome)
    refine ⟨by rw [head?_classpaths, hclasspath]; rfl, rfl, fun hkeeps => ?_, fun hentry => ?_⟩
    · exact Decidable.byContradiction fun hentry =>
        not_keepsOut_extended hclasspath hentry options hkeeps
    · have hmention := hunmentioned value (List.mem_of_getElem? hvalue)
      have hsame : options.set i value = options := by
        obtain ⟨hbound, hget⟩ := List.getElem?_eq_some_iff.mp hvalue
        rw [← hget, List.set_getElem_self]
      rw [extended, if_pos hentry, hsame]
      exact withCollector_keepsOut hunmentioned (not_infix_defaultCollector hentry hmention)
  · rw [if_neg hprovides] at hjava
    have hnone : ∀ output, javaOptions h c ≠ .ok output := by
      intro output hsome
      rw [hjava] at hsome
      cases hsome
    refine ⟨iff_of_false (fun hsome => hsome.elim hnone) hprovides, ?_⟩
    exact fun output hsome => absurd hsome (hnone output)

/-- Settings with an archive that no host without files has. -/
def astray (javaOptions : String) : Config :=
  { Config.default ⟨.root, []⟩ with
    javaOptions := javaOptions.toList
    toolsArchive := Path.ofText "/missing/tla2tools.jar" }

theorem missing_archive_kept_out_iff_first :
    let h : Host := ⟨[], [], none, []⟩
    let c := astray "-classpath 'a b.jar:/opt/tla2tools.jar' -cp c.jar -cp"
    let options :=
      ["-classpath".toList, "a b.jar:/opt/tla2tools.jar".toList, "-cp".toList, "c.jar".toList,
        "-cp".toList]
    split c.javaOptions = .ok options ∧ h.has c.toolsArchive = .ok false ∧
      (∀ token ∈ options, ¬c.toolsArchive.toText <:+: token) ∧
      ∃ output, javaOptions h c = .ok output ∧ KeepsOut c.toolsArchive.toText options output := by
  intro h c options
  have hsplit : split c.javaOptions = .ok options := rfl
  have hmissing : h.has c.toolsArchive = .ok false := by decide +kernel
  have hunmentioned : ∀ token ∈ options, ¬c.toolsArchive.toText <:+: token := by decide +kernel
  obtain ⟨hsome, hkept⟩ := missing_archive_kept_out_iff hsplit hmissing hunmentioned
  obtain ⟨output, houtput⟩ := hsome.mpr (by decide +kernel)
  obtain ⟨i, value, -, hfirst, -, hkeeps⟩ := hkept output houtput
  obtain rfl : _ = value := Option.some.inj hfirst
  exact ⟨hsplit, hmissing, hunmentioned, output, houtput, hkeeps.mpr (by decide +kernel)⟩

/-- The second classpath has the archive, and the first one gets the missing one. -/
theorem missing_archive_named :
    let h : Host := ⟨[], [], none, []⟩
    let c := astray "-cp a.jar -cp /opt/tla2tools.jar"
    let options :=
      ["-cp".toList, "a.jar".toList, "-cp".toList, "/opt/tla2tools.jar".toList]
    let output := ["-cp".toList, "a.jar:/missing/tla2tools.jar".toList, "-cp".toList,
      "/opt/tla2tools.jar".toList, defaultCollector]
    split c.javaOptions = .ok options ∧ h.has c.toolsArchive = .ok false ∧
      (∀ token ∈ options, ¬c.toolsArchive.toText <:+: token) ∧
      javaOptions h c = .ok output ∧ ¬classpaths options <+: classpaths output ∧
      ∃ token ∈ output, c.toolsArchive.toText <:+: token := by
  intro h c options output
  exact ⟨rfl, by decide +kernel, by decide +kernel, by decide +kernel, by decide +kernel,
    by decide +kernel⟩

end TlaRunner.Arguments
