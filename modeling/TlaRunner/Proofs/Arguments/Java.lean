import TlaRunner.Arguments.Java

/-!
# What is added to the options of the Java runtime

A classpath is cut at its separator (`references_eq`).  If no entry of the value of the first
classpath flag has the archive's final name, the archive is put behind it as one more entry,
which stays whole if there is no separator in its path (`hasEntry_extended`).  Where there is
no value, a flag and the archive are put behind all options (`withArchive_eq`).

So the options stay where they are: one of them may be extended, and a flag, the archive and a
collector may be put behind them (`java_extends`).
-/

namespace TlaRunner.Arguments

variable {separator : Char} {archive classpath : Text}

/-! ## Entries of a classpath -/

/-- A separator of one character cuts as that character does. -/
theorem piecesFrom_singleton (separator : Char) (held s : Text) :
    piecesFrom [separator] held 0 s = s.splitOnPPrepend (· == separator) held := by
  induction s generalizing held with
  | nil => rw [piecesFrom, List.splitOnPPrepend_nil]
  | cons c s ih =>
      have hstart : Text.startsWith [separator] (c :: s) = (c == separator) := by
        rw [Text.startsWith, List.isPrefixOf_cons_cons, List.isPrefixOf_nil_left, Bool.and_true,
          BEq.comm]
      rw [List.splitOnPPrepend_cons_eq_if, ← ih, piecesFrom]
      simp only [hstart]
      split
      · exact congrArg (held.reverse :: ·) (ih [])
      · rfl

/-- Whether an entry of a classpath has the archive's final name. -/
def HasEntry (separator : Char) (archive classpath : Text) : Prop :=
  ∃ entry ∈ classpath.splitOn separator, entry ≠ [] ∧ baseName entry = baseName archive

instance (separator : Char) (archive classpath : Text) :
    Decidable (HasEntry separator archive classpath) :=
  inferInstanceAs (Decidable (∃ entry ∈ classpath.splitOn separator, _))

theorem references_eq (separator : Char) (archive classpath : Text) :
    references [separator] archive classpath =
      .ok (decide (HasEntry separator archive classpath)) := by
  have hpieces : piecesFrom [separator] [] 0 classpath = classpath.splitOn separator :=
    piecesFrom_singleton separator [] classpath
  rw [references, hpieces]
  refine congrArg Except.ok ?_
  rw [Bool.eq_iff_iff, List.any_eq_true, decide_eq_true_iff, HasEntry]
  simp

/-- A classpath with the archive on it. -/
def extended (separator : Char) (archive classpath : Text) : Text :=
  if HasEntry separator archive classpath then classpath
  else classpath ++ [separator] ++ archive

theorem hasEntry_extended (hne : archive ≠ []) (hwhole : separator ∉ archive) (classpath : Text) :
    HasEntry separator archive (extended separator archive classpath) := by
  rw [extended]
  split
  next h => exact h
  next =>
    rw [HasEntry, List.append_assoc, List.singleton_append, List.splitOn_append_cons_self,
      List.splitOn_eq_singleton hwhole]
    exact ⟨archive, List.mem_append_right _ List.mem_cons_self, hne, rfl⟩

/-! ## The value of the first classpath flag -/

/-- The value of the first classpath flag and its index, if a value follows the flag. -/
def classpath? (options : List Text) : Option (Nat × Text) :=
  (options.findIdx? isClasspathFlag).bind fun i => options[i + 1]?.map fun value => (i + 1, value)

theorem classpath?_cons_of_not_flag {token : Text} (h : isClasspathFlag token = false)
    (rest : List Text) :
    classpath? (token :: rest) = (classpath? rest).map fun found => (found.1 + 1, found.2) := by
  rw [classpath?, classpath?, List.findIdx?_cons, h]
  cases rest.findIdx? isClasspathFlag with
  | none => rfl
  | some i =>
      simp only [Bool.false_eq_true, if_false, Option.map_some, Option.bind_some,
        List.getElem?_cons_succ, Option.map_map]
      rfl

/-- The value is extended where it stands.  Without a value a flag and the archive are put
behind the options. -/
theorem withArchive_eq (separator : Char) (archive : Text) (options : List Text) :
    withArchive [separator] archive options = .ok (match classpath? options with
      | some (i, value) => options.set i (extended separator archive value)
      | none => options ++ ["-cp".toList, archive]) := by
  induction options with
  | nil => rfl
  | cons token rest ih =>
      rw [withArchive.eq_def]
      simp only
      split
      next hflag =>
        have hfirst : (token :: rest).findIdx? isClasspathFlag = some 0 := by
          rw [List.findIdx?_cons, if_pos hflag]
        rw [classpath?, hfirst]
        cases rest with
        | nil => rfl
        | cons value rest =>
            simp only [references_eq]
            by_cases hentry : HasEntry separator archive value
            · rw [decide_eq_true hentry]
              simp only [List.getElem?_cons_succ, List.getElem?_cons_zero, Option.bind_some,
                Option.map_some, extended, if_pos hentry]
              rfl
            · rw [decide_eq_false hentry]
              simp only [List.getElem?_cons_succ, List.getElem?_cons_zero, Option.bind_some,
                Option.map_some, extended, if_neg hentry]
              rfl
      next hflag =>
        rw [ih, classpath?_cons_of_not_flag (Bool.eq_false_iff.mpr hflag)]
        cases classpath? rest with
        | none => rfl
        | some found => rfl

variable {options : List Text}

theorem withArchive_of_value (archive : Text) {i : Nat} {value : Text}
    (hflag : options.findIdx? isClasspathFlag = some i) (hvalue : options[i + 1]? = some value) :
    withArchive [separator] archive options =
      .ok (options.set (i + 1) (extended separator archive value)) := by
  have hclasspath : classpath? options = some (i + 1, value) := by
    rw [classpath?, hflag, Option.bind_some, hvalue, Option.map_some]
  rw [withArchive_eq, hclasspath]

theorem withArchive_of_last (separator : Char) (archive : Text)
    (hlast : ∀ i, options.findIdx? isClasspathFlag = some i → i + 1 = options.length) :
    withArchive [separator] archive options = .ok (options ++ ["-cp".toList, archive]) := by
  have hclasspath : classpath? options = none := by
    rw [classpath?]
    cases hflag : options.findIdx? isClasspathFlag with
    | none => rfl
    | some i =>
        rw [Option.bind_some, List.getElem?_eq_none (Nat.le_of_eq (hlast i hflag).symm)]
        rfl
  rw [withArchive_eq, hclasspath]

/-! ## Collectors -/

/-- Whether a token selects a collector. -/
def Selects (token : Text) : Prop :=
  "-XX:+Use".toList <+: token ∧ "GC".toList <:+ token

theorem selectsCollector_iff {token : Text} : selectsCollector token = true ↔ Selects token := by
  rw [selectsCollector, Bool.and_eq_true, Text.startsWith, Text.endsWith,
    List.isPrefixOf_iff_prefix, List.isSuffixOf_iff_suffix, Selects]

instance (token : Text) : Decidable (Selects token) :=
  decidable_of_iff _ selectsCollector_iff

theorem withCollector_eq (options : List Text) : withCollector options =
    options ++ if ∃ token ∈ options, Selects token then [] else [defaultCollector] := by
  have hany : options.any selectsCollector = true ↔ ∃ token ∈ options, Selects token := by
    simp only [List.any_eq_true, selectsCollector_iff]
  rw [withCollector]
  by_cases hselected : ∃ token ∈ options, Selects token
  · rw [if_pos (hany.mpr hselected), if_pos hselected, List.append_nil]
  · rw [if_neg (mt hany.mp hselected), if_neg hselected]

/-- Some token selects a collector, if only the default one. -/
theorem exists_selects_withCollector (options : List Text) :
    ∃ token ∈ withCollector options, Selects token := by
  rw [withCollector_eq]
  split
  next hselected =>
    rw [List.append_nil]
    exact hselected
  next =>
    exact ⟨defaultCollector, List.mem_append_right _ List.mem_cons_self, by decide⟩

/-! ## All options -/

/-- The user's options stay where they are.  The value of the first classpath flag is extended
by the archive unless it has an entry of that name, and then it has one.  If there is no such
flag, or it is the last option, a flag and the archive follow.  The default collector follows
exactly if none of these options selects one, so that some option does. -/
theorem java_extends (hne : archive ≠ []) (hwhole : separator ∉ archive) (options : List Text) :
    ∃ kept output, java [separator] archive options = .ok output ∧
      output = kept ++ (if ∃ token ∈ kept, Selects token then [] else [defaultCollector]) ∧
      (∀ {i value}, options.findIdx? isClasspathFlag = some i → options[i + 1]? = some value →
        kept = options.set (i + 1) (extended separator archive value) ∧
          ∃ later, output[i + 1]? = some later ∧
            references [separator] archive later = .ok true) ∧
      ((∀ i, options.findIdx? isClasspathFlag = some i → i + 1 = options.length) →
        kept = options ++ ["-cp".toList, archive]) ∧
      ∃ token ∈ output, Selects token := by
  obtain ⟨kept, hkept⟩ : ∃ kept, withArchive [separator] archive options = .ok kept :=
    ⟨_, withArchive_eq separator archive options⟩
  have hjava : java [separator] archive options = .ok (withCollector kept) := by
    rw [java, hkept]
    rfl
  refine ⟨kept, withCollector kept, hjava, withCollector_eq kept, fun {i value} hflag hvalue => ?_,
    fun hlast => ?_, exists_selects_withCollector kept⟩
  · cases hkept.symm.trans (withArchive_of_value archive hflag hvalue)
    refine ⟨rfl, extended separator archive value, ?_, ?_⟩
    · have hbound : i + 1 < options.length := (List.getElem?_eq_some_iff.mp hvalue).1
      rw [withCollector_eq, List.getElem?_append_left (by rwa [List.length_set]),
        List.getElem?_set_self hbound]
    · rw [references_eq, decide_eq_true (hasEntry_extended hne hwhole value)]
  · cases hkept.symm.trans (withArchive_of_last separator archive hlast)
    rfl

/-- Options with two classpaths, the first of which lacks the archive. -/
def twice : List Text :=
  ["-Xmx2g".toList, "-classpath".toList, "/lib/a.jar:b.jar".toList, "-cp".toList, "c.jar".toList]

example : HasEntry ';' "C:\\tla\\tla2tools.jar".toList "a.jar;D:/lib\\tla2tools.jar".toList := by
  decide

theorem java_extends_twice :
    java [':'] "/opt/tla2tools.jar".toList twice =
      .ok (twice.set 2 "/lib/a.jar:b.jar:/opt/tla2tools.jar".toList ++ [defaultCollector]) := by
  have hwhole : ':' ∉ "/opt/tla2tools.jar".toList := by decide
  obtain ⟨kept, output, hjava, rfl, hvalue, -⟩ := java_extends (by decide) hwhole twice
  obtain ⟨rfl, -⟩ := hvalue (i := 1) rfl rfl
  exact hjava

end TlaRunner.Arguments
