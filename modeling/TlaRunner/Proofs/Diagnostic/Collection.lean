import Mathlib.Data.List.Infix
import Mathlib.Data.List.Nodup
import Mathlib.Data.List.Pairwise
import TlaRunner.Diagnostic.Collection

/-!
# What a collection holds

A mapping `Replays` named files and found records if it has one entry for each file that
was named or that a record is about, with the records about it in the order in which they
came, and no other entry.  A collection `Holds` them if besides it knows their identities,
and no two are the same finding.

Naming a file and adding a record that is not known keep this (`Holds.addFile`,
`Holds.append`), so it is all that has to be known of a collection that was built up.
-/

namespace TlaRunner.Diagnostic

/-! ## Mappings -/

namespace Mapping

/-- The entry of a file, if there is one. -/
def findings? (m : Mapping) (file : Text) : Option (List Record) :=
  (m.find? (·.1 = file)).map (·.2)

theorem findings?_cons (f : Text) (rs : List Record) (rest : Mapping) (file : Text) :
    findings? ((f, rs) :: rest) file = if f = file then some rs else findings? rest file := by
  rw [findings?, List.find?_cons]
  by_cases h : f = file
  · simp [h]
  · simp [h, findings?]

/-- Putting a record last changes the entry of its file alone. -/
theorem findings?_append (m : Mapping) (file : Text) (r : Record) (other : Text) :
    (m.append file r).findings? other =
      if file = other then some ((m.findings? file).getD [] ++ [r]) else m.findings? other := by
  induction m with
  | nil => rw [append, findings?_cons]; rfl
  | cons entry rest ih =>
      obtain ⟨f, rs⟩ := entry
      rw [append]
      by_cases hf : f = file
      · subst hf
        rw [if_pos rfl, findings?_cons, findings?_cons, findings?_cons, if_pos rfl,
          Option.getD_some]
        by_cases hother : f = other
        · rw [if_pos hother, if_pos hother]
        · rw [if_neg hother, if_neg hother, if_neg hother]
      · rw [if_neg hf, findings?_cons, ih, findings?_cons, findings?_cons, if_neg hf]
        by_cases hother : f = other
        · rw [if_pos hother, if_neg fun h => hf (hother.trans h.symm), if_pos hother]
        · rw [if_neg hother, if_neg hother]

/-- A file has an entry if it is among the files. -/
theorem isSome_findings? (m : Mapping) (file : Text) :
    (m.findings? file).isSome ↔ file ∈ m.files := by
  induction m with
  | nil => simp [findings?, files]
  | cons entry rest ih =>
      obtain ⟨f, rs⟩ := entry
      rw [findings?_cons, files, List.map_cons, List.mem_cons, ← files]
      by_cases hf : f = file
      · simp [hf]
      · rw [if_neg hf, ih, or_iff_right fun h => hf h.symm]

theorem any_eq_file (m : Mapping) (file : Text) :
    m.any (·.1 = file) ↔ file ∈ m.files := by
  simp [files]

/-- Entering a file changes the entry of that file alone. -/
theorem findings?_enter (m : Mapping) (file other : Text) :
    (m.enter file).findings? other =
      if file = other then some ((m.findings? file).getD []) else m.findings? other := by
  rw [enter]
  by_cases hfile : file ∈ m.files
  · rw [if_pos ((m.any_eq_file file).mpr hfile)]
    by_cases hother : file = other
    · subst hother
      obtain ⟨rs, hrs⟩ := Option.isSome_iff_exists.mp ((m.isSome_findings? file).mpr hfile)
      rw [if_pos rfl, hrs, Option.getD_some]
    · rw [if_neg hother]
  · rw [if_neg fun h => hfile ((m.any_eq_file file).mp h)]
    have hnone : m.findings? file = none := by
      rw [← Option.not_isSome_iff_eq_none, m.isSome_findings? file]
      exact hfile
    rw [findings?, List.find?_append, hnone]
    by_cases hother : file = other
    · subst hother
      have hfind : m.find? (·.1 = file) = none := Option.map_eq_none_iff.mp hnone
      simp [hfind]
    · simp [hother, findings?]

theorem files_append (m : Mapping) (file : Text) (r : Record) :
    (m.append file r).files = if file ∈ m.files then m.files else m.files ++ [file] := by
  induction m with
  | nil => rfl
  | cons entry rest ih =>
      obtain ⟨f, rs⟩ := entry
      have hcons (rs : List Record) (rest : Mapping) : files ((f, rs) :: rest) = f :: files rest :=
        rfl
      rw [append]
      by_cases hf : f = file
      · rw [if_pos hf, hcons, hcons, if_pos (hf ▸ List.mem_cons_self)]
      · have hmem : file ∈ f :: files rest ↔ file ∈ files rest := by
          rw [List.mem_cons, or_iff_right fun h => hf h.symm]
        simp only [if_neg hf, hcons, ih, hmem]
        split
        · rfl
        · rfl

theorem files_enter (m : Mapping) (file : Text) :
    (m.enter file).files = if file ∈ m.files then m.files else m.files ++ [file] := by
  rw [enter]
  by_cases hfile : file ∈ m.files
  · rw [if_pos hfile, if_pos ((m.any_eq_file file).mpr hfile)]
  · rw [if_neg hfile, if_neg fun h => hfile ((m.any_eq_file file).mp h), files, List.map_append,
      ← files]
    rfl

/-- A file that comes last, unless it is there, is there once. -/
theorem nodup_of_last {files : List Text} {file : Text} (h : files.Nodup) :
    (if file ∈ files then files else files ++ [file]).Nodup := by
  split
  next => exact h
  next hnot =>
    refine List.nodup_append.mpr ⟨h, List.nodup_singleton file, fun f hf g hg => ?_⟩
    rw [List.mem_singleton.mp hg]
    exact fun heq => hnot (heq ▸ hf)

/-- Where no file has two entries, an entry is that of its file. -/
theorem mem_iff_findings? {m : Mapping} (h : m.files.Nodup) (file : Text) (rs : List Record) :
    (file, rs) ∈ m ↔ m.findings? file = some rs := by
  induction m with
  | nil => simp [findings?]
  | cons entry rest ih =>
      obtain ⟨f, fs⟩ := entry
      obtain ⟨hnot, hrest⟩ := List.nodup_cons.mp h
      rw [List.mem_cons, findings?_cons, ih hrest, Prod.mk.injEq]
      by_cases hf : f = file
      · subst hf
        have hnone : Mapping.findings? rest f ≠ some rs := fun hsome =>
          hnot ((isSome_findings? rest f).mp (Option.isSome_of_eq_some hsome))
        rw [if_pos rfl, or_iff_left hnone, and_iff_right rfl, Option.some.injEq, eq_comm]
      · rw [if_neg hf, or_iff_right fun hboth => hf hboth.1.symm]

/-! ## A file before the others -/

/-- The mapping with a file before the others, if one is given. -/
def ledBy (m : Mapping) : Option Text → Mapping
  | none => m
  | some lead => (lead, m.recordsOf lead) :: m.filter (·.1 ≠ lead)

theorem recordsOf_append (m : Mapping) (file : Text) (r : Record) (other : Text) :
    (m.append file r).recordsOf other =
      if file = other then m.recordsOf other ++ [r] else m.recordsOf other := by
  have hfindings := m.findings?_append file r other
  rw [findings?] at hfindings
  rw [recordsOf, hfindings]
  split
  next h =>
    rw [h]
    rfl
  next => rfl

theorem recordsOf_enter (m : Mapping) (file other : Text) :
    (m.enter file).recordsOf other = m.recordsOf other := by
  have hfindings := m.findings?_enter file other
  rw [findings?] at hfindings
  rw [recordsOf, hfindings]
  split
  next h =>
    rw [h]
    rfl
  next => rfl

/-- Putting a record last keeps the other entries. -/
theorem filter_append (m : Mapping) (file : Text) (r : Record) (lead : Text) :
    (m.append file r).filter (·.1 ≠ lead) =
      if file = lead then m.filter (·.1 ≠ lead) else append (m.filter (·.1 ≠ lead)) file r := by
  induction m with
  | nil =>
      by_cases hlead : file = lead
      · simp [append, hlead]
      · simp [append, hlead]
  | cons entry rest ih =>
      obtain ⟨f, rs⟩ := entry
      rw [append]
      by_cases hf : f = file
      · subst hf
        by_cases hlead : f = lead
        · simp [hlead]
        · simp [hlead, append]
      · rw [if_neg hf, List.filter_cons, ih, List.filter_cons]
        by_cases hlead : file = lead
        · simp [hlead]
        · by_cases hfirst : f = lead
          · simp [hlead, hfirst]
          · simp [hlead, hfirst, append, hf]

/-- Whether a file has an entry is seen without another one. -/
theorem any_filter_file (m : Mapping) {file lead : Text} (h : lead ≠ file) :
    (m.filter (·.1 ≠ lead)).any (·.1 = file) = m.any (·.1 = file) := by
  rw [List.any_filter]
  refine List.any_congr rfl fun entry => ?_
  by_cases hentry : entry.1 = file
  · simp [hentry, Ne.symm h]
  · simp [hentry]

/-- A file that leads takes its records where it is. -/
theorem ledBy_append (m : Mapping) (file : Text) (r : Record) (lead : Option Text) :
    (m.ledBy lead).append file r = (m.append file r).ledBy lead := by
  cases lead with
  | none => rfl
  | some lead =>
      rw [ledBy, append, ledBy, recordsOf_append, filter_append]
      by_cases hlead : lead = file
      · rw [if_pos hlead, if_pos hlead.symm, if_pos hlead.symm]
      · rw [if_neg hlead, if_neg (Ne.symm hlead), if_neg (Ne.symm hlead)]

theorem ledBy_enter (m : Mapping) (file : Text) (lead : Option Text) :
    (m.ledBy lead).enter file = (m.enter file).ledBy lead := by
  cases lead with
  | none => rfl
  | some lead =>
      rw [ledBy, ledBy, recordsOf_enter, enter, List.any_cons]
      by_cases hlead : lead = file
      · have hfilter : (m.enter file).filter (·.1 ≠ lead) = m.filter (·.1 ≠ lead) := by
          rw [enter]
          split
          · rfl
          · simp [hlead]
        rw [if_pos (by simp [hlead]), hfilter]
      · rw [decide_eq_false hlead, Bool.false_or, any_filter_file m hlead, enter]
        split
        · rfl
        · simp [Ne.symm hlead]

/-! ## Growth -/

/-- Whether a mapping was only added to: files behind the files, and records behind the
records of a file. -/
structure Grows (m later : Mapping) : Prop where
  /-- The files come first, in their order. -/
  files : m.files <+: later.files
  /-- So do the records of each file. -/
  records : ∀ file, m.recordsOf file <+: later.recordsOf file

theorem Grows.refl (m : Mapping) : m.Grows m :=
  ⟨List.prefix_rfl, fun _ => List.prefix_rfl⟩

theorem Grows.trans {m middle later : Mapping} (hfirst : m.Grows middle)
    (hlast : middle.Grows later) : m.Grows later :=
  ⟨hfirst.files.trans hlast.files, fun file => (hfirst.records file).trans (hlast.records file)⟩

theorem grows_append (m : Mapping) (file : Text) (r : Record) : m.Grows (m.append file r) := by
  refine ⟨?_, fun other => ?_⟩
  · rw [files_append]
    split
    · exact List.prefix_rfl
    · exact List.prefix_append _ _
  · rw [recordsOf_append]
    split
    · exact List.prefix_append _ _
    · exact List.prefix_rfl

theorem grows_enter (m : Mapping) (file : Text) : m.Grows (m.enter file) := by
  refine ⟨?_, fun other => ?_⟩
  · rw [files_enter]
    split
    · exact List.prefix_rfl
    · exact List.prefix_append _ _
  · rw [recordsOf_enter]

/-! ## Replays -/

/-- What a mapping is when files were named and records were found. -/
structure Replays (m : Mapping) (named : List Text) (found : List Record) : Prop where
  /-- A file has one entry. -/
  nodup : m.files.Nodup
  /-- The entries are those of the files that were named or that a record is about, each
  with the records about it, in order. -/
  findings? : ∀ file, m.findings? file =
    if file ∈ named ∨ ∃ r ∈ found, r.file = file then some (found.filter (·.file = file)) else none

theorem replays_nil : Replays [] [] [] :=
  ⟨List.nodup_nil, fun file => by simp [Mapping.findings?]⟩

section

variable {m : Mapping} {named : List Text} {found : List Record}

/-- The records of a file, whether it has an entry or not. -/
theorem Replays.getD_findings? (h : m.Replays named found) (file : Text) :
    (m.findings? file).getD [] = found.filter (·.file = file) := by
  rw [h.findings?]
  split
  next => rfl
  next hnot =>
    symm
    rw [Option.getD_none, List.filter_eq_nil_iff]
    intro r hr
    simpa using fun heq => hnot (Or.inr ⟨r, hr, heq⟩)

theorem Replays.enter (h : m.Replays named found) (file : Text) :
    (m.enter file).Replays (named ++ [file]) found := by
  refine ⟨?_, fun other => ?_⟩
  · rw [files_enter]
    exact nodup_of_last h.nodup
  · rw [findings?_enter, h.getD_findings?, h.findings?]
    by_cases hfile : file = other
    · have hnamed : other ∈ named ++ [file] :=
        List.mem_append_right _ (List.mem_singleton.mpr hfile.symm)
      rw [if_pos hfile, if_pos (Or.inl hnamed), hfile]
    · have hnamed : other ∈ named ++ [file] ↔ other ∈ named := by
        rw [List.mem_append, List.mem_singleton, or_iff_left fun heq => hfile heq.symm]
      simp only [if_neg hfile, hnamed]

theorem Replays.append (h : m.Replays named found) (r : Record) :
    (m.append r.file r).Replays named (found ++ [r]) := by
  refine ⟨?_, fun other => ?_⟩
  · rw [files_append]
    exact nodup_of_last h.nodup
  · rw [findings?_append, h.getD_findings?, h.findings?, List.filter_append]
    by_cases hfile : r.file = other
    · have hfound : ∃ x ∈ found ++ [r], x.file = other :=
        ⟨r, List.mem_append_right _ List.mem_cons_self, hfile⟩
      rw [if_pos hfile, if_pos (Or.inr hfound), List.filter_cons_of_pos (by simpa using hfile),
        List.filter_nil, hfile]
    · have hfound : (∃ x ∈ found ++ [r], x.file = other) ↔ ∃ x ∈ found, x.file = other := by
        simp [or_and_right, exists_or, hfile]
      have hlast : [r].filter (·.file = other) = [] := by simp [hfile]
      simp only [if_neg hfile, hfound, hlast, List.append_nil]

/-- The records of a mapping are those that were found. -/
theorem Replays.mem_records (h : m.Replays named found) (r : Record) :
    r ∈ m.records ↔ r ∈ found := by
  rw [records, List.mem_flatMap]
  constructor
  · rintro ⟨⟨file, rs⟩, hentry, hr⟩
    have hfilter := h.getD_findings? file
    rw [(mem_iff_findings? h.nodup file rs).mp hentry, Option.getD_some] at hfilter
    exact List.mem_of_mem_filter (hfilter ▸ hr)
  · intro hr
    refine ⟨(r.file, found.filter (·.file = r.file)), ?_, List.mem_filter.mpr ⟨hr, by simp⟩⟩
    rw [mem_iff_findings? h.nodup, h.findings?, if_pos (Or.inr ⟨r, hr, rfl⟩)]

/-- The records of an entry are about its file. -/
theorem Replays.file_eq (h : m.Replays named found) {file : Text} {rs : List Record}
    (hentry : (file, rs) ∈ m) {r : Record} (hr : r ∈ rs) : r.file = file := by
  have hfilter := h.getD_findings? file
  rw [(mem_iff_findings? h.nodup file rs).mp hentry, Option.getD_some] at hfilter
  rw [hfilter] at hr
  exact of_decide_eq_true (List.mem_filter.mp hr).2

end

/-! ## Mappings of mappings -/

/-- The entry of a file takes its records. -/
theorem append_at {m rest : Mapping} {file : Text} (h : file ∉ m.files) (rs : List Record)
    (r : Record) :
    append (m ++ (file, rs) :: rest) file r = m ++ (file, rs ++ [r]) :: rest := by
  induction m with
  | nil => rw [List.nil_append, append, if_pos rfl, List.nil_append]
  | cons entry m ih =>
      obtain ⟨f, fs⟩ := entry
      rw [files, List.map_cons, List.mem_cons, not_or] at h
      rw [List.cons_append, append, if_neg fun heq => h.1 heq.symm, ih h.2, List.cons_append]

theorem enter_new {m : Mapping} {file : Text} (h : file ∉ m.files) :
    m.enter file = m ++ [(file, [])] := by
  rw [enter, if_neg fun hany => h ((m.any_eq_file file).mp hany)]

end Mapping

/-! ## Collections -/

namespace Collection

/-- What a collection is when files were named and records were added to it. -/
structure Holds (c : Collection) (named : List Text) (found : List Record) : Prop where
  /-- Its mapping has their entries. -/
  replays : c.mapping.Replays named found
  /-- It knows their identities. -/
  seen : ∀ identity, identity ∈ c.seen ↔ ∃ r ∈ found, r.identity = identity
  /-- No two of them are the same finding. -/
  distinct : found.Pairwise (·.identity ≠ ·.identity)

theorem holds_empty : Holds empty [] [] :=
  ⟨Mapping.replays_nil, fun identity => by simp [empty], List.Pairwise.nil⟩

variable {c : Collection} {named : List Text} {found : List Record}

theorem Holds.addFile (h : c.Holds named found) (file : Text) :
    (c.addFile file).Holds (named ++ [file]) found :=
  ⟨h.replays.enter file, h.seen, h.distinct⟩

theorem Holds.knows_iff (h : c.Holds named found) (r : Record) :
    c.knows r = true ↔ ∃ x ∈ found, x.identity = r.identity := by
  rw [knows, List.contains_iff_mem, h.seen]

/-- A record that is not known is added behind the others. -/
theorem Holds.append (h : c.Holds named found) {r : Record} (hnew : c.knows r = false) :
    (c.append r).Holds named (found ++ [r]) := by
  refine ⟨h.replays.append r, fun identity => ?_, ?_⟩
  · simp [Collection.append, h.seen, or_and_right, exists_or, or_comm, eq_comm]
  · refine List.pairwise_append.mpr
      ⟨h.distinct, List.pairwise_singleton _ _, fun x hx y hy heq => ?_⟩
    rw [List.mem_singleton.mp hy] at heq
    rw [(h.knows_iff r).mpr ⟨x, hx, heq⟩] at hnew
    cases hnew

/-! ## Collections of mappings -/

/-- Records are put behind those of the entry of their file. -/
theorem mapping_foldl_append {c : Collection} {m rest : Mapping} {file : Text}
    {before : List Record} (hentry : c.mapping = m ++ (file, before) :: rest)
    (hnew : file ∉ m.files) {rs : List Record} (hfile : ∀ r ∈ rs, r.file = file) :
    (rs.foldl Collection.append c).mapping = m ++ (file, before ++ rs) :: rest := by
  induction rs generalizing c before with
  | nil => rw [List.foldl_nil, hentry, List.append_nil]
  | cons r rs ih =>
      rw [List.forall_mem_cons] at hfile
      have hnext : (c.append r).mapping = m ++ (file, before ++ [r]) :: rest := by
        rw [Collection.append, hfile.1, hentry, Mapping.append_at hnew]
      rw [List.foldl_cons, ih hnext hfile.2, List.append_assoc]
      rfl

/-- The entries of a mapping come behind those that are there. -/
theorem mapping_extendBy {c : Collection} {m : Mapping}
    (hnodup : (c.mapping.files ++ m.files).Nodup)
    (hfile : ∀ entry ∈ m, ∀ r ∈ entry.2, r.file = entry.1) :
    (c.extendBy m).mapping = c.mapping ++ m := by
  induction m generalizing c with
  | nil => rw [extendBy, List.foldl_nil, List.append_nil]
  | cons entry rest ih =>
      obtain ⟨file, rs⟩ := entry
      rw [List.forall_mem_cons] at hfile
      have hnew : file ∉ c.mapping.files := fun hmem =>
        (List.nodup_append.mp hnodup).2.2 file hmem file List.mem_cons_self rfl
      have hentered : (c.addFile file).mapping = c.mapping ++ [(file, [])] :=
        Mapping.enter_new hnew
      have hhere := mapping_foldl_append hentered hnew hfile.1
      rw [List.nil_append] at hhere
      rw [extendBy, List.foldl_cons, ← extendBy, ih _ hfile.2, hhere, List.append_assoc]
      · rfl
      · rw [hhere, Mapping.files, List.map_append, List.append_assoc]
        exact hnodup

/-- What was built up from names and records is the mapping of its own collection. -/
theorem mapping_ofMapping {m : Mapping} (h : m.Replays named found) :
    (ofMapping m).mapping = m :=
  mapping_extendBy h.nodup fun _ hentry _ hr => h.file_eq hentry hr

end Collection

/-! ## Findings of two runs -/

namespace Mapping

/-- What findings are that join those of two runs. -/
structure Joins (m first last : Mapping) : Prop where
  /-- The files of the first run come first, then those that only the last one has. -/
  files : m.files = first.files ++ last.files.filter (· ∉ first.files)
  /-- A file has the records of the first run and behind them those of the last. -/
  records : ∀ file, m.recordsOf file = first.recordsOf file ++ last.recordsOf file
  /-- A file has one entry. -/
  nodup : m.files.Nodup

theorem recordsOf_cons (f : Text) (rs : List Record) (rest : Mapping) (file : Text) :
    recordsOf ((f, rs) :: rest) file = if f = file then rs else recordsOf rest file := by
  have hfindings := findings?_cons f rs rest file
  rw [findings?] at hfindings
  rw [recordsOf, hfindings]
  split
  · rfl
  · rfl

theorem recordsOf_of_notMem {m : Mapping} {file : Text} (h : file ∉ m.files) :
    m.recordsOf file = [] := by
  have hnone : m.findings? file = none :=
    Option.not_isSome_iff_eq_none.mp fun hsome => h ((m.isSome_findings? file).mp hsome)
  rw [findings?] at hnone
  rw [recordsOf, hnone, Option.getD_none]

end Mapping

namespace Collection

open Mapping (files_append files_enter recordsOf_append recordsOf_enter recordsOf_cons
  recordsOf_of_notMem nodup_of_last)

/-- Records of a file that is there come behind its others. -/
theorem foldl_append_spec {c : Collection} {file : Text} (hthere : file ∈ c.mapping.files)
    {rs : List Record} (hfile : ∀ r ∈ rs, r.file = file) :
    let after := (rs.foldl Collection.append c).mapping
    after.files = c.mapping.files ∧ ∀ other, after.recordsOf other =
      c.mapping.recordsOf other ++ if file = other then rs else [] := by
  induction rs generalizing c with
  | nil => exact ⟨rfl, fun other => by rw [ite_self, List.append_nil]; rfl⟩
  | cons r rs ih =>
      rw [List.forall_mem_cons] at hfile
      have hsame : (c.append r).mapping.files = c.mapping.files := by
        rw [Collection.append, files_append, if_pos (hfile.1 ▸ hthere)]
      obtain ⟨hfiles, hrecords⟩ := ih (c := c.append r) (hsame ▸ hthere) hfile.2
      refine ⟨hfiles.trans hsame, fun other => (hrecords other).trans ?_⟩
      rw [Collection.append, recordsOf_append, hfile.1]
      split
      next => rw [List.append_assoc, List.singleton_append]
      next => rfl

/-- Findings of another run come behind those that are there. -/
theorem joins_extendBy {c : Collection} (hc : c.mapping.files.Nodup) {m : Mapping}
    (hm : m.files.Nodup) (hfile : ∀ entry ∈ m, ∀ r ∈ entry.2, r.file = entry.1) :
    (c.extendBy m).mapping.Joins c.mapping m := by
  induction m generalizing c with
  | nil =>
      refine ⟨?_, fun file => ?_, hc⟩
      · exact (List.append_nil _).symm
      · exact (List.append_nil _).symm
  | cons entry rest ih =>
      obtain ⟨file, rs⟩ := entry
      rw [List.forall_mem_cons] at hfile
      obtain ⟨hnew, hrest⟩ : file ∉ Mapping.files rest ∧ (Mapping.files rest).Nodup :=
        List.nodup_cons.mp hm
      have hentered : (c.addFile file).mapping.files =
          if file ∈ c.mapping.files then c.mapping.files else c.mapping.files ++ [file] :=
        files_enter c.mapping file
      have hthere : file ∈ (c.addFile file).mapping.files := by
        rw [hentered]
        split
        next hold => exact hold
        next => exact List.mem_append_right _ (List.mem_singleton.mpr rfl)
      obtain ⟨hfiles, hrecords⟩ := foldl_append_spec hthere hfile.1
      rw [hentered] at hfiles
      have hjoins := ih (c := rs.foldl Collection.append (c.addFile file))
        (hfiles ▸ nodup_of_last hc) hrest hfile.2
      refine ⟨?_, fun other => ?_, hjoins.nodup⟩
      · refine hjoins.files.trans ?_
        rw [hfiles]
        change _ = c.mapping.files ++ (file :: Mapping.files rest).filter (· ∉ c.mapping.files)
        by_cases hold : file ∈ c.mapping.files
        · rw [if_pos hold, List.filter_cons_of_neg (by simpa using hold)]
        · have hothers : (Mapping.files rest).filter (· ∉ c.mapping.files ++ [file]) =
              (Mapping.files rest).filter (· ∉ c.mapping.files) := by
            refine List.filter_congr fun other hother => ?_
            have hdistinct : other ≠ file := fun hsame => hnew (hsame ▸ hother)
            simp [hdistinct]
          rw [if_neg hold, hothers, List.filter_cons_of_pos (by simpa using hold),
            List.append_assoc, List.singleton_append]
      · refine (hjoins.records other).trans ?_
        rw [hrecords, recordsOf_cons, List.append_assoc]
        have hsame : (c.addFile file).mapping.recordsOf other = c.mapping.recordsOf other :=
          recordsOf_enter c.mapping file other
        rw [hsame]
        by_cases hother : file = other
        · rw [if_pos hother, if_pos hother, ← hother, recordsOf_of_notMem (m := rest) hnew,
            List.append_nil]
        · rw [if_neg hother, if_neg hother, List.nil_append]

/-- Merging the findings of two runs joins them. -/
theorem joins_merge {first last : Mapping} {named named' : List Text} {found found' : List Record}
    (hfirst : first.Replays named found) (hlast : last.Replays named' found') :
    (merge [ofMapping first, ofMapping last]).mapping.Joins first last := by
  have hbegun : ((empty.extend (ofMapping first)).mapping) = first := by
    rw [extend, mapping_ofMapping hfirst]
    exact mapping_ofMapping hfirst
  change ((empty.extend (ofMapping first)).extend (ofMapping last)).mapping.Joins first last
  have hjoins := joins_extendBy (c := empty.extend (ofMapping first))
    (by rw [hbegun]; exact hfirst.nodup) hlast.nodup fun _ hentry _ hr => hlast.file_eq hentry hr
  rw [hbegun] at hjoins
  rwa [extend, mapping_ofMapping hlast]

end Collection

end TlaRunner.Diagnostic
