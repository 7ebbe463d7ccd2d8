import TlaRunner.Proofs.Diagnostic.Shelf

/-!
# Merged collections

Merging concatenates: a file has the records it has in the merged collections, one collection
after the other, and the files come in the order in which they first appear
(`Collection.concatenates_merge`).  Nothing else makes up a mapping (`Mapping.eq_of_files`), so it
does not matter how merged collections are grouped.

`Shelf.merges_after` says this of all collections that calls can build.
-/

namespace TlaRunner.Diagnostic

/-! ## First appearances -/

section

variable {α : Type} [BEq α] [LawfulBEq α]

/-- The first appearances among the elements with a property. -/
theorem eraseDups_filter (p : α → Bool) (xs : List α) :
    (xs.filter p).eraseDups = xs.eraseDups.filter p := by
  induction hlen : xs.length using Nat.strong_induction_on generalizing xs with
  | _ n ih =>
      cases xs with
      | nil => rfl
      | cons x rest =>
          have hshorter (q : α → Bool) : (rest.filter q).length < n := by
            rw [← hlen]
            exact Nat.lt_succ_of_le (List.length_filter_le q rest)
          have hrest := ih _ (hshorter fun y => !y == x) _ rfl
          rw [List.eraseDups_cons, List.filter_cons, List.filter_cons]
          split
          next hx =>
            rw [List.eraseDups_cons, ← hrest, List.filter_filter, List.filter_filter]
            simp only [Bool.and_comm]
          next hx =>
            have hother : (rest.filter fun y => !y == x).filter p = rest.filter p := by
              rw [List.filter_filter]
              refine List.filter_congr fun y _ => ?_
              by_cases hy : y = x
              · simp [hy, hx]
              · simp [hy]
            rw [← hrest, hother]

/-- Elements that differ all appear first. -/
theorem eraseDups_of_nodup {xs : List α} (h : xs.Nodup) : xs.eraseDups = xs := by
  induction xs with
  | nil => rfl
  | cons x rest ih =>
      obtain ⟨hx, hrest⟩ := List.nodup_cons.mp h
      have hothers : rest.filter (fun y => !y == x) = rest := by
        refine List.filter_eq_self.mpr fun y hy => ?_
        have hne : y ≠ x := fun heq => hx (heq ▸ hy)
        simp [hne]
      rw [List.eraseDups_cons, hothers, ih hrest]

theorem nodup_eraseDups (xs : List α) : xs.eraseDups.Nodup := by
  induction xs with
  | nil => exact List.nodup_nil
  | cons x rest ih =>
      rw [List.eraseDups_cons, eraseDups_filter]
      refine List.nodup_cons.mpr ⟨fun hx => ?_, ih.filter _⟩
      simpa using (List.mem_filter.mp hx).2

/-- Only first appearances count of what comes first. -/
theorem eraseDups_eraseDups_append (xs ys : List α) :
    (xs.eraseDups ++ ys).eraseDups = (xs ++ ys).eraseDups := by
  have hsame : ys.removeAll xs.eraseDups = ys.removeAll xs :=
    List.filter_congr fun y _ => by simp [List.mem_eraseDups]
  rw [List.eraseDups_append, List.eraseDups_append, eraseDups_of_nodup (nodup_eraseDups xs), hsame]

/-- Nor does more count of what comes last. -/
theorem eraseDups_append_eraseDups (xs ys : List α) :
    (xs ++ ys.eraseDups).eraseDups = (xs ++ ys).eraseDups := by
  have hlast : (ys.eraseDups.removeAll xs).eraseDups = (ys.removeAll xs).eraseDups := by
    rw [List.removeAll, ← eraseDups_filter, eraseDups_of_nodup (nodup_eraseDups _)]
    rfl
  rw [List.eraseDups_append, List.eraseDups_append, hlast]

end

/-! ## Mappings -/

namespace Mapping

/-- A mapping is its files in order with their records. -/
theorem eq_of_files {m other : Mapping} (hm : m.files.Nodup) (hfiles : m.files = other.files)
    (hrecords : ∀ file, m.recordsOf file = other.recordsOf file) : m = other := by
  induction m generalizing other with
  | nil => exact (List.map_eq_nil_iff.mp hfiles.symm).symm
  | cons entry rest ih =>
      obtain ⟨file, rs⟩ := entry
      cases other with
      | nil => cases hfiles
      | cons entry' rest' =>
          obtain ⟨file', rs'⟩ := entry'
          obtain ⟨rfl, hrest⟩ : file = file' ∧ files rest = files rest' := List.cons.inj hfiles
          obtain ⟨hnew, hnodup⟩ : file ∉ files rest ∧ (files rest).Nodup := List.nodup_cons.mp hm
          have hhere := hrecords file
          rw [recordsOf_cons, recordsOf_cons, if_pos rfl, if_pos rfl] at hhere
          have hothers : rest = rest' := ih hnodup hrest fun other => by
            by_cases hother : file = other
            · rw [← hother, recordsOf_of_notMem hnew, recordsOf_of_notMem (hrest ▸ hnew)]
            · have h := hrecords other
              rwa [recordsOf_cons, recordsOf_cons, if_neg hother, if_neg hother] at h
          rw [hhere, hothers]

/-- What a mapping is that concatenates others. -/
structure Concatenates (m : Mapping) (ms : List Mapping) : Prop where
  /-- The files come in the order in which they first appear, those without records included. -/
  files : m.files = (ms.flatMap Mapping.files).eraseDups
  /-- A file has all records that it has in the others, in their order. -/
  records : ∀ file, m.recordsOf file = ms.flatMap (·.recordsOf file)

theorem Concatenates.nodup {m : Mapping} {ms : List Mapping} (h : m.Concatenates ms) :
    m.files.Nodup :=
  h.files ▸ nodup_eraseDups _

/-- There is one way to concatenate. -/
theorem Concatenates.unique {m other : Mapping} {ms : List Mapping} (hm : m.Concatenates ms)
    (hother : other.Concatenates ms) : m = other :=
  eq_of_files hm.nodup (hm.files.trans hother.files.symm) fun file =>
    (hm.records file).trans (hother.records file).symm

/-- Concatenating concatenations concatenates what they are made of. -/
theorem Concatenates.flatten {m : Mapping} {ms : List Mapping} {mss : List (List Mapping)}
    (h : m.Concatenates ms) (hms : List.Forall₂ Concatenates ms mss) :
    m.Concatenates mss.flatten := by
  have hfiles : (ms.flatMap Mapping.files).eraseDups =
      (mss.flatten.flatMap Mapping.files).eraseDups := by
    clear h
    induction hms with
    | nil => rfl
    | cons hhere _ ih =>
        rw [List.flatMap_cons, List.flatten_cons, List.flatMap_append, hhere.files,
          eraseDups_eraseDups_append, ← eraseDups_append_eraseDups, ih,
          eraseDups_append_eraseDups]
  have hrecords (file : Text) :
      ms.flatMap (·.recordsOf file) = mss.flatten.flatMap (·.recordsOf file) := by
    clear h hfiles
    induction hms with
    | nil => rfl
    | cons hhere _ ih =>
        rw [List.flatMap_cons, List.flatten_cons, List.flatMap_append, hhere.records, ih]
  exact ⟨h.files.trans hfiles, fun file => (h.records file).trans (hrecords file)⟩

end Mapping

/-! ## Merging -/

namespace Collection

/-- Merging sound collections concatenates them. -/
theorem concatenates_merge {cs : List Collection} (h : ∀ c ∈ cs, c.Sound) :
    (merge cs).mapping.Concatenates (cs.map (·.mapping)) := by
  induction cs using List.reverseRecOn with
  | nil => exact ⟨rfl, fun _ => rfl⟩
  | append_singleton cs c ih =>
      obtain ⟨hcs, hc⟩ := List.forall_mem_append.mp h
      have hlast := List.forall_mem_singleton.mp hc
      have hbefore := ih hcs
      have hjoins : (merge (cs ++ [c])).mapping.Joins (merge cs).mapping c.mapping := by
        rw [merge, List.foldl_append]
        exact joins_extendBy (sound_merge cs).nodup hlast.nodup hlast.filed
      constructor
      · have hboth : (merge cs).mapping.files ++
            c.mapping.files.filter (· ∉ (merge cs).mapping.files) =
              ((merge cs).mapping.files ++ c.mapping.files).eraseDups := by
          have hothers : c.mapping.files.removeAll (merge cs).mapping.files =
              c.mapping.files.filter (· ∉ (merge cs).mapping.files) :=
            List.filter_congr fun file _ => by simp
          rw [List.eraseDups_append, eraseDups_of_nodup (sound_merge cs).nodup, hothers,
            eraseDups_of_nodup (hlast.nodup.filter _)]
        rw [hjoins.files, hboth, hbefore.files, eraseDups_eraseDups_append, List.map_append,
          List.flatMap_append, List.map_singleton, List.flatMap_singleton]
      · intro file
        rw [hjoins.records, hbefore.records, List.map_append, List.flatMap_append,
          List.map_singleton, List.flatMap_singleton]

/-- A collection without files makes no difference. -/
theorem merge_empty (front back : List Collection) :
    merge (front ++ empty :: back) = merge (front ++ back) := by
  rw [merge, merge, List.foldl_append, List.foldl_append, List.foldl_cons]
  rfl

/-- A sound collection is what its mapping makes of nothing. -/
theorem Sound.mapping_ofMapping {c : Collection} (h : c.Sound) :
    (ofMapping c.mapping).mapping = c.mapping :=
  mapping_extendBy h.nodup h.filed

end Collection

/-! ## Laws -/

namespace Shelf

open Collection (merge ofMapping)

/-- The laws of merging on a shelf. -/
structure Merges (s : Shelf) : Prop where
  /-- Merging concatenates, in order and with all repetitions. -/
  concatenates : ∀ names : List Text,
    (merge (names.map s)).mapping.Concatenates (names.map fun name => (s name).mapping)
  /-- Merging what was merged is merging all at once. -/
  associative : ∀ groups : List (List Text),
    (merge (groups.map fun names => merge (names.map s))).Alike (merge (groups.flatten.map s))
  /-- A collection that is merged alone stays the same. -/
  alone : ∀ name, (merge [s name]).Alike (s name)
  /-- The collection without files makes no difference, wherever it stands. -/
  neutral : ∀ front back : List Text,
    merge (front.map s ++ .empty :: back.map s) = merge (front.map s ++ back.map s)
  /-- Merging nothing gives the collection without files. -/
  nothing : merge [] = .empty
  /-- What is merged stays as it is, whatever is done to the others and to the outcome later.
  Collections are values, so no two of them can share what they hold, and nothing in how they are
  merged could change this. -/
  inputs : ∀ (name : Text) (names : List Text) (later : List Call) (input : Text),
    (∀ call ∈ .merge name names :: later, call.name ≠ input) →
      (Call.merge name names :: later).foldl perform s input = s input
  /-- A collection is made again from its mapping. -/
  rebuilt : ∀ name, (ofMapping (s name).mapping).Alike (s name)

/-- Collections that were built by calls merge by concatenation. -/
theorem merges_after (calls : List Call) : (after calls).Merges := by
  have hsound (names : List Text) : ∀ c ∈ names.map (after calls), c.Sound :=
    List.forall_mem_map.mpr fun name _ => sound_after calls name
  have hconcatenates (names : List Text) := Collection.concatenates_merge (hsound names)
  simp only [List.map_map] at hconcatenates
  refine ⟨hconcatenates, fun groups => ?_, fun name => ?_, fun front back => ?_, rfl,
    fun name names later input h => foldl_perform_of_ne h _, fun name => ?_⟩
  · refine (Collection.sound_merge _).alike (Collection.sound_merge _) ?_
    have hmerged : ∀ c ∈ groups.map (fun names => merge (names.map (after calls))), c.Sound :=
      List.forall_mem_map.mpr fun names _ => Collection.sound_merge _
    have hparts : List.Forall₂ Mapping.Concatenates
        ((groups.map fun names => merge (names.map (after calls))).map Collection.mapping)
        (groups.map (·.map fun name => (after calls name).mapping)) := by
      rw [List.map_map, List.forall₂_map_left_iff, List.forall₂_map_right_iff]
      exact List.forall₂_same.mpr fun names _ => hconcatenates names
    have hgroups := (Collection.concatenates_merge hmerged).flatten hparts
    rw [← List.map_flatten] at hgroups
    exact hgroups.unique (hconcatenates groups.flatten)
  · have hname := sound_after calls name
    exact (Collection.sound_merge _).alike hname hname.mapping_ofMapping
  · exact Collection.merge_empty _ _
  · have hname := sound_after calls name
    exact (Collection.sound_empty.extendBy _).alike hname hname.mapping_ofMapping

end Shelf

end TlaRunner.Diagnostic
