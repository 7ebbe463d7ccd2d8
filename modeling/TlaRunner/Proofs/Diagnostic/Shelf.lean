import Mathlib.Logic.Function.Basic
import TlaRunner.Proofs.Diagnostic.Collection

/-!
# Collections under names

A program keeps several collections and builds them by calls: it adds a record or a file to one,
appends one to another or to itself, merges some of them, or makes one of a mapping.  A `Shelf`
holds the collections by name, and `Shelf.after` is the shelf behind a list of calls.

Every collection of such a shelf is `Sound` (`Shelf.sound_after`): a file has one entry, which
holds records about that file, and the known identities are those of the records.  So two of them
with the same mapping can not be told apart by any later call (`Collection.Sound.alike`).
-/

namespace TlaRunner.Diagnostic

namespace Mapping

/-- Whether every record stands under its own file. -/
def Filed (m : Mapping) : Prop :=
  ∀ entry ∈ m, ∀ r ∈ entry.2, r.file = entry.1

theorem Filed.append {m : Mapping} (h : m.Filed) (r : Record) : (m.append r.file r).Filed := by
  induction m with
  | nil => exact List.forall_mem_singleton.mpr (List.forall_mem_singleton.mpr rfl)
  | cons entry rest ih =>
      obtain ⟨file, rs⟩ := entry
      obtain ⟨hhere, hrest⟩ := List.forall_mem_cons.mp h
      rw [Mapping.append]
      split
      next hsame =>
        refine List.forall_mem_cons.mpr ⟨List.forall_mem_append.mpr ⟨hhere, ?_⟩, hrest⟩
        exact List.forall_mem_singleton.mpr hsame.symm
      next => exact List.forall_mem_cons.mpr ⟨hhere, ih hrest⟩

theorem Filed.enter {m : Mapping} (h : m.Filed) (file : Text) : (m.enter file).Filed := by
  rw [Mapping.enter]
  split
  next => exact h
  next => exact List.forall_mem_append.mpr ⟨h, List.forall_mem_singleton.mpr (by simp)⟩

/-- A record that is put last under its file is one more. -/
theorem perm_records_append (m : Mapping) (file : Text) (r : Record) :
    (m.append file r).records.Perm (r :: m.records) := by
  induction m with
  | nil => exact List.Perm.refl _
  | cons entry rest ih =>
      obtain ⟨f, rs⟩ := entry
      rw [append]
      split
      next =>
        rw [records, List.flatMap_cons, List.append_assoc, ← records]
        exact List.perm_middle
      next =>
        rw [records, List.flatMap_cons, ← records]
        exact (ih.append_left rs).trans List.perm_middle

theorem mem_records_append {m : Mapping} {file : Text} {r x : Record} :
    x ∈ (m.append file r).records ↔ x ∈ m.records ∨ x = r := by
  rw [(m.perm_records_append file r).mem_iff, List.mem_cons, or_comm]

theorem records_enter (m : Mapping) (file : Text) : (m.enter file).records = m.records := by
  rw [enter]
  split
  next => rfl
  next => simp [records]

end Mapping

namespace Collection

/-- What every collection keeps that is built by calls. -/
structure Sound (c : Collection) : Prop where
  /-- A file has one entry. -/
  nodup : c.mapping.files.Nodup
  /-- The entry of a file holds records about that file. -/
  filed : c.mapping.Filed
  /-- The known identities are those of the records. -/
  seen : ∀ identity, identity ∈ c.seen ↔ ∃ r ∈ c.mapping.records, r.identity = identity

theorem sound_empty : empty.Sound :=
  ⟨List.nodup_nil, fun _ h => (List.not_mem_nil h).elim, fun identity => by
    simp [empty, Mapping.records]⟩

section

variable {c d : Collection}

theorem Sound.addFile (h : c.Sound) (file : Text) : (c.addFile file).Sound := by
  refine ⟨?_, h.filed.enter file, fun identity => ?_⟩
  · rw [Collection.addFile, Mapping.files_enter]
    exact Mapping.nodup_of_last h.nodup
  · rw [Collection.addFile, Mapping.records_enter]
    exact h.seen identity

/-- A record is put last under its file, whether it is known or not. -/
theorem Sound.append (h : c.Sound) (r : Record) : (c.append r).Sound := by
  refine ⟨?_, h.filed.append r, fun identity => ?_⟩
  · rw [Collection.append, Mapping.files_append]
    exact Mapping.nodup_of_last h.nodup
  · simp only [Collection.append, List.mem_cons, h.seen, Mapping.mem_records_append]
    simp only [or_and_right, exists_or, exists_eq_left]
    rw [or_comm, eq_comm]

theorem Sound.add (h : c.Sound) (r : Record) : (c.add r).2.Sound := by
  rw [Collection.add]
  split
  next => exact h
  next => exact h.append r

/-- What naming files and putting records keeps is kept when a mapping is appended. -/
theorem extendBy_induction {P : Collection → Prop} (hfile : ∀ c file, P c → P (c.addFile file))
    (hrecord : ∀ c r, P c → P (c.append r)) (h : P c) (m : Mapping) : P (c.extendBy m) := by
  have hrecords (rs : List Record) : ∀ c, P c → P (rs.foldl append c) := by
    induction rs with
    | nil => exact fun _ h => h
    | cons r rs ih => exact fun c h => ih (c.append r) (hrecord c r h)
  induction m generalizing c with
  | nil => exact h
  | cons entry rest ih => exact ih (hrecords entry.2 _ (hfile c entry.1 h))

theorem Sound.extendBy (h : c.Sound) (m : Mapping) : (c.extendBy m).Sound :=
  extendBy_induction (fun _ file h => h.addFile file) (fun _ r h => h.append r) h m

theorem sound_merge (cs : List Collection) : (merge cs).Sound := by
  suffices hfrom : ∀ c : Collection, c.Sound → (cs.foldl extend c).Sound from
    hfrom empty sound_empty
  induction cs with
  | nil => exact fun _ h => h
  | cons d cs ih => exact fun c h => ih (c.extend d) (h.extendBy d.mapping)

/-- A record is known if one with its identity is there. -/
theorem Sound.knows_iff (h : c.Sound) (r : Record) :
    c.knows r = true ↔ ∃ x ∈ c.mapping.records, x.identity = r.identity := by
  rw [knows, List.contains_iff_mem, h.seen]

/-! ## Later changes -/

/-- Something that may be done to a collection later. -/
inductive Change
  /-- A record is added, unless it is known. -/
  | add (r : Record)
  /-- A file is entered. -/
  | addFile (file : Text)
  /-- Another collection is appended. -/
  | extend (other : Collection)

/-- A collection after a change. -/
def change (c : Collection) : Change → Collection
  | .add r => (c.add r).2
  | .addFile file => c.addFile file
  | .extend other => c.extend other

/-- Whether two collections have the same mapping and answer every later addition alike, whatever
is done to both before. -/
structure Alike (c d : Collection) : Prop where
  /-- They have the same mapping, the order of the files included. -/
  mapping : c.mapping = d.mapping
  /-- A record that is added later is new to both or to none. -/
  answers : ∀ (changes : List Change) (r : Record),
    ((changes.foldl change c).add r).1 = ((changes.foldl change d).add r).1

theorem Sound.change (h : c.Sound) (x : Change) : (c.change x).Sound := by
  cases x with
  | add r => exact h.add r
  | addFile file => exact h.addFile file
  | extend other => exact h.extendBy other.mapping

/-- A record is known to both of two collections with the same mapping, or to none. -/
theorem Sound.knows_congr (hc : c.Sound) (hd : d.Sound) (h : c.mapping = d.mapping) (r : Record) :
    c.knows r = d.knows r := by
  rw [Bool.eq_iff_iff, hc.knows_iff, hd.knows_iff, h]

/-- The mapping of an extended collection depends on its mapping alone. -/
theorem mapping_extendBy_congr (h : c.mapping = d.mapping) (m : Mapping) :
    (c.extendBy m).mapping = (d.extendBy m).mapping := by
  have hrecords (rs : List Record) : ∀ c d : Collection, c.mapping = d.mapping →
      (rs.foldl append c).mapping = (rs.foldl append d).mapping := by
    induction rs with
    | nil => exact fun _ _ h => h
    | cons r rs ih => exact fun c d h => ih _ _ (congrArg (Mapping.append · r.file r) h)
  induction m generalizing c d with
  | nil => exact h
  | cons entry rest ih =>
      exact ih (hrecords entry.2 _ _ (congrArg (Mapping.enter · entry.1) h))

theorem Sound.mapping_change_congr (hc : c.Sound) (hd : d.Sound) (h : c.mapping = d.mapping)
    (x : Change) : (c.change x).mapping = (d.change x).mapping := by
  cases x with
  | add r =>
      have hknows := hc.knows_congr hd h r
      simp only [Collection.change, Collection.add, hknows]
      split
      next => exact h
      next => rw [Collection.append, Collection.append, h]
  | addFile file =>
      rw [Collection.change, Collection.change, Collection.addFile, Collection.addFile, h]
  | extend other => exact mapping_extendBy_congr h other.mapping

/-- Later calls cannot tell apart collections with the same mapping. -/
theorem Sound.alike (hc : c.Sound) (hd : d.Sound) (h : c.mapping = d.mapping) : c.Alike d := by
  refine ⟨h, fun changes r => ?_⟩
  induction changes generalizing c d with
  | nil =>
      rw [List.foldl_nil, List.foldl_nil, Collection.add, Collection.add, hc.knows_congr hd h]
      split
      next => rfl
      next => rfl
  | cons x changes ih => exact ih (hc.change x) (hd.change x) (hc.mapping_change_congr hd h x)

end

end Collection

/-! ## Shelves -/

/-- Collections under names.  A name that was not used stands for a collection without files. -/
abbrev Shelf := Text → Collection

/-- A call that makes or changes the collection under a name. -/
inductive Call
  /-- Adds a record, unless it is known. -/
  | add (name : Text) (r : Record)
  /-- Enters a file. -/
  | addFile (name file : Text)
  /-- Appends a collection, which may be the same. -/
  | extend (name other : Text)
  /-- Merges collections in order, each as often as it is named. -/
  | merge (name : Text) (others : List Text)
  /-- Makes the collection of a mapping. -/
  | ofMapping (name : Text) (m : Mapping)

/-- The name that a call is about. -/
def Call.name : Call → Text
  | add name _ => name
  | addFile name _ => name
  | extend name _ => name
  | merge name _ => name
  | ofMapping name _ => name

namespace Shelf

/-- The shelf without collections. -/
def bare : Shelf := fun _ => .empty

/-- The collection that a call puts under its name. -/
def make (s : Shelf) : Call → Collection
  | .add name r => ((s name).add r).2
  | .addFile name file => (s name).addFile file
  | .extend name other => (s name).extend (s other)
  | .merge _ others => .merge (others.map s)
  | .ofMapping _ m => .ofMapping m

/-- A shelf after a call. -/
def perform (s : Shelf) (call : Call) : Shelf :=
  Function.update s call.name (s.make call)

/-- The shelf after a list of calls. -/
def after (calls : List Call) : Shelf :=
  calls.foldl perform bare

theorem sound_make {s : Shelf} (h : ∀ name, (s name).Sound) (call : Call) :
    (s.make call).Sound := by
  cases call with
  | add name r => exact (h name).add r
  | addFile name file => exact (h name).addFile file
  | extend name other => exact (h name).extendBy (s other).mapping
  | merge name others => exact Collection.sound_merge (others.map s)
  | ofMapping name m => exact Collection.sound_empty.extendBy m

/-- Whatever is built by calls is sound. -/
theorem sound_after (calls : List Call) (name : Text) : (after calls name).Sound := by
  induction calls using List.reverseRecOn generalizing name with
  | nil => exact Collection.sound_empty
  | append_singleton calls call ih =>
      rw [after, List.foldl_append, List.foldl_cons, List.foldl_nil, ← after, perform]
      by_cases hname : name = call.name
      · rw [hname, Function.update_self]
        exact sound_make ih call
      · rw [Function.update_of_ne hname]
        exact ih name

/-- A collection stays as it is while calls are about others. -/
theorem foldl_perform_of_ne {name : Text} {calls : List Call}
    (h : ∀ call ∈ calls, call.name ≠ name) (s : Shelf) : calls.foldl perform s name = s name := by
  induction calls generalizing s with
  | nil => rfl
  | cons call calls ih =>
      obtain ⟨hcall, hcalls⟩ := List.forall_mem_cons.mp h
      rw [List.foldl_cons, ih hcalls, perform, Function.update_of_ne hcall.symm]

end Shelf

end TlaRunner.Diagnostic
