import Mathlib.Data.List.Induction
import Mathlib.Data.List.Nodup
import TlaRunner.Settings.Sources

/-!
# Tables

A table is read by its keys and changed key by key.  Setting a key changes what that key says and
nothing else (`Table.get?_set`), and of several entries for a key the last one counts where a table
takes in another (`Table.get?_update`).

Of a file, the entries count as they are written (`Settings.saidBy`), and of a project file those
of its section alone (`Settings.saidInSection`).
-/

namespace TlaRunner

namespace Value.Table

/-- The keys of a table, in order. -/
def keys (t : Table) : List Text :=
  t.map (·.1)

/-- The value of the last entry for a key. -/
def last? (t : Table) (key : Text) : Option Value :=
  ((t.filter (·.1 = key)).getLast?).map (·.2)

/-! ## Looking up -/

theorem get?_cons (entry : Text × Value) (rest : Table) (key : Text) :
    Table.get? (entry :: rest) key = if entry.1 = key then some entry.2 else rest.get? key := by
  rw [get?, List.find?_cons]
  by_cases h : entry.1 = key
  · simp [h]
  · simp [h, get?]

theorem keys_cons (entry : Text × Value) (rest : Table) :
    Table.keys (entry :: rest) = entry.1 :: rest.keys := rfl

theorem mem_keys {t : Table} {entry : Text × Value} (h : entry ∈ t) : entry.1 ∈ t.keys :=
  List.mem_map_of_mem h

theorem get?_eq_none_iff {t : Table} {key : Text} : t.get? key = none ↔ key ∉ t.keys := by
  rw [get?, Option.map_eq_none_iff, List.find?_eq_none, keys, List.mem_map]
  constructor
  · rintro h ⟨entry, hentry, hsame⟩
    exact h entry hentry (decide_eq_true hsame)
  · intro h entry hentry hsame
    exact h ⟨entry, hentry, of_decide_eq_true hsame⟩

theorem mem_keys_iff {t : Table} {key : Text} : key ∈ t.keys ↔ ∃ v, t.get? key = some v := by
  rw [← not_iff_not, ← get?_eq_none_iff, not_exists, Option.eq_none_iff_forall_ne_some]

theorem last?_concat (t : Table) (entry : Text × Value) (key : Text) :
    Table.last? (t ++ [entry]) key = if entry.1 = key then some entry.2 else t.last? key := by
  rw [last?, List.filter_append]
  by_cases h : entry.1 = key
  · rw [if_pos h, List.filter_singleton, decide_eq_true h, cond_true, List.getLast?_concat]
    rfl
  · rw [if_neg h, List.filter_singleton, decide_eq_false h, cond_false, List.append_nil]
    rfl

/-- Where keys are distinct there is one entry for a key, which is the last one, too. -/
theorem last?_eq_get? {t : Table} (hkeys : t.keys.Nodup) (key : Text) :
    t.last? key = t.get? key := by
  induction t with
  | nil => rfl
  | cons entry rest ih =>
      rw [keys_cons] at hkeys
      obtain ⟨hfirst, hrest⟩ := List.nodup_cons.mp hkeys
      rw [get?_cons, last?, List.filter_cons]
      by_cases h : entry.1 = key
      · have hnone : rest.filter (·.1 = key) = [] := by
          refine List.filter_eq_nil_iff.mpr fun other hother hsame => ?_
          apply hfirst
          rw [h, ← of_decide_eq_true hsame]
          exact mem_keys hother
        rw [if_pos h, if_pos (decide_eq_true h), hnone]
        rfl
      · rw [if_neg h, if_neg (by simpa using h), ← ih hrest]
        rfl

/-- Of entries with distinct keys, those with certain values are looked up as before. -/
theorem get?_filter {t : Table} (hkeys : t.keys.Nodup) (p : Value → Bool) (key : Text) :
    Table.get? (t.filter fun entry => p entry.2) key = (t.get? key).filter p := by
  induction t with
  | nil => rfl
  | cons entry rest ih =>
      rw [keys_cons] at hkeys
      obtain ⟨hfirst, hrest⟩ := List.nodup_cons.mp hkeys
      rw [get?_cons, List.filter_cons]
      by_cases hsame : entry.1 = key
      · subst hsame
        rw [if_pos rfl, Option.filter_some]
        split
        · rw [get?_cons, if_pos rfl]
        · rw [ih hrest, get?_eq_none_iff.mpr hfirst]
          rfl
      · rw [if_neg hsame, ← ih hrest]
        split
        · rw [get?_cons, if_neg hsame]
        · rfl

/-- Entries that are made from a list of distinct keys are looked up there. -/
theorem get?_filterMap {β : Type} {names : List (Text × β)} (hnames : (names.map (·.1)).Nodup)
    {g : Text × β → Option (Text × Value)} (hg : ∀ known, ∀ entry ∈ g known, entry.1 = known.1)
    (key : Text) :
    Table.get? (names.filterMap g) key =
      (names.find? (·.1 = key)).bind fun known => (g known).map (·.2) := by
  induction names with
  | nil => rfl
  | cons known rest ih =>
      obtain ⟨hfirst, hrest⟩ := List.nodup_cons.mp hnames
      rw [List.filterMap_cons, List.find?_cons]
      by_cases hsame : known.1 = key
      · rw [decide_eq_true hsame]
        simp only [Option.bind_some]
        cases hentry : g known with
        | some entry =>
            simp only [Option.map_some]
            rw [get?_cons, if_pos ((hg known entry hentry).trans hsame)]
        | none =>
            have hnone : rest.find? (·.1 = key) = none := by
              refine List.find?_eq_none.mpr fun other hother hkey => hfirst ?_
              have hother' : other.1 ∈ rest.map (·.1) := List.mem_map_of_mem hother
              rwa [of_decide_eq_true hkey, ← hsame] at hother'
            simp only [ih hrest, hnone, Option.bind_none, Option.map_none]
      · rw [decide_eq_false hsame]
        simp only
        cases hentry : g known with
        | some entry =>
            simp only
            rw [get?_cons, if_neg fun h => hsame ((hg known entry hentry).symm.trans h), ih hrest]
        | none => exact ih hrest

theorem keys_filterMap_sublist {β : Type} {g : Text × β → Option (Text × Value)}
    (hg : ∀ known, ∀ entry ∈ g known, entry.1 = known.1) (names : List (Text × β)) :
    (Table.keys (names.filterMap g)).Sublist (names.map (·.1)) := by
  induction names with
  | nil => exact List.Sublist.refl _
  | cons known rest ih =>
      rw [List.filterMap_cons]
      cases hentry : g known with
      | some entry =>
          simp only
          rw [keys_cons, hg known entry hentry]
          exact ih.cons_cons _
      | none => exact ih.cons _

/-! ## Setting -/

theorem get?_set (t : Table) (key : Text) (value : Value) (other : Text) :
    (t.set key value).get? other = if key = other then some value else t.get? other := by
  induction t with
  | nil => exact get?_cons (key, value) [] other
  | cons entry rest ih =>
      obtain ⟨k, v⟩ := entry
      rw [set]
      split
      next hsame =>
        subst hsame
        rw [get?_cons, get?_cons]
        split
        · rfl
        · rfl
      next hne =>
        rw [get?_cons, get?_cons, ih]
        by_cases hother : key = other
        · rw [if_pos hother, if_neg fun h => hne (h.trans hother.symm), if_pos hother]
        · rw [if_neg hother, if_neg hother]

/-- A key that is there keeps its place, and any other comes last. -/
theorem keys_set (t : Table) (key : Text) (value : Value) :
    (t.set key value).keys = if key ∈ t.keys then t.keys else t.keys ++ [key] := by
  induction t with
  | nil => rfl
  | cons entry rest ih =>
      obtain ⟨k, v⟩ := entry
      rw [set]
      split
      next hsame =>
        subst hsame
        exact (if_pos List.mem_cons_self).symm
      next hne =>
        simp only [keys_cons, ih, List.mem_cons, Ne.symm hne, false_or]
        split
        · rfl
        · rfl

theorem nodup_keys_set {t : Table} (h : t.keys.Nodup) (key : Text) (value : Value) :
    (t.set key value).keys.Nodup := by
  rw [keys_set]
  split
  next => exact h
  next hnew => exact h.append (List.nodup_singleton key) (List.disjoint_singleton.mpr hnew)

/-! ## Taking in another table -/

theorem update_concat (t other : Table) (entry : Text × Value) :
    t.update (other ++ [entry]) = (t.update other).set entry.1 entry.2 :=
  List.foldl_append

/-- The last entry for a key counts. -/
theorem get?_update (t other : Table) (key : Text) :
    (t.update other).get? key = (other.last? key).or (t.get? key) := by
  induction other using List.reverseRecOn with
  | nil => rfl
  | append_singleton other entry ih =>
      rw [update_concat, get?_set, last?_concat, ih]
      split
      · rfl
      · rfl

theorem nodup_keys_update {t : Table} (h : t.keys.Nodup) (other : Table) :
    (t.update other).keys.Nodup := by
  induction other using List.reverseRecOn with
  | nil => exact h
  | append_singleton other entry ih =>
      rw [update_concat]
      exact nodup_keys_set ih _ _

/-- A table whose keys are distinct is taken in as it is where there is nothing yet. -/
theorem update_nil {t : Table} (h : t.keys.Nodup) : Table.update [] t = t := by
  have hset {t : Table} {entry : Text × Value} (hnew : entry.1 ∉ t.keys) :
      t.set entry.1 entry.2 = t ++ [entry] := by
    induction t with
    | nil => rfl
    | cons first rest ih =>
        obtain ⟨hfirst, hrest⟩ := not_or.mp (mt List.mem_cons.mpr hnew)
        rw [set, if_neg (Ne.symm hfirst), ih hrest]
        rfl
  induction t using List.reverseRecOn with
  | nil => rfl
  | append_singleton t entry ih =>
      rw [keys, List.map_append] at h
      obtain ⟨hbefore, _, hnew⟩ := List.nodup_append.mp h
      rw [update_concat, ih hbefore, hset]
      exact fun hmem => hnew _ hmem _ (List.mem_singleton.mpr rfl) rfl

end Value.Table

/-! ## Files -/

namespace Settings

open Value (Table)

/-- What the entries of a file say for a key.  A dash in a key counts as an underscore, and of the
entries whose key becomes the same the last one counts. -/
def saidBy (t : Table) (key : Text) : Option Value :=
  ((t.filter fun entry => entry.1.map (fun c => if c = '-' then '_' else c) = key).getLast?).map
    (·.2)

theorem get?_plainKeys (t : Table) (key : Text) : (plainKeys t).get? key = saidBy t key := by
  rw [plainKeys, Table.get?_update, Table.last?, List.filter_map, List.getLast?_map, Option.map_map]
  exact Option.or_none

theorem nodup_plainKeys (t : Table) : (plainKeys t).keys.Nodup :=
  Table.nodup_keys_update (t := []) List.nodup_nil _

/-- What a project file says for a key.  Only its section counts, that is the table for `tlaqa` in
the table for `tool`. -/
def saidInSection (t : Table) (key : Text) : Option Value :=
  match t.get? "tool".toList with
  | some (.table tools) =>
      match Table.get? tools "tlaqa".toList with
      | some (.table entries) => saidBy entries key
      | _ => none
  | _ => none

theorem get?_plainKeys_sectionOf (t : Table) (key : Text) :
    (plainKeys (sectionOf t)).get? key = saidInSection t key := by
  rw [get?_plainKeys, sectionOf, saidInSection, sectionKeys]
  cases t.get? "tool".toList with
  | none => rfl
  | some tool =>
      cases tool with
      | table tools =>
          simp only [Option.bind_some, Value.get?]
          cases Table.get? tools "tlaqa".toList with
          | none => rfl
          | some inner =>
              cases inner with
              | table entries => rfl
              | _ => rfl
      | _ => rfl

end Settings

end TlaRunner
