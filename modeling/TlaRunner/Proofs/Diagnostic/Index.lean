import TlaRunner.Proofs.Diagnostic.Shelf

/-!
# The known identities

A collection keeps the identities of its records beside them, and asks these alone whether a record
is new.  Whatever calls built it, the identities are exactly those of its records
(`Collection.Sound`), so a record is refused exactly if one with its identity is there, and is put
last under its file otherwise (`Collection.Sound.answers`).  Records that were all asked for differ
in identity (`Shelf.distinct_after`); `extend`, `merge` and `ofMapping` may repeat them.

A collection that is appended to itself is read while it grows.  `extendInPlace` does so entry by
entry and gives up if a file was entered meanwhile.  That never happens, since every record stands
under its own file, and no entry is read after it grew (`Collection.Sound.extendInPlace_eq`).
-/

namespace TlaRunner.Diagnostic

/-! ## Additions -/

/-- Whether a mapping is another one with a record put last under its file. -/
structure Mapping.TakesLast (m : Mapping) (r : Record) (later : Mapping) : Prop where
  /-- The file of the record is entered last if it is new. -/
  files : later.files = if r.file ∈ m.files then m.files else m.files ++ [r.file]
  /-- The records of its file get one more at the end, and no others change. -/
  records : ∀ file, later.recordsOf file = m.recordsOf file ++ if r.file = file then [r] else []

theorem Mapping.takesLast_append (m : Mapping) (r : Record) :
    m.TakesLast r (m.append r.file r) := by
  refine ⟨m.files_append r.file r, fun file => ?_⟩
  rw [recordsOf_append]
  split
  · rfl
  · exact (List.append_nil _).symm

namespace Collection

/-- What adding a record does to a collection. -/
structure Answers (c : Collection) (r : Record) : Prop where
  /-- It is refused exactly if one with its identity is there. -/
  refused : (c.add r).1 = false ↔ ∃ x ∈ c.mapping.records, x.identity = r.identity
  /-- Then nothing changes. -/
  unchanged : (c.add r).1 = false → (c.add r).2 = c
  /-- Otherwise it is put last under its file. -/
  placed : (c.add r).1 = true → c.mapping.TakesLast r (c.add r).2.mapping

variable {c : Collection}

theorem Sound.answers (h : c.Sound) (r : Record) : c.Answers r := by
  have hknows := h.knows_iff r
  cases hknown : c.knows r with
  | true =>
      have hadd : c.add r = (false, c) := by rw [Collection.add, if_pos hknown]
      refine ⟨?_, fun _ => by rw [hadd], fun hnew => ?_⟩
      · rw [hadd]
        exact iff_of_true rfl (hknows.mp hknown)
      · rw [hadd] at hnew
        cases hnew
  | false =>
      have hadd : c.add r = (true, c.append r) := by
        rw [Collection.add, if_neg (by simp [hknown])]
      refine ⟨?_, fun hold => ?_, fun _ => ?_⟩
      · rw [hadd]
        exact iff_of_false Bool.true_eq_false.mp fun hsome => by simp [hknows.mpr hsome] at hknown
      · rw [hadd] at hold
        cases hold
      · rw [hadd]
        exact c.mapping.takesLast_append r

/-- No two records are the same finding. -/
def Distinct (c : Collection) : Prop :=
  c.mapping.records.Pairwise (·.identity ≠ ·.identity)

theorem Distinct.addFile (h : c.Distinct) (file : Text) : (c.addFile file).Distinct := by
  rw [Distinct, Collection.addFile, Mapping.records_enter]
  exact h

theorem Distinct.add (h : c.Distinct) (hsound : c.Sound) (r : Record) : (c.add r).2.Distinct := by
  rw [Collection.add]
  split
  next => exact h
  next hnew =>
    have hother : ∀ x ∈ c.mapping.records, r.identity ≠ x.identity := fun x hx heq =>
      hnew ((hsound.knows_iff r).mpr ⟨x, hx, heq.symm⟩)
    have hperm := c.mapping.perm_records_append r.file r
    exact (hperm.pairwise_iff Ne.symm).mpr (List.pairwise_cons.mpr ⟨hother, h⟩)

/-! ## Reading while growing -/

/-- Appends the entries of a collection from a turn on to the collection, each as it is when its
turn comes.  Nothing comes of it once the number of files is another one. -/
def extendFrom (size : Nat) (c : Collection) (turn : Nat) : (left : Nat) → Option Collection
  | 0 => if c.mapping.length = size then some c else none
  | left + 1 =>
    if c.mapping.length = size then
      match c.mapping[turn]? with
      | some (file, rs) => extendFrom size (rs.foldl append (c.addFile file)) (turn + 1) left
      | none => some c
    else none

/-- Appends a collection to itself without a copy. -/
def extendInPlace (c : Collection) : Option Collection :=
  c.extendFrom c.mapping.length 0 c.mapping.length

/-- A file that is there is not entered once more. -/
theorem addFile_of_mem {file : Text} (h : file ∈ c.mapping.files) : c.addFile file = c := by
  rw [Collection.addFile, Mapping.enter, if_pos ((c.mapping.any_eq_file file).mpr h)]

/-- The entries that were not read yet are as they were.  The induction is on these. -/
theorem Sound.extendFrom_eq {size : Nat} {front back : Mapping} (h : c.Sound)
    (hentries : c.mapping = front ++ back) (hsize : c.mapping.length = size) :
    c.extendFrom size front.length back.length = some (c.extendBy back) := by
  induction back generalizing c front with
  | nil =>
      rw [List.length_nil, extendFrom, if_pos hsize]
      rfl
  | cons entry back ih =>
      obtain ⟨file, rs⟩ := entry
      have hmem : (file, rs) ∈ c.mapping := hentries ▸ List.mem_append_right _ List.mem_cons_self
      have hthere : c.addFile file = c := addFile_of_mem (List.mem_map_of_mem hmem)
      have hnodup := h.nodup
      rw [hentries, Mapping.files, List.map_append, List.map_cons] at hnodup
      have hnew : file ∉ front.files := fun hold =>
        (List.nodup_append.mp hnodup).2.2 file hold file List.mem_cons_self rfl
      have hgrown : (rs.foldl Collection.append c).mapping =
          (front ++ [(file, rs ++ rs)]) ++ back := by
        rw [mapping_foldl_append hentries hnew (h.filed _ hmem), List.append_assoc,
          List.singleton_append]
      have hsound : (rs.foldl Collection.append c).Sound := by
        have hextended := h.extendBy [(file, rs)]
        rwa [Collection.extendBy, List.foldl_cons, List.foldl_nil, hthere] at hextended
      have hlength : (rs.foldl Collection.append c).mapping.length = size := by
        rw [hgrown, ← hsize, hentries]
        simp only [List.length_append, List.length_cons, List.length_nil]
        omega
      have hrest := ih hsound hgrown hlength
      have hturn : c.mapping[front.length]? = some (file, rs) := by
        rw [hentries, List.getElem?_append_right (Nat.le_refl _), Nat.sub_self]
        rfl
      rw [List.length_cons, extendFrom, if_pos hsize, hturn]
      simp only [hthere]
      rw [List.length_append, List.length_singleton] at hrest
      rw [hrest, Collection.extendBy, Collection.extendBy, List.foldl_cons, hthere]

/-- A collection can be appended to itself without a copy. -/
theorem Sound.extendInPlace_eq (h : c.Sound) : c.extendInPlace = some (c.extend c) :=
  h.extendFrom_eq (List.nil_append c.mapping).symm rfl

end Collection

/-! ## Calls -/

/-- Whether a call only adds a record or enters a file. -/
def Call.isAddition : Call → Bool
  | add .. => true
  | addFile .. => true
  | _ => false

namespace Shelf

open Collection (Distinct Answers)

/-- A shelf after a call that reads a collection in place where it is appended to itself. -/
def performInPlace (s : Shelf) : Call → Option Shelf
  | .extend name other =>
    if name = other then (s name).extendInPlace.map (Function.update s name)
    else some (s.perform (.extend name other))
  | call => some (s.perform call)

theorem performInPlace_eq {s : Shelf} (h : ∀ name, (s name).Sound) (call : Call) :
    s.performInPlace call = some (s.perform call) := by
  cases call with
  | extend name other =>
      rw [performInPlace]
      split
      next hsame =>
        rw [← hsame, (h name).extendInPlace_eq]
        rfl
      next => rfl
  | add name r => rfl
  | addFile name file => rfl
  | merge name others => rfl
  | ofMapping name m => rfl

/-- No call finds a collection that it cannot append to itself. -/
theorem foldlM_performInPlace (calls : List Call) :
    calls.foldlM performInPlace bare = some (after calls) := by
  induction calls using List.reverseRecOn with
  | nil => rfl
  | append_singleton calls call ih =>
      have hcall := performInPlace_eq (sound_after calls) call
      have hafter : (after calls).perform call = after (calls ++ [call]) := by
        rw [after, after, List.foldl_append, List.foldl_cons, List.foldl_nil]
      rw [List.foldlM_append, ih, ← hafter, Option.bind_eq_bind, Option.bind_some,
        List.foldlM_cons, hcall]
      rfl

/-- Records that were only added differ in identity. -/
theorem distinct_after {calls : List Call} {name : Text}
    (h : ∀ call ∈ calls, call.name = name → call.isAddition = true) :
    (after calls name).Distinct := by
  induction calls using List.reverseRecOn with
  | nil => exact List.Pairwise.nil
  | append_singleton calls call ih =>
      obtain ⟨hcalls, hcall⟩ := List.forall_mem_append.mp h
      have hbefore := ih hcalls
      rw [after, List.foldl_append, List.foldl_cons, List.foldl_nil, ← after, perform]
      by_cases hname : name = call.name
      · have haddition := List.forall_mem_singleton.mp hcall hname.symm
        subst hname
        rw [Function.update_self]
        cases call with
        | add name r => exact hbefore.add (sound_after calls name) r
        | addFile name file => exact hbefore.addFile file
        | extend name other => cases haddition
        | merge name others => cases haddition
        | ofMapping name m => cases haddition
      · rw [Function.update_of_ne hname]
        exact hbefore

/-- A collection that was built by calls knows the identities of its records and no others,
answers every addition by them, and repeats none of them unless a call may do that.  Nor do
such calls ever fail where they read what they change. -/
theorem index_exact (calls : List Call) (name : Text) :
    let c := after calls name
    calls.foldlM performInPlace bare = some (after calls) ∧
      c.mapping.Filed ∧
      (∀ identity, identity ∈ c.seen ↔ ∃ r ∈ c.mapping.records, r.identity = identity) ∧
      (∀ r, c.Answers r) ∧
      ((∀ call ∈ calls, call.name = name → call.isAddition = true) → c.Distinct) := by
  intro c
  have hsound : c.Sound := sound_after calls name
  exact ⟨foldlM_performInPlace calls, hsound.filed, hsound.seen, hsound.answers, distinct_after⟩

/-- A record that was entered under another file, and then twice. -/
example :
    let r : Record := ⟨"b.tla".toList, .fileStart, .error, "x".toList⟩
    let c := after [.ofMapping "c".toList [("a.tla".toList, [r])],
      .extend "c".toList "c".toList] "c".toList
    c.mapping = [("a.tla".toList, []), ("b.tla".toList, [r, r])] ∧ c.add r = (false, c) := by
  decide

end Shelf

end TlaRunner.Diagnostic
