import TlaRunner.Proofs.Diagnostic.Collection

/-!
# Findings that are told more than once

A tool may tell one finding several times.  `firsts` keeps the first record of each, and a
collection that learns records one after the other holds exactly these
(`mapping_learn`).  So a record that was learnt stands there, or one before it that tells
the same finding (`exists_mem_firsts`).
-/

namespace TlaRunner.Diagnostic

/-- Records without those that tell the finding of an earlier one. -/
def firsts : List Record → List Record
  | [] => []
  | r :: rest => r :: (firsts rest).filter (·.identity ≠ r.identity)

theorem mem_of_mem_firsts {rs : List Record} {r : Record} (h : r ∈ firsts rs) : r ∈ rs := by
  induction rs with
  | nil => exact h
  | cons first rest ih =>
      rcases List.mem_cons.mp h with rfl | hrest
      · exact List.mem_cons_self
      · exact List.mem_cons_of_mem _ (ih (List.mem_of_mem_filter hrest))

/-- Each finding is kept. -/
theorem exists_mem_firsts_iff {rs : List Record} {identity : Identity} :
    (∃ x ∈ firsts rs, x.identity = identity) ↔ ∃ x ∈ rs, x.identity = identity := by
  constructor
  · rintro ⟨x, hx, hidentity⟩
    exact ⟨x, mem_of_mem_firsts hx, hidentity⟩
  · induction rs with
    | nil => exact id
    | cons first rest ih =>
        rintro ⟨x, hx, hidentity⟩
        by_cases hfirst : first.identity = identity
        · exact ⟨first, List.mem_cons_self, hfirst⟩
        · have hrest : x ∈ rest := (List.mem_cons.mp hx).resolve_left fun heq =>
            hfirst (heq ▸ hidentity)
          obtain ⟨y, hy, rfl⟩ := ih ⟨x, hrest, hidentity⟩
          exact ⟨y, List.mem_cons_of_mem _ (List.mem_filter.mpr ⟨hy, by simpa using Ne.symm hfirst⟩),
            rfl⟩

/-- A record is kept behind others unless one of them tells its finding. -/
theorem firsts_append_singleton (rs : List Record) (r : Record) :
    firsts (rs ++ [r]) =
      if ∃ x ∈ rs, x.identity = r.identity then firsts rs else firsts rs ++ [r] := by
  induction rs with
  | nil => simp [firsts]
  | cons first rest ih =>
      rw [List.cons_append, firsts, ih, firsts]
      by_cases hfirst : first.identity = r.identity
      · have hsome : ∃ x ∈ first :: rest, x.identity = r.identity :=
          ⟨first, List.mem_cons_self, hfirst⟩
        have hlast : [r].filter (·.identity ≠ first.identity) = [] := by simp [hfirst]
        rw [if_pos hsome]
        split
        · rfl
        · rw [List.filter_append, hlast, List.append_nil]
      · have hsome : (∃ x ∈ first :: rest, x.identity = r.identity) ↔
            ∃ x ∈ rest, x.identity = r.identity := by simp [hfirst]
        have hlast : [r].filter (·.identity ≠ first.identity) = [r] := by simp [Ne.symm hfirst]
        simp only [hsome]
        split
        · rfl
        · rw [List.filter_append, hlast, List.cons_append]

/-- A record is kept, or one before it tells its finding. -/
theorem exists_mem_firsts (before after : List Record) (r : Record) :
    ∃ x ∈ firsts (before ++ r :: after), x.identity = r.identity ∧ (x = r ∨ x ∈ before) := by
  induction before with
  | nil => exact ⟨r, List.mem_cons_self, rfl, Or.inl rfl⟩
  | cons first rest ih =>
      by_cases hfirst : first.identity = r.identity
      · exact ⟨first, List.mem_cons_self, hfirst, Or.inr List.mem_cons_self⟩
      · obtain ⟨x, hx, hidentity, hwhence⟩ := ih
        have hother : x.identity ≠ first.identity := fun heq => hfirst (heq.symm.trans hidentity)
        exact ⟨x, List.mem_cons_of_mem _ (List.mem_filter.mpr ⟨hx, by simpa using hother⟩),
          hidentity, hwhence.imp_right (List.mem_cons_of_mem _)⟩

namespace Collection

/-- A collection after records were added to it. -/
def learn (c : Collection) (rs : List Record) : Collection :=
  rs.foldl (fun c r => (c.add r).2) c

theorem learn_append (c : Collection) (rs others : List Record) :
    c.learn (rs ++ others) = (c.learn rs).learn others :=
  List.foldl_append

/-- A file's own collection has one entry, with the first record of each finding. -/
theorem mapping_learn {file : Text} {rs : List Record} (hfile : ∀ r ∈ rs, r.file = file) :
    ((empty.addFile file).learn rs).mapping = [(file, firsts rs)] := by
  suffices hboth : ((empty.addFile file).learn rs).Holds [file] (firsts rs) ∧
      ((empty.addFile file).learn rs).mapping = [(file, firsts rs)] from hboth.2
  induction rs using List.reverseRecOn with
  | nil => exact ⟨holds_empty.addFile file, rfl⟩
  | append_singleton rs r ih =>
      obtain ⟨hbefore, hr⟩ := List.forall_mem_append.mp hfile
      obtain ⟨hheld, hmapping⟩ := ih hbefore
      have hknows := (hheld.knows_iff r).trans exists_mem_firsts_iff
      rw [learn_append, firsts_append_singleton, learn, List.foldl_cons, List.foldl_nil, add]
      cases hknown : ((empty.addFile file).learn rs).knows r with
      | true =>
          rw [if_pos (hknows.mp hknown)]
          exact ⟨hheld, hmapping⟩
      | false =>
          have hnew : ¬∃ x ∈ rs, x.identity = r.identity := fun hsome => by
            rw [hknows.mpr hsome] at hknown
            cases hknown
          rw [if_neg hnew]
          refine ⟨hheld.append hknown, ?_⟩
          have hlast : Mapping.append [(file, firsts rs)] file r = [(file, firsts rs ++ [r])] :=
            Mapping.append_at (m := []) List.not_mem_nil (firsts rs) r
          rw [if_neg Bool.false_ne_true, append, hr r (List.mem_singleton.mpr rfl), hmapping, hlast]

end Collection

end TlaRunner.Diagnostic
