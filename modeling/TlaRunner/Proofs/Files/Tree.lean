import TlaRunner.Files.Host

/-!
# Files that are put in place

A walk that leads to a file, or to where one can be made, ends under a name (`Stop.file?`).  When
a file is put there, the same walk leads to it (`Puts.walk`): what the walk met on its way were
directories and links, and whatever stood under another name still does.

So a path that was opened for writing leads to an empty file, and what is written at the end of a
file stands behind what the file held (`walk_of_openForWriting`, `walk_writeAt`).
-/

namespace TlaRunner.Files

namespace Tree

/-! ## Nodes -/

/-- A node that was set is there. -/
theorem node?_set_self (t : Tree) (names : Names) (node : Node) :
    (t.set names node).node? names = some node := by
  have hfound : (t.set names node).find? (·.1 = names) = some (names, node) := by
    induction t with
    | nil => exact List.find?_cons_of_pos (decide_eq_true rfl)
    | cons entry rest ih =>
        obtain ⟨name, old⟩ := entry
        rw [set]
        split
        next hsame =>
          subst hsame
          exact List.find?_cons_of_pos (decide_eq_true rfl)
        next hother => exact (List.find?_cons_of_neg (by simpa using hother)).trans ih
  rw [node?, hfound]

/-- The entries of other names stay. -/
theorem find?_set_of_ne {names other : Names} (hne : other ≠ names) (t : Tree) (node : Node) :
    (t.set names node).find? (·.1 = other) = t.find? (·.1 = other) := by
  induction t with
  | nil => exact List.find?_cons_of_neg (by simpa using hne.symm)
  | cons entry rest ih =>
      obtain ⟨name, old⟩ := entry
      rw [set]
      split
      next hsame =>
        subst hsame
        rw [List.find?_cons_of_neg (by simpa using hne.symm),
          List.find?_cons_of_neg (by simpa using hne.symm)]
      next =>
        rw [List.find?_cons, List.find?_cons]
        split
        · rfl
        · exact ih

/-- What lay below a name still lies there. -/
theorem any_set {p : Names → Bool} {t : Tree} (h : t.any (fun entry => p entry.1) = true)
    (names : Names) (node : Node) :
    (t.set names node).any (fun entry => p entry.1) = true := by
  induction t with
  | nil => cases h
  | cons entry rest ih =>
      obtain ⟨name, old⟩ := entry
      rw [set]
      split
      next => exact h
      next =>
        rw [List.any_cons, Bool.or_eq_true_iff] at h ⊢
        exact h.imp_right ih

/-- Whatever stands under another name stays. -/
theorem node?_set_of_ne {t : Tree} {names other : Names} {old : Node} (hne : other ≠ names)
    (h : t.node? other = some old) (node : Node) : (t.set names node).node? other = some old := by
  rw [node?] at h ⊢
  rw [find?_set_of_ne hne]
  split at h
  next entry _ => exact h
  next =>
    split at h
    next hdirectory =>
      rw [← h, if_pos]
      rw [Bool.or_eq_true_iff] at hdirectory ⊢
      exact hdirectory.imp_right fun hbelow => any_set hbelow names node
    next => cases h

/-! ## Walks to a file -/

/-- The name of the file that a walk leads to, or under which one can be made. -/
def Stop.file? : Stop → Option Names
  | .there names (.file ..) => some names
  | .vacant names => some names
  | _ => none

/-- The node that a walk leads to. -/
def Stop.node? : Stop → Option Node
  | .there _ node => some node
  | _ => none

/-- What stands under the name that names lead to is where they stop. -/
theorem node?_of_advance {t : Tree} {current rest names : Names}
    (h : (t.advance current rest).file? = some names) :
    t.node? names = (t.advance current rest).node? := by
  fun_induction advance t current rest with
  | case1 => cases h
  | case2 current rest ih => exact ih h
  | case3 => cases h
  | case4 current name rest _ here _ hnone =>
      have hsame : here = names := Option.some.inj h
      exact hsame ▸ hnone
  | case5 => cases h
  | case6 => cases h
  | case7 current name rest _ _ _ _ ih => exact ih h
  | case8 current name rest _ here _ content executable hfile =>
      have hsame : here = names := Option.some.inj h
      exact hsame ▸ hfile
  | case9 => cases h

theorem node?_of_walkFrom {t : Tree} {links : Nat} {current rest names : Names}
    (h : (t.walkFrom links current rest).file? = some names) :
    t.node? names = (t.walkFrom links current rest).node? := by
  induction links generalizing current rest with
  | zero =>
      rw [walkFrom] at h ⊢
      split at h
      next => cases h
      next => exact node?_of_advance h
  | succ links ih =>
      rw [walkFrom] at h ⊢
      split at h
      next => exact ih h
      next => exact node?_of_advance h

/-- A path that leads to a file in one tree is followed name by name in all of them. -/
theorem walk_eq {t : Tree} {cwd names : Names} {p : Path} (h : (t.walk cwd p).file? = some names)
    (after : Tree) : after.walk cwd p = after.walkFrom linkLimit (startOf cwd p) p.names := by
  rw [walk] at h ⊢
  split at h
  next => cases h
  next hzero =>
    split at h
    next => cases h
    next hshort => rw [if_neg hzero, if_neg hshort]

/-- What stands under the name that a path leads to is where the walk stops. -/
theorem node?_of_walk {t : Tree} {cwd names : Names} {p : Path}
    (h : (t.walk cwd p).file? = some names) : t.node? names = (t.walk cwd p).node? := by
  have hwalk := walk_eq h t
  rw [hwalk] at h ⊢
  exact node?_of_walkFrom h

/-! ## Putting a file in place -/

/-- A file is under a name where nothing but a file can have been, and all else stands where it
stood. -/
structure Puts (t after : Tree) (names : Names) (content : Bytes) (executable : Bool) : Prop where
  /-- The file is there. -/
  there : after.node? names = some (.file content executable)
  /-- No directory and no link was there. -/
  was : ∀ node, t.node? names = some node → ∃ content executable, node = .file content executable
  /-- All else stands where it stood. -/
  others : ∀ {other node}, other ≠ names → t.node? other = some node → after.node? other = some node

/-- A file that is set where a path leads to is put there. -/
theorem puts_set {t : Tree} {cwd names : Names} {p : Path} (h : (t.walk cwd p).file? = some names)
    (content : Bytes) (executable : Bool) :
    t.Puts (t.set names (.file content executable)) names content executable where
  there := t.node?_set_self names _
  was node hnode := by
    rw [node?_of_walk h] at hnode
    cases hstop : t.walk cwd p with
    | there found old =>
        rw [hstop] at h hnode
        cases old with
        | file content executable => exact ⟨content, executable, (Option.some.inj hnode).symm⟩
        | directory => cases h
        | link target => cases h
    | _ =>
        rw [hstop] at hnode
        cases hnode
  others hne hnode := node?_set_of_ne hne hnode _

section

variable {t after : Tree} {names : Names} {content : Bytes} {executable : Bool}

/-- A directory stays where it is. -/
theorem Puts.directory (h : t.Puts after names content executable) {other : Names}
    (hother : t.node? other = some .directory) : after.node? other = some .directory := by
  refine h.others (fun hsame => ?_) hother
  obtain ⟨content, executable, hfile⟩ := h.was _ (hsame ▸ hother)
  cases hfile

/-- So does a link. -/
theorem Puts.link (h : t.Puts after names content executable) {other : Names} {target : Path}
    (hother : t.node? other = some (.link target)) : after.node? other = some (.link target) := by
  refine h.others (fun hsame => ?_) hother
  obtain ⟨content, executable, hfile⟩ := h.was _ (hsame ▸ hother)
  cases hfile

/-- Names that lead to a link still do. -/
theorem Puts.advance_atLink (h : t.Puts after names content executable) {current rest : Names}
    {dir : Names} {target : Path} {left : Names}
    (hstop : t.advance current rest = .atLink dir target left) :
    after.advance current rest = .atLink dir target left := by
  fun_induction Tree.advance t current rest with
  | case2 current rest ih =>
      rw [Tree.advance, if_pos rfl]
      exact ih hstop
  | case6 current name rest hdown here hshort target hlink =>
      rw [Tree.advance, if_neg hdown]
      simp only [if_neg hshort]
      rw [h.link hlink]
      exact hstop
  | case7 current name rest hdown here hshort hdirectory ih =>
      rw [Tree.advance, if_neg hdown]
      simp only [if_neg hshort]
      rw [h.directory hdirectory]
      exact ih hstop
  | _ => cases hstop

/-- Names that lead to the file, or to where it is made, lead to it when it was put there. -/
theorem Puts.advance (h : t.Puts after names content executable) {current rest : Names}
    (hstop : (t.advance current rest).file? = some names) :
    after.advance current rest = .there names (.file content executable) := by
  fun_induction Tree.advance t current rest with
  | case2 current rest ih =>
      rw [Tree.advance, if_pos rfl]
      exact ih hstop
  | case4 current name rest hdown here hshort hnone hlast =>
      obtain rfl : here = names := Option.some.inj hstop
      rw [Tree.advance, if_neg hdown]
      simp only [if_neg hshort]
      rw [h.there]
      simp only [if_pos hlast]
      rfl
  | case7 current name rest hdown here hshort hdirectory ih =>
      rw [Tree.advance, if_neg hdown]
      simp only [if_neg hshort]
      rw [h.directory hdirectory]
      exact ih hstop
  | case8 current name rest hdown here hshort old mode hfile hlast =>
      obtain rfl : here = names := Option.some.inj hstop
      rw [Tree.advance, if_neg hdown]
      simp only [if_neg hshort]
      rw [h.there]
      simp only [if_pos hlast]
      rfl
  | _ => cases hstop

theorem Puts.walkFrom (h : t.Puts after names content executable) {links : Nat}
    {current rest : Names} (hstop : (t.walkFrom links current rest).file? = some names) :
    after.walkFrom links current rest = .there names (.file content executable) := by
  induction links generalizing current rest with
  | zero =>
      rw [Tree.walkFrom] at hstop ⊢
      split at hstop
      next => cases hstop
      next => rw [h.advance hstop]
  | succ links ih =>
      rw [Tree.walkFrom] at hstop ⊢
      split at hstop
      next dir target left hlink =>
        rw [h.advance_atLink hlink]
        exact ih hstop
      next => rw [h.advance hstop]

/-- A path that leads to the file, or to where it is made, leads to it when it was put there. -/
theorem Puts.walk (h : t.Puts after names content executable) {cwd : Names} {p : Path}
    (hstop : (t.walk cwd p).file? = some names) :
    after.walk cwd p = .there names (.file content executable) := by
  rw [walk_eq hstop after]
  have hwalk := walk_eq hstop t
  rw [hwalk] at hstop
  exact h.walkFrom hstop

end

/-! ## Writing -/

/-- A path that was opened for writing leads to an empty file. -/
theorem walk_of_openForWriting {t after : Tree} {cwd names : Names} {p : Path}
    (h : t.openForWriting cwd p = .ok (names, after)) :
    ∃ executable, after.walk cwd p = .there names (.file [] executable) := by
  rw [openForWriting] at h
  split at h
  next found content executable hstop =>
    obtain ⟨rfl, rfl⟩ := Prod.mk.inj (Except.ok.inj h)
    have hfile : (t.walk cwd p).file? = some found := by rw [hstop]; rfl
    exact ⟨executable, (puts_set hfile [] executable).walk hfile⟩
  next => cases h
  next found hstop =>
    obtain ⟨rfl, rfl⟩ := Prod.mk.inj (Except.ok.inj h)
    have hfile : (t.walk cwd p).file? = some found := by rw [hstop]; rfl
    exact ⟨false, (puts_set hfile [] false).walk hfile⟩
  next => cases h
  next => cases h

/-- What is written at the end of a file stands behind what it held. -/
theorem walk_writeAt {t : Tree} {cwd names : Names} {p : Path} {content : Bytes}
    {executable : Bool} (h : t.walk cwd p = .there names (.file content executable))
    (bytes : Bytes) :
    (t.writeAt names content.length bytes).walk cwd p =
      .there names (.file (content ++ bytes) executable) := by
  have hfile : (t.walk cwd p).file? = some names := by rw [h]; rfl
  have hnode : t.node? names = some (.file content executable) := by
    rw [node?_of_walk hfile, h]
    rfl
  cases bytes with
  | nil =>
      rw [List.append_nil]
      exact h
  | cons byte rest =>
      have hwritten : t.writeAt names content.length (byte :: rest) =
          t.set names (.file (content ++ byte :: rest) executable) := by
        rw [writeAt.eq_def, hnode]
        simp only
        rw [List.take_length, Nat.sub_self, List.replicate_zero, List.append_nil,
          List.drop_eq_nil_of_le (Nat.le_add_right _ _), List.append_nil]
      rw [hwritten]
      exact (puts_set hfile _ executable).walk hfile

end Tree

/-- The content of a file is what a path that leads to it reads. -/
theorem Host.read?_of_walk {h : Host} {p : Path} {names : Names} {content : Bytes}
    {executable : Bool} (hwalk : h.tree.walk h.cwd p = .there names (.file content executable)) :
    h.read? p = .ok (some content) := by
  rw [Host.read?, Host.find?, Tree.find, hwalk]
  rfl

end TlaRunner.Files
