import Mathlib.Data.List.Induction
import Mathlib.Data.List.Perm.Subperm
import TlaRunner.Files.Tree

/-!
# Paths without links

A walk follows links as it meets them, with the rest of the path appended to their targets.
Resolving a path replaces each link by what it stands for before the rest of the path is read, and
remembers this.  Where a walk leads somewhere, resolving gives the name of that place
(`resolve_of_walkFrom`), under which the same node stands without a link on the way.

`Leads` says where names lead, one part of a path after the other, and how many links are followed.
It is the link between the two: every walk that ends at a node has one (`exists_leads`), and
resolving keeps in step with it (`Leads.resolveFrom`).  The links that are being replaced at one
time take ever fewer links, so they are distinct: none of them leads back to itself, and there are
not more of them than the tree has.
-/

namespace TlaRunner.Files.Tree

variable {t : Tree} {cwd dir rest stop : Names} {name : Text} {node : Node} {links : Nat}

/-! ## Where names lead -/

/-- Whether a directory holds a node under a name that the system can be asked for. -/
structure Holds (t : Tree) (dir : Names) (name : Text) (node : Node) : Prop where
  notUp : name ≠ "..".toList
  short : (Text.encode name).length ≤ nameLimit
  there : t.node? (dir ++ [name]) = some node

/-- Whether absolute names lead from directory to directory, without a link. -/
def Stands (t : Tree) (dir : Names) : Prop :=
  ∀ front name, front ++ [name] <+: dir → t.Holds front name .directory

/-- Whether a node stands under absolute names, with directories on the way. -/
def Reached (t : Tree) (names : Names) (node : Node) : Prop :=
  names = [] ∧ node = .directory ∨
    ∃ dir name, names = dir ++ [name] ∧ t.Stands dir ∧ t.Holds dir name node

/-- Where names lead from a directory, and how many links are followed on the way. -/
inductive Leads (t : Tree) : (dir names : Names) → (links : Nat) → (stop : Names) → Node → Prop
  | here {dir : Names} : Leads t dir [] 0 dir .directory
  | up {dir rest stop : Names} {links : Nat} {node : Node}
      (hrest : Leads t dir.dropLast rest links stop node) :
      Leads t dir ("..".toList :: rest) links stop node
  | down {dir rest stop : Names} {name : Text} {links : Nat} {node : Node}
      (hdown : t.Holds dir name .directory) (hrest : Leads t (dir ++ [name]) rest links stop node) :
      Leads t dir (name :: rest) links stop node
  | file {dir : Names} {name : Text} {content : Bytes} {executable : Bool}
      (hfile : t.Holds dir name (.file content executable)) :
      Leads t dir [name] 0 (dir ++ [name]) (.file content executable)
  /-- A link at the end leads where its target leads. -/
  | last {dir stop : Names} {name : Text} {target : Path} {links : Nat} {node : Node}
      (hlink : t.Holds dir name (.link target))
      (htarget : Leads t (startOf dir target) target.names links stop node) :
      Leads t dir [name] (links + 1) stop node
  /-- One before the end must lead to a directory. -/
  | through {dir rest middle stop : Names} {name : Text} {target : Path} {links more : Nat}
      {node : Node} (hlink : t.Holds dir name (.link target))
      (htarget : Leads t (startOf dir target) target.names links middle .directory)
      (hrest : Leads t middle rest more stop node) :
      Leads t dir (name :: rest) (links + more + 1) stop node

theorem Holds.unique {other : Node} (h : t.Holds dir name node) (h' : t.Holds dir name other) :
    node = other :=
  Option.some.inj (h.there.symm.trans h'.there)

/-- Names lead to one place only, and there is one way to it. -/
theorem Leads.unique {names stop' : Names} {links' : Nat} {node' : Node}
    (h : t.Leads dir names links stop node) (h' : t.Leads dir names links' stop' node') :
    links = links' ∧ stop = stop' ∧ node = node' := by
  induction h generalizing links' stop' node' with
  | here =>
      cases h'
      exact ⟨rfl, rfl, rfl⟩
  | up _ ih =>
      cases h' with
      | up hrest => exact ih hrest
      | down hdown => exact absurd rfl hdown.notUp
      | file hfile => exact absurd rfl hfile.notUp
      | last hlink => exact absurd rfl hlink.notUp
      | through hlink => exact absurd rfl hlink.notUp
  | down hdown _ ih =>
      cases h' with
      | up => exact absurd rfl hdown.notUp
      | down _ hrest => exact ih hrest
      | file hfile => cases hdown.unique hfile
      | last hlink => cases hdown.unique hlink
      | through hlink => cases hdown.unique hlink
  | file hfile =>
      cases h' with
      | up => exact absurd rfl hfile.notUp
      | down hdown => cases hfile.unique hdown
      | file hfile' =>
          cases hfile.unique hfile'
          exact ⟨rfl, rfl, rfl⟩
      | last hlink => cases hfile.unique hlink
      | through hlink => cases hfile.unique hlink
  | last hlink _ ih =>
      cases h' with
      | up => exact absurd rfl hlink.notUp
      | down hdown => cases hlink.unique hdown
      | file hfile => cases hlink.unique hfile
      | last hlink' htarget =>
          cases hlink.unique hlink'
          obtain ⟨rfl, rfl, rfl⟩ := ih htarget
          exact ⟨rfl, rfl, rfl⟩
      | through hlink' htarget hrest =>
          cases hlink.unique hlink'
          obtain ⟨rfl, rfl, rfl⟩ := ih htarget
          cases hrest
          exact ⟨rfl, rfl, rfl⟩
  | through hlink _ hrest ih ihRest =>
      cases h' with
      | up => exact absurd rfl hlink.notUp
      | down hdown => cases hlink.unique hdown
      | file hfile => cases hlink.unique hfile
      | last hlink' htarget =>
          cases hlink.unique hlink'
          obtain ⟨rfl, rfl, rfl⟩ := ih htarget
          cases hrest
          exact ⟨rfl, rfl, rfl⟩
      | through hlink' htarget hrest' =>
          cases hlink.unique hlink'
          obtain ⟨rfl, rfl, _⟩ := ih htarget
          obtain ⟨rfl, rfl, rfl⟩ := ihRest hrest'
          exact ⟨rfl, rfl, rfl⟩

/-! ## Walks -/

/-- How a walk goes on where names without links stop. -/
def resume (t : Tree) (links : Nat) : Stop → Stop
  | .atLink dir target rest =>
    match links with
    | 0 => .blocked .tooManyLinks
    | fewer + 1 => t.walkFrom fewer (startOf dir target) (target.names ++ rest)
  | stop => stop

theorem walkFrom_eq (t : Tree) (links : Nat) (dir names : Names) :
    t.walkFrom links dir names = t.resume links (t.advance dir names) := by
  cases links with
  | zero =>
      rw [walkFrom]
      cases t.advance dir names <;> rfl
  | succ fewer =>
      rw [walkFrom]
      cases t.advance dir names <;> rfl

/-- A walk that ends at a node has a first step of one of four kinds. -/
theorem of_walkFrom_cons (h : t.walkFrom links dir (name :: rest) = .there stop node) :
    (name = "..".toList ∧ t.walkFrom links dir.dropLast rest = .there stop node) ∨
    (t.Holds dir name .directory ∧ t.walkFrom links (dir ++ [name]) rest = .there stop node) ∨
    (∃ content executable, t.Holds dir name (.file content executable) ∧ rest = [] ∧
      stop = dir ++ [name] ∧ node = .file content executable) ∨
    ∃ target fewer, links = fewer + 1 ∧ t.Holds dir name (.link target) ∧
      t.walkFrom fewer (startOf dir target) (target.names ++ rest) = .there stop node := by
  rw [walkFrom_eq, advance] at h
  split at h
  next hup =>
    rw [← walkFrom_eq] at h
    exact Or.inl ⟨hup, h⟩
  next hdown =>
    dsimp only at h
    split at h
    next => cases h
    next hshort =>
      have hholds {found : Node} (hfound : t.node? (dir ++ [name]) = some found) :
          t.Holds dir name found := ⟨hdown, Nat.not_lt.mp hshort, hfound⟩
      split at h
      next =>
        split at h
        · cases h
        · cases h
      next target hlink =>
        cases links with
        | zero => cases h
        | succ fewer => exact Or.inr (Or.inr (Or.inr ⟨target, fewer, rfl, hholds hlink, h⟩))
      next hdirectory =>
        rw [← walkFrom_eq] at h
        exact Or.inr (Or.inl ⟨hholds hdirectory, h⟩)
      next content executable hfile =>
        split at h
        next hlast =>
          cases h
          exact Or.inr (Or.inr (Or.inl
            ⟨content, executable, hholds hfile, List.isEmpty_iff.mp hlast, rfl, rfl⟩))
        next => cases h

/-- The names at the front of a walk lead where the walk ends, or to a directory from which it
goes on. -/
theorem leads_of_append {front : Names}
    (h : t.walkFrom links dir (front ++ rest) = .there stop node) :
    (rest = [] ∧ ∃ used, t.Leads dir front used stop node) ∨
    ∃ used middle left, t.Leads dir front used middle .directory ∧ left ≤ links ∧
      t.walkFrom left middle rest = .there stop node := by
  induction links using Nat.strongRecOn generalizing dir front rest with
  | _ links ih =>
      induction front generalizing dir with
      | nil => exact Or.inr ⟨0, dir, links, .here, Nat.le_refl _, h⟩
      | cons name front ihFront =>
          rcases of_walkFrom_cons h with ⟨rfl, hnext⟩ | ⟨hdown, hnext⟩ |
            ⟨content, executable, hfile, hnil, rfl, rfl⟩ | ⟨target, fewer, rfl, hlink, hnext⟩
          · rcases ihFront hnext with ⟨hnil, used, hused⟩ | ⟨used, middle, left, hused, hleft⟩
            · exact Or.inl ⟨hnil, used, .up hused⟩
            · exact Or.inr ⟨used, middle, left, .up hused, hleft⟩
          · rcases ihFront hnext with ⟨hnil, used, hused⟩ | ⟨used, middle, left, hused, hleft⟩
            · exact Or.inl ⟨hnil, used, .down hdown hused⟩
            · exact Or.inr ⟨used, middle, left, .down hdown hused, hleft⟩
          · obtain ⟨rfl, rfl⟩ := List.append_eq_nil_iff.mp hnil
            exact Or.inl ⟨rfl, 0, .file hfile⟩
          · rcases ih fewer (Nat.lt_succ_self fewer) hnext with ⟨hnil, used, hused⟩ |
              ⟨used, middle, left, hused, hleft, hnext⟩
            · obtain ⟨rfl, rfl⟩ := List.append_eq_nil_iff.mp hnil
              exact Or.inl ⟨rfl, used + 1, .last hlink hused⟩
            · rcases ih left (by omega) hnext with ⟨hnil, more, hmore⟩ |
                ⟨more, middle', left', hmore, hleft', hnext'⟩
              · exact Or.inl ⟨hnil, used + more + 1, .through hlink hused hmore⟩
              · exact Or.inr ⟨used + more + 1, middle', left', .through hlink hused hmore,
                  by omega, hnext'⟩

/-- Names lead where a walk ends. -/
theorem exists_leads {names : Names} (h : t.walkFrom links dir names = .there stop node) :
    ∃ used, t.Leads dir names used stop node := by
  rw [← List.append_nil names] at h
  rcases leads_of_append h with ⟨_, hused⟩ | ⟨used, middle, left, hused, _, hnext⟩
  · exact hused
  · rw [walkFrom_eq] at hnext
    cases hnext
    exact ⟨used, hused⟩

/-! ## Names without links -/

theorem stands_nil (t : Tree) : t.Stands [] := by
  intro front name hwithin
  exact absurd (List.prefix_nil.mp hwithin) (List.append_ne_nil_of_right_ne_nil front
    (List.cons_ne_nil name []))

theorem stands_append_singleton :
    t.Stands (dir ++ [name]) ↔ t.Stands dir ∧ t.Holds dir name .directory := by
  constructor
  · intro h
    exact ⟨fun front last hwithin => h front last (hwithin.trans (List.prefix_append dir [name])),
      h dir name List.prefix_rfl⟩
  · rintro ⟨hdir, hname⟩ front last hwithin
    rcases List.prefix_concat_iff.mp hwithin with hsame | hwithin
    · obtain ⟨rfl, hlast⟩ := List.append_inj' hsame rfl
      cases hlast
      exact hname
    · exact hdir front last hwithin

theorem Stands.dropLast (h : t.Stands dir) : t.Stands dir.dropLast :=
  fun front name hwithin => h front name (hwithin.trans (List.dropLast_prefix dir))

theorem Stands.reached (h : t.Stands dir) : t.Reached dir .directory := by
  cases hdir : dir.reverse with
  | nil => exact Or.inl ⟨List.reverse_eq_nil_iff.mp hdir, rfl⟩
  | cons name front =>
      have hsplit : dir = front.reverse ++ [name] := by
        rw [← List.reverse_cons, ← hdir, List.reverse_reverse]
      subst hsplit
      obtain ⟨hfront, hname⟩ := stands_append_singleton.mp h
      exact Or.inr ⟨front.reverse, name, rfl, hfront, hname⟩

theorem Reached.stands (h : t.Reached dir .directory) : t.Stands dir := by
  rcases h with ⟨rfl, _⟩ | ⟨front, name, rfl, hfront, hname⟩
  · exact t.stands_nil
  · exact stands_append_singleton.mpr ⟨hfront, hname⟩

/-- No name of a directory leads up. -/
theorem Stands.not_mem_up (h : t.Stands dir) : "..".toList ∉ dir := by
  intro hmem
  obtain ⟨front, back, rfl⟩ := List.append_of_mem hmem
  exact (h front _ ⟨back, by rw [List.append_assoc, List.singleton_append]⟩).notUp rfl

/-- Names without links are followed one by one. -/
theorem Stands.advance_append {front back : Names} (h : t.Stands (front ++ back)) (rest : Names) :
    t.advance front (back ++ rest) = t.advance (front ++ back) rest := by
  induction back generalizing front with
  | nil => rw [List.append_nil, List.nil_append]
  | cons name back ih =>
      have hname : t.Holds front name .directory :=
        h front name ⟨back, by rw [List.append_assoc, List.singleton_append]⟩
      rw [List.append_cons] at h
      rw [List.append_cons front, ← ih h, List.cons_append, advance, if_neg hname.notUp]
      dsimp only
      rw [if_neg (Nat.not_lt.mpr hname.short), hname.there]

/-- A node that is reached is found under its name. -/
theorem Reached.advance (h : t.Reached stop node) (hnode : ∀ target, node ≠ .link target) :
    t.advance [] stop = .there stop node := by
  rcases h with ⟨rfl, rfl⟩ | ⟨dir, name, rfl, hdir, hname⟩
  · rfl
  · have hfollowed : t.advance [] (dir ++ [name]) = t.advance dir [name] :=
      hdir.advance_append [name]
    rw [hfollowed, Tree.advance, if_neg hname.notUp]
    dsimp only
    rw [if_neg (Nat.not_lt.mpr hname.short), hname.there]
    cases node with
    | file content executable => rfl
    | directory => rfl
    | link target => exact absurd rfl (hnode target)

theorem stands_startOf (h : t.Stands dir) (p : Path) : t.Stands (startOf dir p) := by
  rw [startOf]
  split
  · exact t.stands_nil
  · exact h

/-- Names that lead to a node end under the name it stands under. -/
theorem Leads.reached {names : Names} (h : t.Leads dir names links stop node) (hdir : t.Stands dir) :
    t.Reached stop node ∧ ∀ target, node ≠ .link target := by
  induction h with
  | here => exact ⟨hdir.reached, fun _ h => by cases h⟩
  | up _ ih => exact ih hdir.dropLast
  | down hdown _ ih => exact ih (stands_append_singleton.mpr ⟨hdir, hdown⟩)
  | file hfile => exact ⟨Or.inr ⟨_, _, rfl, hdir, hfile⟩, fun _ h => by cases h⟩
  | last _ _ ih => exact ih (stands_startOf hdir _)
  | through _ _ _ ih ihRest => exact ihRest (ih (stands_startOf hdir _)).1.stands

/-! ## Places -/

theorem collapse_append_singleton (names : Names) (name : Text) :
    collapse (names ++ [name]) =
      if name = "..".toList then (collapse names).dropLast else collapse names ++ [name] := by
  rw [collapse, List.foldl_append]
  rfl

/-- The names of a directory are taken as they are. -/
theorem collapse_eq_self {names : Names} (h : "..".toList ∉ names) : collapse names = names := by
  induction names using List.reverseRecOn with
  | nil => rfl
  | append_singleton names name ih =>
      rw [List.mem_append, List.mem_singleton, not_or] at h
      rw [collapse_append_singleton, if_neg (Ne.symm h.2), ih h.1]

namespace Place

variable {p : Place}

/-- Whether no name of a place below the root leads up. -/
def Plain (p : Place) : Prop :=
  p.rooted = true → "..".toList ∉ p.names

theorem absolute_below (cwd : Names) (p : Place) {name : Text} (h : name ≠ "..".toList) :
    (p.below [name]).absolute cwd = p.absolute cwd ++ [name] := by
  rw [absolute, absolute, below]
  split
  · rw [collapse_append_singleton, if_neg h]
  · rw [← List.append_assoc, collapse_append_singleton, if_neg h]

theorem Plain.below (h : p.Plain) {name : Text} (hname : name ≠ "..".toList) :
    (p.below [name]).Plain := by
  intro hrooted
  rw [Place.below, List.mem_append, List.mem_singleton, not_or]
  exact ⟨h hrooted, hname.symm⟩

theorem Plain.parent (h : p.Plain) : p.parent.Plain := by
  rw [Place.parent]
  split
  next => exact fun hrooted hmem => h hrooted (List.dropLast_subset p.names hmem)
  next hrelative =>
    intro hrooted
    exact absurd (by rw [show p.rooted = true from hrooted, Bool.true_or]) hrelative

/-- The place above is the directory above. -/
theorem Plain.absolute_parent (h : p.Plain) (cwd : Names) :
    p.parent.absolute cwd = (p.absolute cwd).dropLast := by
  obtain ⟨rooted, names⟩ := p
  rw [Place.parent]
  split
  next habove =>
    rw [Bool.or_eq_true] at habove
    induction names using List.reverseRecOn with
    | nil =>
        have hrooted : rooted = true := habove.resolve_right Bool.false_ne_true
        rw [hrooted]
        rfl
    | append_singleton names name _ =>
        have hname : name ≠ "..".toList := by
          rcases habove with hrooted | hlast
          · rintro rfl
            exact h hrooted (List.mem_append_right names (List.mem_singleton.mpr rfl))
          · rw [List.getLast?_concat] at hlast
            exact of_decide_eq_true hlast
        rw [List.dropLast_concat]
        exact ((congrArg List.dropLast (absolute_below cwd ⟨rooted, names⟩ hname)).trans
          List.dropLast_concat).symm
  next hup =>
    rw [Bool.or_eq_true, not_or, Bool.not_eq_true] at hup
    obtain rfl : rooted = false := hup.1
    rw [absolute, absolute, if_neg Bool.false_ne_true, if_neg Bool.false_ne_true]
    dsimp only
    rw [← List.append_assoc, collapse_append_singleton, if_pos rfl]

end Place

/-! ## Links that are replaced -/

/-- How many names of links there can be. -/
theorem length_le_linkCount {names : List Names} (hnodup : names.Nodup)
    (hlinks : ∀ a ∈ names, ∃ target, t.node? a = some (.link target)) :
    names.length ≤ t.linkCount := by
  rw [linkCount]
  refine Nat.le_trans (hnodup.subperm fun a ha => ?_).length_le
    (Nat.le_of_eq (List.length_map (·.1)))
  obtain ⟨target, hnode⟩ := hlinks a ha
  rw [node?] at hnode
  split at hnode
  next entry hfind =>
    have hname := List.find?_some hfind
    refine List.mem_map.mpr ⟨entry, List.mem_filter.mpr ⟨List.mem_of_find?_eq_some hfind, ?_⟩,
      of_decide_eq_true hname⟩
    rw [Option.some.inj hnode]
  next =>
    split at hnode
    · cases hnode
    · cases hnode

/-- Whether what is remembered of links is right: one that was replaced stands for the place it
leads to. -/
structure Resolving.Faithful (t : Tree) (cwd : Names) (r : Resolving) : Prop where
  steady : r.looped = false
  plain : r.place.Plain
  known : ∀ {here known : Place}, r.met.find? (·.1 = here) = some (here, some known) →
    known.Plain ∧ ∀ {dir stop : Names} {name : Text} {links : Nat} {node : Node},
      here.absolute cwd = dir ++ [name] → t.Leads dir [name] links stop node →
        known.absolute cwd = stop

/-- Whether a link is being replaced. -/
def Resolving.Opened (r : Resolving) (here : Place) : Prop :=
  r.met.find? (·.1 = here) = some (here, none)

/-- Whether a path can go on from a directory while links are being replaced: each of these takes
more links than the rest of the path does. -/
structure Resolving.Ready (t : Tree) (cwd : Names) (pending : List Names) (links : Nat)
    (dir : Names) (r : Resolving) : Prop extends r.Faithful t cwd where
  place : r.place.absolute cwd = dir
  nodup : pending.Nodup
  longer : ∀ a ∈ pending, ∃ dir name target used stop node, a = dir ++ [name] ∧
    t.Holds dir name (.link target) ∧ t.Leads dir [name] used stop node ∧ links < used
  opened : ∀ {here : Place}, r.Opened here → here.absolute cwd ∈ pending

/-- Whether resolving got to a place, with the links replaced that it met. -/
structure Resolving.Gets (t : Tree) (cwd : Names) (r : Resolving) (stop : Names)
    (after : Resolving) : Prop extends after.Faithful t cwd where
  place : after.place.absolute cwd = stop
  closed : ∀ {here : Place}, after.Opened here → r.Opened here

namespace Resolving

variable {r after : Resolving} {pending : List Names}

/-- No link that is being replaced is met on a path that takes fewer links. -/
theorem Ready.not_mem (h : r.Ready t cwd pending links dir) {used : Nat}
    (hleads : t.Leads dir [name] used stop node) (hle : used ≤ links) :
    dir ++ [name] ∉ pending := by
  intro hmem
  obtain ⟨dir', name', _, used', _, _, hsame, _, hleads', hlt⟩ := h.longer _ hmem
  obtain ⟨rfl, hname⟩ := List.append_inj' hsame rfl
  cases hname
  have hused := (hleads.unique hleads').1
  omega

theorem Ready.goesOn (h : r.Ready t cwd pending links dir) (hgets : Gets t cwd r stop after)
    {fewer : Nat} (hle : fewer ≤ links) : after.Ready t cwd pending fewer stop where
  toFaithful := hgets.toFaithful
  place := hgets.place
  nodup := h.nodup
  longer a ha := by
    obtain ⟨dir', name', target, used, stop', node', hsplit, hlink, hleads, hlt⟩ := h.longer a ha
    exact ⟨dir', name', target, used, stop', node', hsplit, hlink, hleads, by omega⟩
  opened hopened := h.opened (hgets.closed hopened)

end Resolving

/-- What comes of a link that is met: what it stands for, if that is known. -/
def Resolving.atLink (t : Tree) (cwd : Names) (depth : Nat) (r : Resolving) (here : Place)
    (target : Path) : Resolving :=
  match r.met.find? (·.1 = here) with
  | some (_, some known) => { r with place := known }
  | some (_, none) => { r with place := here, looped := true }
  | none =>
    let start := if target.isAbsolute then ⟨true, []⟩ else r.place
    let inner := t.resolveFrom cwd depth { r with place := start, met := (here, none) :: r.met }
      target.names
    { inner with met := (here, some inner.place) :: inner.met }

section

variable {r : Resolving} {depth : Nat}

theorem resolveFrom_cons (t : Tree) (cwd : Names) (depth : Nat) (r : Resolving) (name : Text)
    (rest : Names) : t.resolveFrom cwd (depth + 1) r (name :: rest) =
      t.resolveFrom cwd (depth + 1) (t.resolveFrom cwd (depth + 1) r [name]) rest := by
  rw [resolveFrom, resolveFrom, resolveFrom, List.foldl_cons]
  rfl

theorem resolveFrom_up (hsteady : r.looped = false) :
    t.resolveFrom cwd (depth + 1) r ["..".toList] = { r with place := r.place.parent } := by
  rw [resolveFrom, List.foldl_cons, List.foldl_nil, hsteady]
  rfl

/-- A name that is no link is appended. -/
theorem resolveFrom_below (hsteady : r.looped = false) (hname : t.Holds dir name node)
    (hplace : r.place.absolute cwd = dir) (hnode : ∀ target, node ≠ .link target) :
    t.resolveFrom cwd (depth + 1) r [name] = { r with place := r.place.below [name] } := by
  have hthere : t.node? ((r.place.below [name]).absolute cwd) = some node := by
    rw [Place.absolute_below cwd r.place hname.notUp, hplace, hname.there]
  rw [resolveFrom, List.foldl_cons, List.foldl_nil, if_neg (by rw [hsteady]; decide),
    if_neg hname.notUp]
  dsimp only
  rw [hthere]
  cases node with
  | link target => exact absurd rfl (hnode target)
  | _ => rfl

theorem resolveFrom_link {target : Path} (hsteady : r.looped = false)
    (hname : t.Holds dir name (.link target)) (hplace : r.place.absolute cwd = dir) :
    t.resolveFrom cwd (depth + 1) r [name] = r.atLink t cwd depth (r.place.below [name]) target := by
  have hthere : t.node? ((r.place.below [name]).absolute cwd) = some (.link target) := by
    rw [Place.absolute_below cwd r.place hname.notUp, hplace, hname.there]
  rw [resolveFrom, List.foldl_cons, List.foldl_nil, if_neg (by rw [hsteady]; decide),
    if_neg hname.notUp]
  dsimp only
  rw [hthere]
  rfl

end

namespace Resolving

variable {r : Resolving} {pending : List Names} {budget depth used : Nat} {target : Path}

theorem find?_met_cons (here other : Place) (found : Option Place)
    (met : List (Place × Option Place)) :
    ((here, found) :: met).find? (·.1 = other) =
      if here = other then some (here, found) else met.find? (·.1 = other) := by
  rw [List.find?_cons]
  by_cases hsame : here = other
  · rw [if_pos hsame, decide_eq_true hsame]
  · rw [if_neg hsame, decide_eq_false hsame]

/-- A link is opened, and its target takes fewer links. -/
theorem Ready.enter (h : r.Ready t cwd pending budget dir)
    (hlink : t.Holds dir name (.link target)) (hle : used + 1 ≤ budget)
    (hleads : t.Leads dir [name] (used + 1) stop node) :
    Ready t cwd ((dir ++ [name]) :: pending) used (startOf dir target)
      { r with
        place := if target.isAbsolute then ⟨true, []⟩ else r.place
        met := (r.place.below [name], none) :: r.met } where
  steady := h.steady
  plain := by
    split
    · exact fun _ => List.not_mem_nil
    · exact h.plain
  known {other known} hfind := by
    rw [find?_met_cons] at hfind
    split at hfind
    · cases hfind
    · exact h.known hfind
  place := by
    rw [startOf]
    split
    · rfl
    · exact h.place
  nodup := List.nodup_cons.mpr ⟨h.not_mem hleads hle, h.nodup⟩
  longer := by
    refine List.forall_mem_cons.mpr ⟨?_, fun a ha => ?_⟩
    · exact ⟨dir, name, target, used + 1, stop, node, rfl, hlink, hleads, Nat.lt_succ_self used⟩
    · obtain ⟨dir', name', target', used', stop', node', hsplit, hlink', hleads', hlt⟩ :=
        h.longer a ha
      exact ⟨dir', name', target', used', stop', node', hsplit, hlink', hleads', by omega⟩
  opened {other} hopened := by
    rw [Opened, find?_met_cons] at hopened
    split at hopened
    next hsame =>
      rw [← hsame, Place.absolute_below cwd r.place hlink.notUp, h.place]
      exact List.mem_cons_self
    next => exact List.mem_cons_of_mem _ (h.opened hopened)

/-- What a link stands for is remembered, and the link is not open any more. -/
theorem Gets.leave {here : Place} {start : Place} {inner : Resolving}
    (h : Gets t cwd { r with place := start, met := (here, none) :: r.met } stop inner)
    (hhere : here.absolute cwd = dir ++ [name]) (hleads : t.Leads dir [name] used stop node) :
    Gets t cwd r stop { inner with met := (here, some inner.place) :: inner.met } where
  steady := h.steady
  plain := h.plain
  known {other known} hfind := by
    rw [find?_met_cons] at hfind
    split at hfind
    next hsame =>
      cases hfind
      refine ⟨h.plain, fun hsplit hleads' => ?_⟩
      obtain ⟨rfl, hname⟩ := List.append_inj' (hhere.symm.trans hsplit) rfl
      cases hname
      rw [h.place, (hleads.unique hleads').2.1]
    next => exact h.known hfind
  place := h.place
  closed {other} hopened := by
    rw [Opened, find?_met_cons] at hopened
    split at hopened
    next => cases hopened
    next hother =>
      have hstart := h.closed hopened
      rw [Opened, find?_met_cons, if_neg hother] at hstart
      exact hstart

/-- A link gives the place it leads to, if its target does. -/
theorem Ready.link (h : r.Ready t cwd pending budget dir)
    (hlink : t.Holds dir name (.link target)) (hle : used + 1 ≤ budget)
    (hleads : t.Leads dir [name] (used + 1) stop node)
    (htarget : ∀ inner, Ready t cwd ((dir ++ [name]) :: pending) used (startOf dir target) inner →
      Gets t cwd inner stop (t.resolveFrom cwd depth inner target.names)) :
    Gets t cwd r stop (t.resolveFrom cwd (depth + 1) r [name]) := by
  have hhere : (r.place.below [name]).absolute cwd = dir ++ [name] := by
    rw [Place.absolute_below cwd r.place hlink.notUp, h.place]
  rw [resolveFrom_link h.steady hlink h.place, atLink]
  split
  next here known hfind =>
    obtain rfl : here = r.place.below [name] := of_decide_eq_true (List.find?_some hfind :)
    obtain ⟨hplain, hknown⟩ := h.known hfind
    exact ⟨⟨h.steady, hplain, h.known⟩, hknown hhere hleads, id⟩
  next here hfind =>
    obtain rfl : here = r.place.below [name] := of_decide_eq_true (List.find?_some hfind :)
    exact absurd (hhere ▸ h.opened hfind) (h.not_mem hleads hle)
  next => exact (htarget _ (h.enter hlink hle hleads)).leave hhere hleads

/-- There is depth left for what is being replaced, because the links that are open are distinct. -/
theorem Ready.exists_depth {a : Names} (h : r.Ready t cwd (a :: pending) budget dir)
    (hdepth : t.linkCount ≤ depth + pending.length) : ∃ less, depth = less + 1 := by
  have hle : (a :: pending).length ≤ t.linkCount :=
    length_le_linkCount h.nodup fun a ha => by
      obtain ⟨_, _, target, _, _, _, rfl, hlink, _⟩ := h.longer a ha
      exact ⟨target, hlink.there⟩
  rw [List.length_cons] at hle
  exact Nat.exists_eq_add_one.mpr (by omega)

/-- A name that is no link is appended. -/
theorem Ready.below (h : r.Ready t cwd pending budget dir) (hname : t.Holds dir name node) :
    Gets t cwd r (dir ++ [name]) { r with place := r.place.below [name] } where
  steady := h.steady
  plain := h.plain.below hname.notUp
  known := h.known
  place := by rw [Place.absolute_below cwd r.place hname.notUp, h.place]
  closed := id

theorem Ready.up (h : r.Ready t cwd pending budget dir) :
    Gets t cwd r dir.dropLast { r with place := r.place.parent } where
  steady := h.steady
  plain := h.plain.parent
  known := h.known
  place := by rw [h.plain.absolute_parent, h.place]
  closed := id

theorem Gets.trans {middle after : Resolving} {here : Names} (h : Gets t cwd r here middle)
    (h' : Gets t cwd middle stop after) : Gets t cwd r stop after where
  toFaithful := h'.toFaithful
  place := h'.place
  closed hopened := h.closed (h'.closed hopened)

end Resolving

open Resolving in
/-- Resolving gets where names lead. -/
theorem Leads.resolveFrom {names : Names} (h : t.Leads dir names links stop node) {r : Resolving}
    {pending : List Names} {depth : Nat} (hr : r.Ready t cwd pending links dir)
    (hdepth : t.linkCount ≤ depth + pending.length) :
    Gets t cwd r stop (t.resolveFrom cwd (depth + 1) r names) := by
  induction h generalizing r pending depth with
  | here => exact ⟨hr.toFaithful, hr.place, id⟩
  | up _ ih =>
      rw [resolveFrom_cons, resolveFrom_up hr.steady]
      exact hr.up.trans (ih (hr.goesOn hr.up (Nat.le_refl _)) hdepth)
  | down hdown _ ih =>
      have hgets := hr.below hdown
      rw [resolveFrom_cons, resolveFrom_below hr.steady hdown hr.place nofun]
      exact hgets.trans (ih (hr.goesOn hgets (Nat.le_refl _)) hdepth)
  | file hfile =>
      rw [resolveFrom_below hr.steady hfile hr.place nofun]
      exact hr.below hfile
  | last hlink htarget ih =>
      refine hr.link hlink (Nat.le_refl _) (.last hlink htarget) fun inner hinner => ?_
      obtain ⟨depth, rfl⟩ := hinner.exists_depth hdepth
      exact ih hinner (by rw [List.length_cons]; omega)
  | @through _ _ middle _ name _ _ _ _ hlink htarget _ ih ihRest =>
      have hgets : Gets t cwd r middle (t.resolveFrom cwd (depth + 1) r [name]) := by
        refine hr.link hlink (by omega) (.last hlink htarget) fun inner hinner => ?_
        obtain ⟨depth, rfl⟩ := hinner.exists_depth hdepth
        exact ih hinner (by rw [List.length_cons]; omega)
      rw [resolveFrom_cons]
      exact hgets.trans (ihRest (hr.goesOn hgets (by omega)) hdepth)

/-- The absolute name of a path that leads to a node is the name this stands under. -/
theorem resolve_of_walkFrom {p : Path} (hcwd : t.Stands cwd)
    (h : t.walkFrom links (startOf cwd p) p.names = .there stop node) :
    t.resolve cwd p = stop ∧ t.Reached stop node ∧ ∀ target, node ≠ .link target := by
  obtain ⟨used, hleads⟩ := exists_leads h
  have hplace : Place.absolute cwd ⟨p.isAbsolute, []⟩ = startOf cwd p := by
    rw [Place.absolute, startOf]
    split
    · rfl
    · rw [List.append_nil, collapse_eq_self hcwd.not_mem_up]
  have hready : Resolving.Ready t cwd [] used (startOf cwd p) ⟨⟨p.isAbsolute, []⟩, [], false⟩ :=
    { steady := rfl
      plain := fun _ => List.not_mem_nil
      known := nofun
      place := hplace
      nodup := List.nodup_nil
      longer := List.forall_mem_nil _
      opened := nofun }
  have hdepth : t.linkCount ≤ 2 * t.linkCount + ([] : List Names).length := by
    rw [List.length_nil]
    omega
  have hgets := hleads.resolveFrom hready hdepth
  exact ⟨hgets.place, hleads.reached (stands_startOf hcwd p)⟩

end TlaRunner.Files.Tree
