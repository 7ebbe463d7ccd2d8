import TlaRunner.Files.Spec
import TlaRunner.Proofs.Files.Resolution
import TlaRunner.Proofs.Result

/-!
# Pairs that were found

A pair keeps absolute paths without links.  What is kept for a path leads to what the path led to,
whatever links are on the way (`Host.Regular.finds_of_resolve`), so a file that was there is there
under the path that is kept.

But it is the path as it was given whose existence is tested, and a `~` at its front, which stands
for a home directory in the path that is kept, is the name of a directory there.  And of a module or
model file that is given alone, only the file beside it is tested.  So a kept path leads somewhere
where the path with the home directory in it does, and need not lead anywhere otherwise
(`SpecFiles.accepted_iff_keeps`).
-/

namespace TlaRunner.Files

/-! ## Zero bytes -/

/-- A name below the root at which something stands is at the front of a name in the tree. -/
theorem Tree.exists_of_node? {t : Tree} {names : Names} {node : Node}
    (h : t.node? names = some node) (hne : names ≠ []) : ∃ entry ∈ t, names <+: entry.1 := by
  rw [node?] at h
  split at h
  next entry hfind =>
    have hname := List.find?_some hfind
    exact ⟨entry, List.mem_of_find?_eq_some hfind, of_decide_eq_true hname ▸ List.prefix_rfl⟩
  next =>
    split at h
    next hbelow =>
      rw [Bool.or_eq_true] at hbelow
      rcases hbelow with hempty | hbelow
      · exact absurd (List.isEmpty_iff.mp hempty) hne
      · obtain ⟨entry, hentry, hwithin⟩ := List.any_eq_true.mp hbelow
        exact ⟨entry, hentry, List.isPrefixOf_iff_prefix.mp hwithin⟩
    next => cases h

namespace Host

/-- Whether a host is as systems are: its working directory is there, under its name without links,
and no name has the byte in it that ends the texts of the system. -/
structure Regular (h : Host) : Prop where
  cwd : h.tree.Stands h.cwd
  names : ∀ entry ∈ h.tree, ∀ name ∈ entry.1, '\x00' ∉ name

/-- Whether a path leads to a node, as far as the system can be asked about it. -/
def Finds (h : Host) (p : Path) (node : Node) : Prop :=
  h.find? p =
    if (Text.encode p.toText).length ≤ Tree.pathLimit then .ok (some node) else .error ⟨p⟩

variable {h : Host} {p kept : Path} {node : Node}

/-- A node that is reached under absolute names is found by their path. -/
theorem Regular.finds_of_reached (hregular : h.Regular) {names : Names}
    (hreached : h.tree.Reached names node) (hnode : ∀ target, node ≠ .link target) :
    h.Finds ⟨.root, names⟩ node := by
  have hzero : (Path.mk .root names).hasZero = false := by
    rw [Path.hasZero, List.any_eq_false]
    intro name hname
    rcases hreached with ⟨rfl, _⟩ | ⟨dir, last, rfl, _, hlast⟩
    · cases hname
    · obtain ⟨entry, hentry, hwithin⟩ :=
        Tree.exists_of_node? hlast.there (List.append_ne_nil_of_right_ne_nil dir
          (List.cons_ne_nil last []))
      rw [List.contains_iff_mem]
      exact hregular.names entry hentry name (hwithin.subset hname)
  have hfollowed : h.tree.walkFrom Tree.linkLimit [] names = .there names node := by
    rw [Tree.walkFrom_eq, hreached.advance hnode]
    rfl
  have hstart : Tree.startOf h.cwd ⟨.root, names⟩ = [] := rfl
  rw [Finds, Host.find?, Tree.find, Tree.walk, hzero, if_neg Bool.false_ne_true]
  by_cases hshort : (Text.encode (Path.mk .root names).toText).length ≤ Tree.pathLimit
  · rw [if_neg (Nat.not_lt.mpr hshort), if_pos hshort, hstart, hfollowed]
  · rw [if_pos (Nat.not_le.mp hshort), if_neg hshort]

/-- A path that is found is followed to its node. -/
theorem walkFrom_of_find? (hfound : h.find? p = .ok (some node)) :
    ∃ stop, h.tree.walkFrom Tree.linkLimit (Tree.startOf h.cwd p) p.names = .there stop node := by
  rw [Host.find?, Tree.find, Tree.walk] at hfound
  by_cases hzero : p.hasZero = true
  · rw [if_pos hzero] at hfound
    cases hfound
  rw [if_neg hzero] at hfound
  by_cases hlong : (Text.encode p.toText).length > Tree.pathLimit
  · rw [if_pos hlong] at hfound
    cases hfound
  rw [if_neg hlong] at hfound
  cases hwalk : h.tree.walkFrom Tree.linkLimit (Tree.startOf h.cwd p) p.names with
  | there stop found =>
      rw [hwalk] at hfound
      cases hfound
      exact ⟨stop, rfl⟩
  | vacant names =>
      rw [hwalk] at hfound
      cases hfound
  | atLink dir target rest =>
      rw [hwalk] at hfound
      cases hfound
  | blocked obstacle =>
      rw [hwalk] at hfound
      cases obstacle <;> cases hfound

/-- The absolute path leads to what the path leads to. -/
theorem Regular.finds_of_resolve (hregular : h.Regular) (hresolve : h.resolve p = .ok kept)
    (hfound : h.find? p = .ok (some node)) : h.Finds kept node := by
  obtain ⟨stop, hwalk⟩ := walkFrom_of_find? hfound
  obtain ⟨hstop, hreached, hnode⟩ := Tree.resolve_of_walkFrom hregular.cwd hwalk
  have hkept : kept = ⟨.root, stop⟩ := by
    rw [Host.resolve, hstop] at hresolve
    split at hresolve
    · cases hresolve
    · split at hresolve
      · cases hresolve
      · exact (Except.ok.inj hresolve).symm
  rw [hkept]
  exact hregular.finds_of_reached hreached hnode

end Host

namespace SpecFiles

variable {h : Host} {modulePath modelPath given kept : Path} {s : SpecFiles}

/-! ## Which pairs are accepted -/

theorem locate?_eq_some_iff : locate? h given = .ok (some kept) ↔ h.locate given = .ok kept := by
  rw [locate?]
  cases h.locate given with
  | ok p => exact ⟨fun h => congrArg Except.ok (Option.some.inj (Except.ok.inj h)), fun h =>
      congrArg (Except.ok ∘ some) (Except.ok.inj h)⟩
  | error fault =>
      refine ⟨fun h => ?_, fun h => by cases h⟩
      cases fault <;> cases h

/-- A pair keeps the absolute paths of two paths that have one. -/
theorem of_eq_ok_iff : of h modulePath modelPath = .ok s ↔
    h.locate modulePath = .ok s.modulePath ∧ h.locate modelPath = .ok s.modelPath := by
  rw [of, bind_eq_ok_iff]
  constructor
  · rintro ⟨keptModule, hmodule, hpair⟩
    obtain ⟨keptModel, hmodel, hpair⟩ := bind_eq_ok_iff.mp hpair
    cases keptModule with
    | none => cases hpair
    | some keptModule =>
        cases keptModel with
        | none => cases hpair
        | some keptModel =>
            cases hpair
            exact ⟨locate?_eq_some_iff.mp hmodule, locate?_eq_some_iff.mp hmodel⟩
  · rintro ⟨hmodule, hmodel⟩
    exact ⟨some s.modulePath, locate?_eq_some_iff.mpr hmodule, bind_eq_ok_iff.mpr
      ⟨some s.modelPath, locate?_eq_some_iff.mpr hmodel, rfl⟩⟩

theorem has_eq_true_iff : has h given = .ok true ↔ ∃ node, h.find? given = .ok (some node) := by
  rw [has, mapError_eq_ok_iff, Host.has]
  cases h.find? given with
  | error e => exact ⟨nofun, nofun⟩
  | ok found =>
      cases found with
      | none => exact ⟨nofun, nofun⟩
      | some node => exact ⟨fun _ => ⟨node, rfl⟩, fun _ => rfl⟩

/-- Two files are a pair if both paths lead to something. -/
theorem ofFiles_eq_ok_iff : ofFiles h modulePath modelPath = .ok s ↔
    has h modulePath = .ok true ∧ has h modelPath = .ok true ∧
      of h modulePath modelPath = .ok s := by
  rw [ofFiles, bind_eq_ok_iff]
  constructor
  · rintro ⟨inModule, hmodule, hpair⟩
    cases inModule with
    | false => cases hpair
    | true =>
        obtain ⟨inModel, hmodel, hpair⟩ := bind_eq_ok_iff.mp hpair
        cases inModel with
        | false => cases hpair
        | true => exact ⟨hmodule, hmodel, hpair⟩
  · rintro ⟨hmodule, hmodel, hpair⟩
    exact ⟨true, hmodule, bind_eq_ok_iff.mpr ⟨true, hmodel, hpair⟩⟩

/-- The other file is looked for beside a path. -/
theorem beside_eq_ok_iff {suffix : Text} {missing : Path → SpecFault}
    {pair : Path → Except SpecFault SpecFiles} :
    (do
      let other ← (given.withSuffix suffix).mapError SpecFault.nameless
      if ← has h other then pair other else throw (missing other)) = .ok s ↔
      ∃ other, given.withSuffix suffix = .ok other ∧ has h other = .ok true ∧ pair other = .ok s := by
  rw [bind_eq_ok_iff]
  constructor
  · rintro ⟨other, hother, hpair⟩
    obtain ⟨found, hfound, hpair⟩ := bind_eq_ok_iff.mp hpair
    cases found with
    | false => cases hpair
    | true => exact ⟨other, mapError_eq_ok_iff.mp hother, hfound, hpair⟩
  · rintro ⟨other, hother, hfound, hpair⟩
    exact ⟨other, mapError_eq_ok_iff.mpr hother, bind_eq_ok_iff.mpr ⟨true, hfound, hpair⟩⟩

/-- A module or a model file is in a pair with the other one beside it, whether it is there itself
or not. -/
theorem ofPath_eq_ok_iff : ofPath h given = .ok s ↔
    (given.suffix = moduleSuffix ∧ ∃ modelPath, given.withSuffix modelSuffix = .ok modelPath ∧
      has h modelPath = .ok true ∧ of h given modelPath = .ok s) ∨
    (given.suffix = modelSuffix ∧ ∃ modulePath, given.withSuffix moduleSuffix = .ok modulePath ∧
      has h modulePath = .ok true ∧ of h modulePath given = .ok s) := by
  have hapart : moduleSuffix ≠ modelSuffix := by decide
  rw [ofPath]
  split
  next hmodule =>
    have hother : given.suffix ≠ modelSuffix := hmodule ▸ hapart
    rw [beside_eq_ok_iff, and_iff_right hmodule, or_iff_left (hother ·.1)]
  next hother =>
    rw [or_iff_right (hother ·.1)]
    split
    next hmodel => rw [beside_eq_ok_iff, and_iff_right hmodel]
    next hforeign => exact ⟨nofun, fun h => absurd h.1 hforeign⟩

/-! ## Where their paths lead -/

/-- What a pair keeps for a path, whose existence was tested or was not. -/
structure Keeps (h : Host) (tested : Bool) (given kept : Path) : Prop where
  /-- It keeps the absolute path, without links and with the home directory in it. -/
  located : h.locate given = .ok kept
  /-- This leads to what the path with the home directory in it leads to. -/
  leads : ∀ p node, h.expandHome given = .ok p → h.find? p = .ok (some node) → h.Finds kept node
  /-- So there is something, if the path was tested, and does not start at a home directory. -/
  found : tested = true → ∃ node, h.find? given = .ok (some node) ∧
    (h.expandHome given = .ok given → h.Finds kept node)

theorem keeps_iff (hregular : h.Regular) {tested : Bool} : Keeps h tested given kept ↔
    h.locate given = .ok kept ∧ (tested = true → has h given = .ok true) := by
  rw [has_eq_true_iff]
  constructor
  · intro hkeeps
    exact ⟨hkeeps.located, fun htested => (hkeeps.found htested).imp fun _ hfound => hfound.1⟩
  · rintro ⟨hlocate, htested⟩
    have hleads (p : Path) (node : Node) (hexpand : h.expandHome given = .ok p)
        (hfound : h.find? p = .ok (some node)) : h.Finds kept node := by
      rw [Host.locate, hexpand] at hlocate
      exact hregular.finds_of_resolve hlocate hfound
    refine ⟨hlocate, hleads, fun htrue => ?_⟩
    obtain ⟨node, hfound⟩ := htested htrue
    exact ⟨node, hfound, fun hexpand => hleads given node hexpand hfound⟩

/-- Two files are accepted exactly if both paths lead to something as they are given.  A path that
is given alone is accepted exactly if the path of the other file beside it does; where it leads
itself is not asked. -/
theorem accepted_iff_keeps (h : Host) (hregular : h.Regular) (s : SpecFiles) :
    (∀ modulePath modelPath, ofFiles h modulePath modelPath = .ok s ↔
      Keeps h true modulePath s.modulePath ∧ Keeps h true modelPath s.modelPath) ∧
    ∀ given, ofPath h given = .ok s ↔
      (given.suffix = moduleSuffix ∧ ∃ modelPath, given.withSuffix modelSuffix = .ok modelPath ∧
        Keeps h false given s.modulePath ∧ Keeps h true modelPath s.modelPath) ∨
      (given.suffix = modelSuffix ∧ ∃ modulePath, given.withSuffix moduleSuffix = .ok modulePath ∧
        Keeps h true modulePath s.modulePath ∧ Keeps h false given s.modelPath) := by
  have hpair {tested tested' : Bool} {modulePath modelPath : Path} :
      Keeps h tested modulePath s.modulePath ∧ Keeps h tested' modelPath s.modelPath ↔
        (tested = true → has h modulePath = .ok true) ∧
          (tested' = true → has h modelPath = .ok true) ∧ of h modulePath modelPath = .ok s := by
    rw [keeps_iff hregular, keeps_iff hregular, of_eq_ok_iff]
    tauto
  constructor
  · intro modulePath modelPath
    rw [hpair, ofFiles_eq_ok_iff]
    simp only [forall_const]
  · intro given
    simp only [hpair, ofPath_eq_ok_iff, forall_const, Bool.false_eq_true, false_implies, true_and]

/-- A host with the working directory `/w`. -/
def workshop (home : Option Path) (files : Tree) : Host :=
  ⟨files, ["w".toList], home, []⟩

theorem regular_workshop {home : Option Path} {files : Tree}
    (hcwd : files.node? ["w".toList] = some .directory)
    (hnames : ∀ entry ∈ files, ∀ name ∈ entry.1, '\x00' ∉ name) :
    (workshop home files).Regular where
  cwd := Tree.stands_append_singleton.mpr ⟨Tree.stands_nil files, by decide, by decide, hcwd⟩
  names := hnames

/-- A module that is a link is accepted, and the pair keeps the path of the file it stands for. -/
theorem accepted_of_link :
    let h := workshop none [(["w".toList, "S.tla".toList], .link ⟨.relative, ["T.tla".toList]⟩),
      (["w".toList, "T.tla".toList], .file [] false), (["w".toList, "S.cfg".toList], .file [] false)]
    let s : SpecFiles :=
      ⟨⟨.root, ["w".toList, "T.tla".toList]⟩, ⟨.root, ["w".toList, "S.cfg".toList]⟩⟩
    h.Regular ∧ ofFiles h (.ofText "S.tla".toList) (.ofText "S.cfg".toList) = .ok s ∧
      ∃ node, h.Finds s.modulePath node := by
  intro h s
  have hregular : h.Regular := regular_workshop (by decide) (by decide)
  have haccepted : ofFiles h (.ofText "S.tla".toList) (.ofText "S.cfg".toList) = .ok s := by
    decide +kernel
  have hkeeps := ((accepted_iff_keeps h hregular s).1 _ _).mp haccepted
  obtain ⟨node, _, hfinds⟩ := hkeeps.1.found rfl
  exact ⟨hregular, haccepted, node, hfinds rfl⟩

/-- Files in a directory `~` are accepted, and the pair keeps paths below the home directory, where
nothing is.  A module that is not there is accepted if its model file is. -/
theorem accepted_absent :
    let tilde := workshop (some ⟨.root, ["home".toList]⟩)
      [(["w".toList, "~".toList, "S.tla".toList], .file [] false),
        (["w".toList, "~".toList, "S.cfg".toList], .file [] false),
        (["home".toList], .directory)]
    let lone := workshop none [(["w".toList, "S.cfg".toList], .file [] false)]
    let below : SpecFiles := ⟨.ofText "/home/S.tla".toList, .ofText "/home/S.cfg".toList⟩
    let beside : SpecFiles := ⟨.ofText "/w/S.tla".toList, .ofText "/w/S.cfg".toList⟩
    (tilde.Regular ∧
      ofFiles tilde (.ofText "~/S.tla".toList) (.ofText "~/S.cfg".toList) = .ok below ∧
      ofPath tilde (.ofText "~/S.tla".toList) = .ok below ∧
      tilde.find? below.modulePath = .ok none ∧ tilde.find? below.modelPath = .ok none) ∧
    lone.Regular ∧ ofPath lone (.ofText "S.tla".toList) = .ok beside ∧
      lone.find? beside.modulePath = .ok none := by
  intro tilde lone below beside
  have htilde : tilde.Regular := regular_workshop (by decide) (by decide)
  have hlone : lone.Regular := regular_workshop (by decide) (by decide)
  refine ⟨⟨htilde, ?_⟩, hlone, ?_⟩
  · decide +kernel
  · decide +kernel

end SpecFiles

end TlaRunner.Files
