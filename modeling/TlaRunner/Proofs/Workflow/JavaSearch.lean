import Mathlib.Data.List.Induction
import TlaRunner.Proofs.Result
import TlaRunner.Proofs.Workflow.Bench
import TlaRunner.Workflow.JavaSearch

/-!
# Histories of looking for Java

Any number of inquiries for Java share one cache.  Each looks for its own Java home, and
may overlap with others, since it waits for the answer of the process that it started: what
happens in between is arbitrary, and so is the answer.  A `Desk` is a bench with the
inquiries that were made on it, and a `Turn` is one thing that happens there.

What counts as the executable of a home is stated on the files of the host (`Java.Finds`): the one
below the home, or without a home the first one on the search path.

An inquiry that returns has the executable of its own home, which it found itself or in the
cache (`Desk.Found`).  What the cache holds comes from one inquiry that found the
executable, asked it for its version and was told (`Desk.Probed`): an answer fills all of
the entry at once, for the inquiry that asked, however many others are waiting
(`Desk.sound_after`).

A failed inquiry emptied the cache when it began and fills nothing, so if it was the only
one it leaves the cache empty (`Desk.Lone`).
-/

namespace TlaRunner

open Files (Host)

/-! ## The executable -/

/-- The first executable of a name is in the first directory of the search path that has one. -/
theorem Files.Host.which?_eq_some_iff {h : Host} {name : Text} {found : Path} :
    h.which? name = some found ↔ h.searchPath ≠ [] ∧ ∃ before dir after,
      Text.cutAt ':' h.searchPath = before ++ dir :: after ∧
        found = (Path.ofText dir).join (.ofText name) ∧
        h.tree.isExecutable h.cwd found = true ∧ ∀ earlier ∈ before,
          h.tree.isExecutable h.cwd ((Path.ofText earlier).join (.ofText name)) = false := by
  rw [which?]
  by_cases hempty : h.searchPath = []
  · rw [if_pos (List.isEmpty_iff.mpr hempty)]
    exact iff_of_false (fun hnone => by cases hnone) fun hboth => hboth.1 hempty
  rw [if_neg fun hnil => hempty (List.isEmpty_iff.mp hnil), and_iff_right hempty,
    List.find?_eq_some_iff_append]
  constructor
  · rintro ⟨hfound, before, after, hsplit, hbefore⟩
    obtain ⟨dirs, rest, hdirs, rfl, hrest⟩ := List.map_eq_append_iff.mp hsplit
    obtain ⟨dir, others, rfl, rfl, rfl⟩ := List.map_eq_cons_iff.mp hrest
    refine ⟨dirs, dir, others, hdirs, rfl, hfound, fun earlier hearlier => ?_⟩
    have hnot := hbefore _ (List.mem_map_of_mem hearlier)
    rwa [Bool.not_eq_true'] at hnot
  · rintro ⟨before, dir, after, hsplit, rfl, hfound, hbefore⟩
    rw [hsplit, List.map_append, List.map_cons]
    refine ⟨hfound, _, _, rfl, List.forall_mem_map.mpr fun earlier hearlier => ?_⟩
    rw [hbefore earlier hearlier]
    rfl

namespace Java

/-- The executable for a Java home. -/
inductive Finds (h : Host) : Option Path → Path → Prop
  /-- Below a home, where the executable has to be there. -/
  | home {home dir : Path} (hexpand : h.expandHome home = .ok dir)
      (hthere : h.has (dir.join (.ofText "bin/java".toList)) = .ok true) :
      Finds h (some home) (dir.join (.ofText "bin/java".toList))
  /-- Without a home, in the first directory of the search path that has one. -/
  | searchPath {before after : List Text} {dir : Text} (hpath : h.searchPath ≠ [])
      (hsplit : Text.cutAt ':' h.searchPath = before ++ dir :: after)
      (hfound : h.tree.isExecutable h.cwd ((Path.ofText dir).join (.ofText "java".toList)) = true)
      (hbefore : ∀ earlier ∈ before,
        h.tree.isExecutable h.cwd ((Path.ofText earlier).join (.ofText "java".toList)) = false) :
      Finds h none ((Path.ofText dir).join (.ofText "java".toList))

theorem executable_eq_ok_iff {h : Host} {javaHome : Option Path} {found : Path} :
    executable h javaHome = .ok found ↔ Finds h javaHome found := by
  cases javaHome with
  | none =>
      have hwhich : executable h none = .ok found ↔ h.which? executableName = some found := by
        rw [executable]
        cases h.which? executableName with
        | none => exact iff_of_false (fun hok => by cases hok) fun hsome => by cases hsome
        | some other =>
            exact ⟨fun hok => congrArg some (Except.ok.inj hok),
              fun hsome => congrArg Except.ok (Option.some.inj hsome)⟩
      rw [hwhich, Host.which?_eq_some_iff]
      constructor
      · rintro ⟨hpath, before, dir, after, hsplit, rfl, hfound, hbefore⟩
        exact .searchPath hpath hsplit hfound hbefore
      · rintro (_ | ⟨hpath, hsplit, hfound, hbefore⟩)
        exact ⟨hpath, _, _, _, hsplit, rfl, hfound, hbefore⟩
  | some home =>
      simp only [executable, bind_eq_ok_iff, mapError_eq_ok_iff]
      constructor
      · rintro ⟨dir, hexpand, there, hthere, hfound⟩
        cases there with
        | false => cases hfound
        | true =>
            cases hfound
            exact .home hexpand hthere
      · rintro (⟨hexpand, hthere⟩ | _)
        exact ⟨_, hexpand, true, hthere, rfl⟩

end Java

namespace Workflow

open Supervision (Behavior Child)

/-! ## One look -/

namespace Bench

/-- The commands so far. -/
def commands (b : Bench) : List (List Text) :=
  b.calls.map (·.command)

/-- The command that asks an executable for its version. -/
def probe (executable : Path) : List Text :=
  executable.toText :: Java.versionQuery

/-- The bench with another Java home in its settings. -/
def forHome (b : Bench) (javaHome : Option Path) : Bench :=
  { b with config := { b.config with javaHome } }

theorem commands_start (b : Bench) (behavior : Behavior) (executable : Text)
    (arguments : List Text) (directory : Option Path) :
    (b.start behavior executable arguments directory).1.commands =
      b.commands ++ [executable :: arguments] := by
  cases behavior with
  | refused reason => simp [start, commands]
  | runs program => simp [start, commands]

theorem commands_modifyChild (b : Bench) (process : Nat) (f : Child → Child) :
    (b.modifyChild process f).commands = b.commands := by
  refine List.ext_getElem? fun i => ?_
  simp only [commands, modifyChild, List.getElem?_map, List.getElem?_modify]
  cases b.calls[i]? with
  | none => rfl
  | some call =>
      by_cases hi : process = i
      · simp [hi]
      · simp [hi]

theorem commands_elapse (b : Bench) (time : Nat) : (b.elapse time).commands = b.commands := by
  simp only [commands, elapse, List.map_map]
  refine List.map_congr_left fun call _ => ?_
  simp only [Function.comp_apply]
  cases call.due with
  | none => rfl
  | some due =>
      by_cases hdue : due ≤ time
      · simp [hdue]
      · simp [hdue]

/-- The question is one more call. -/
theorem startProbe_eq (b : Bench) (executable : Path) :
    ∃ call result, call.command = probe executable ∧
      b.startProbe executable = ({ b with calls := b.calls ++ [call] }, result) ∧
      ∀ process, result = .ok process → process = b.calls.length := by
  rw [startProbe, start.eq_def]
  simp only
  split
  next reason => exact ⟨_, _, rfl, rfl, fun process h => by cases h⟩
  next program =>
    refine ⟨_, _, rfl, rfl, fun process h => ?_⟩
    cases h
    rfl

/-- What looking for Java may do. -/
inductive Seeks (b : Bench) : Bench × JavaSearch → Prop
  /-- The executable is in the cache. -/
  | hit {executable : Path} (h : b.cache.find? b.config.javaHome = some executable) :
      Seeks b (b, .found executable)
  /-- There is no executable. -/
  | miss {fault : Java.Fault} (hcache : b.cache.find? b.config.javaHome = none)
      (h : ∀ executable, ¬Java.Finds b.host b.config.javaHome executable) :
      Seeks b ({ b with cache := .empty }, .failed (.java fault))
  /-- The executable is asked, or cannot be. -/
  | ask {executable : Path} {call : Call} {search : JavaSearch}
      (hcache : b.cache.find? b.config.javaHome = none)
      (h : Java.Finds b.host b.config.javaHome executable)
      (hcommand : call.command = probe executable)
      (hsearch : search = .asked b.calls.length executable ∨ ∃ failure, search = .failed failure) :
      Seeks b ({ b with cache := .empty, calls := b.calls ++ [call] }, search)

theorem seeks (b : Bench) : b.Seeks b.seekJava := by
  rw [seekJava, Java.Cache.search]
  cases hcache : b.cache.find? b.config.javaHome with
  | some executable => exact .hit hcache
  | none =>
      cases hfound : Java.executable b.host b.config.javaHome with
      | error fault =>
          refine .miss hcache fun executable hfinds => ?_
          rw [Java.executable_eq_ok_iff.mpr hfinds] at hfound
          cases hfound
      | ok executable =>
          have hfinds := Java.executable_eq_ok_iff.mp hfound
          obtain ⟨call, result, hcommand, hstart, hnumber⟩ :=
            startProbe_eq { b with cache := .empty } executable
          simp only [hstart]
          cases result with
          | error failure => exact .ask hcache hfinds hcommand (Or.inr ⟨_, rfl⟩)
          | ok process =>
              simp only
              split
              next => exact .ask hcache hfinds hcommand (Or.inr ⟨_, rfl⟩)
              next =>
                rw [hnumber process rfl]
                exact .ask hcache hfinds hcommand (Or.inl rfl)

/-- What taking an answer does to the cache: nothing, or it fills it with what was asked and
told. -/
theorem learns {b after : Bench} {process : Nat} {executable : Path}
    {result : Except Failure Unit} (h : b.learnJava process executable = some (after, result)) :
    after.commands = b.commands ∧
      ((∃ failure, result = .error failure) ∧ after.cache = b.cache ∨
        ∃ child exit waited, b.child? process = some child ∧
          child.wait? = some (exit, waited) ∧ result = .ok () ∧
          (Java.Version.ofLines (answerLines exit child.program)).isUnknown = false ∧
          after.cache = ⟨some ⟨b.config.javaHome, executable,
            .ofLines (answerLines exit child.program)⟩⟩) := by
  obtain ⟨child, hchild, hwait⟩ := Option.bind_eq_some_iff.mp h
  obtain ⟨⟨exit, waited⟩, hexit, hlearn⟩ := Option.map_eq_some_iff.mp hwait
  have hcommands := b.commands_modifyChild process fun _ => waited
  simp only at hlearn
  split at hlearn
  next fault _ =>
    cases hlearn
    exact ⟨hcommands, Or.inl ⟨⟨_, rfl⟩, rfl⟩⟩
  next cache warning hcache =>
    cases hlearn
    refine ⟨hcommands, Or.inr ⟨child, exit, waited, hchild, hexit, rfl, ?_⟩⟩
    rw [Java.Cache.learn] at hcache
    cases hunknown : (Java.Version.ofLines (answerLines exit child.program)).isUnknown with
    | true =>
        rw [hunknown] at hcache
        cases hcache
    | false =>
        rw [hunknown] at hcache
        cases hsupported : (Java.Version.ofLines (answerLines exit child.program)).supported with
        | error error =>
            rw [hsupported] at hcache
            cases hcache
        | ok supported =>
            rw [hsupported] at hcache
            cases hcache
            exact ⟨rfl, rfl⟩

end Bench

/-! ## The desk -/

/-- Where an inquiry stands. -/
inductive Inquiry.Stage
  /-- It waits for the answer of a process. -/
  | waiting (process : Nat) (executable : Path)
  /-- It has ended. -/
  | ended (result : Except Failure Path)

/-- One inquiry for Java. -/
structure Inquiry where
  /-- The Java home it is about. -/
  javaHome : Option Path
  /-- Where it stands. -/
  stage : Inquiry.Stage

/-- Where an inquiry stands when it has looked. -/
def Inquiry.Stage.ofSearch : JavaSearch → Stage
  | .found executable => ended (.ok executable)
  | .asked process executable => waiting process executable
  | .failed failure => ended (.error failure)

/-- Whether an inquiry has ended. -/
def Inquiry.HasEnded (i : Inquiry) : Prop :=
  ∃ result, i.stage = .ended result

/-- A bench and the inquiries that were made on it. -/
structure Desk where
  /-- The bench. -/
  bench : Bench
  /-- The inquiries, in the order in which they were made. -/
  inquiries : List Inquiry

/-- Something that happens at a desk. -/
inductive Turn
  /-- Java is inquired for. -/
  | resolve (javaHome : Option Path)
  /-- An inquiry takes its answer, if the process has ended. -/
  | answer (number : Nat)
  /-- An inquiry is given up. -/
  | abandon (number : Nat) (failure : Failure)
  /-- The cache is emptied. -/
  | invalidate
  /-- The files of the machine change, and what it makes of a question for the version. -/
  | change (host : Host) (javaBehavior : Behavior)
  /-- Another command is started. -/
  | start (behavior : Behavior) (executable : Text) (arguments : List Text)
      (directory : Option Path)
  /-- A process is asked to end. -/
  | interrupt (process : Nat)
  /-- A process ends by itself. -/
  | finish (process : Nat)
  /-- Time goes by. -/
  | elapse (time : Nat)

/-- Whether Java is inquired for. -/
def Turn.IsResolve (t : Turn) : Prop :=
  ∃ javaHome, t = .resolve javaHome

namespace Desk

/-- The desk after a turn. -/
def turn (d : Desk) : Turn → Desk
  | .resolve javaHome =>
    let (bench, search) := (d.bench.forHome javaHome).seekJava
    ⟨bench, d.inquiries ++ [⟨javaHome, .ofSearch search⟩]⟩
  | .answer number =>
    match d.inquiries[number]? with
    | some ⟨javaHome, .waiting process executable⟩ =>
      match (d.bench.forHome javaHome).learnJava process executable with
      | some (bench, result) =>
        ⟨bench, d.inquiries.set number ⟨javaHome, .ended (result.map fun _ => executable)⟩⟩
      | none => d
    | _ => d
  | .abandon number failure =>
    match d.inquiries[number]? with
    | some ⟨javaHome, .waiting _ _⟩ =>
      { d with inquiries := d.inquiries.set number ⟨javaHome, .ended (.error failure)⟩ }
    | _ => d
  | .invalidate => { d with bench := { d.bench with cache := .empty } }
  | .change host javaBehavior => { d with bench := { d.bench with host, javaBehavior } }
  | .start behavior executable arguments directory =>
    { d with bench := (d.bench.start behavior executable arguments directory).1 }
  | .interrupt process => { d with bench := d.bench.interrupt process }
  | .finish process => { d with bench := d.bench.finish process }
  | .elapse time => { d with bench := d.bench.elapse time }

/-- The desk after turns. -/
def after (d : Desk) (turns : List Turn) : Desk :=
  turns.foldl turn d

/-- What a turn may do. -/
inductive Does (d : Desk) (t : Turn) : Desk → Prop
  /-- An inquiry looks for Java. -/
  | seeks {javaHome : Option Path} {bench : Bench} {search : JavaSearch}
      (ht : t = .resolve javaHome) (h : (d.bench.forHome javaHome).Seeks (bench, search)) :
      Does d t ⟨bench, d.inquiries ++ [⟨javaHome, .ofSearch search⟩]⟩
  /-- An inquiry takes its answer. -/
  | learns {number process : Nat} {javaHome : Option Path} {executable : Path} {bench : Bench}
      {result : Except Failure Unit} (ht : t = .answer number)
      (hwaits : d.inquiries[number]? = some ⟨javaHome, .waiting process executable⟩)
      (h : (d.bench.forHome javaHome).learnJava process executable = some (bench, result)) :
      Does d t
        ⟨bench, d.inquiries.set number ⟨javaHome, .ended (result.map fun _ => executable)⟩⟩
  /-- An inquiry is given up. -/
  | fails {number process : Nat} {javaHome : Option Path} {executable : Path} {failure : Failure}
      (ht : t = .abandon number failure)
      (hwaits : d.inquiries[number]? = some ⟨javaHome, .waiting process executable⟩) :
      Does d t { d with inquiries := d.inquiries.set number ⟨javaHome, .ended (.error failure)⟩ }
  /-- Nothing becomes of the inquiries, and the cache is kept or emptied. -/
  | beside {bench : Bench} (ht : ¬t.IsResolve)
      (hcache : bench.cache = d.bench.cache ∨ bench.cache = .empty)
      (hcommands : d.bench.commands <+: bench.commands) : Does d t { d with bench }

/-- Every turn does one of these things. -/
theorem does (d : Desk) (t : Turn) : d.Does t (d.turn t) := by
  have hkept (ht : ¬t.IsResolve) : d.Does t d :=
    .beside ht (Or.inl rfl) (List.prefix_refl _)
  cases t with
  | resolve javaHome => exact .seeks rfl (Bench.seeks _)
  | answer number =>
      have ht : ¬(Turn.answer number).IsResolve := by
        rintro ⟨_, h⟩
        cases h
      rw [turn]
      split
      next javaHome process executable hwaits =>
        split
        next bench result hlearns => exact .learns rfl hwaits hlearns
        next => exact hkept ht
      next => exact hkept ht
  | abandon number failure =>
      have ht : ¬(Turn.abandon number failure).IsResolve := by
        rintro ⟨_, h⟩
        cases h
      rw [turn]
      split
      next javaHome process executable hwaits => exact .fails rfl hwaits
      next => exact hkept ht
  | invalidate =>
      exact .beside (by rintro ⟨_, h⟩; cases h) (Or.inr rfl) (List.prefix_refl _)
  | change host javaBehavior =>
      exact .beside (by rintro ⟨_, h⟩; cases h) (Or.inl rfl) (List.prefix_refl _)
  | start behavior executable arguments directory =>
      refine .beside (by rintro ⟨_, h⟩; cases h) (Or.inl ?_) ?_
      · cases behavior with
        | refused reason => rfl
        | runs program => rfl
      · rw [Bench.commands_start]
        exact List.prefix_append _ _
  | interrupt process =>
      have hsame : (d.bench.interrupt process).commands = d.bench.commands :=
        d.bench.commands_modifyChild process _
      exact .beside (by rintro ⟨_, h⟩; cases h) (Or.inl rfl) (hsame ▸ List.prefix_refl _)
  | finish process =>
      have hsame : (d.bench.finish process).commands = d.bench.commands :=
        d.bench.commands_modifyChild process _
      exact .beside (by rintro ⟨_, h⟩; cases h) (Or.inl rfl) (hsame ▸ List.prefix_refl _)
  | elapse time =>
      have hsame : (d.bench.elapse time).commands = d.bench.commands :=
        d.bench.commands_elapse time
      exact .beside (by rintro ⟨_, h⟩; cases h) (Or.inl rfl) (hsame ▸ List.prefix_refl _)

theorem after_concat (d : Desk) (turns : List Turn) (t : Turn) :
    d.after (turns ++ [t]) = (d.after turns).turn t :=
  List.foldl_append

/-- Commands stay. -/
theorem Does.commands {d next : Desk} {t : Turn} (h : d.Does t next) :
    d.bench.commands <+: next.bench.commands := by
  cases h with
  | seeks ht hseeks =>
      cases hseeks with
      | hit hcache => exact List.prefix_refl _
      | miss hcache hnone => exact List.prefix_refl _
      | ask hcache hfound hcommand hsearch =>
          show _ <+: List.map _ (_ ++ _)
          rw [List.map_append]
          exact List.prefix_append _ _
  | learns ht hwaits hlearns =>
      show _ <+: Bench.commands _
      rw [(Bench.learns hlearns).1]
      exact List.prefix_refl _
  | fails ht hwaits => exact List.prefix_refl _
  | beside ht hcache hcommands => exact hcommands

/-! ## What came from where -/

/-- The inquiry with a number found an executable for its home, and asked it as a process. -/
def Asked (first : Desk) (turns : List Turn) (number : Nat) (javaHome : Option Path)
    (executable : Path) (process : Nat) : Prop :=
  ∃ before later, turns = before ++ .resolve javaHome :: later ∧
    (first.after before).inquiries.length = number ∧
    Java.Finds (first.after before).bench.host javaHome executable ∧
    (first.after before).bench.calls.length = process ∧
    (first.after turns).bench.commands[process]? = some (Bench.probe executable)

/-- One inquiry found the executable of an entry for the home of the entry, asked it, was told
the version of the entry, and returned the executable. -/
def Probed (first : Desk) (turns : List Turn) (e : Java.Entry) : Prop :=
  ∃ before later number process child exit waited,
    turns = before ++ .answer number :: later ∧
    first.Asked before number e.javaHome e.executable process ∧
    (first.after before).inquiries[number]? =
      some ⟨e.javaHome, .waiting process e.executable⟩ ∧
    (first.after before).bench.child? process = some child ∧
    child.wait? = some (exit, waited) ∧
    e.version = .ofLines (Bench.answerLines exit child.program) ∧ e.version.isUnknown = false ∧
    (first.after (before ++ [.answer number])).inquiries[number]? =
      some ⟨e.javaHome, .ended (.ok e.executable)⟩

/-- The inquiry with a number looked for its home and found an executable, by itself or in the
cache, where it came from an inquiry for the same home. -/
def Found (first : Desk) (turns : List Turn) (number : Nat) (javaHome : Option Path)
    (executable : Path) : Prop :=
  ∃ before later, turns = before ++ .resolve javaHome :: later ∧
    (first.after before).inquiries.length = number ∧
    (Java.Finds (first.after before).bench.host javaHome executable ∨
      ∃ e, (first.after before).bench.cache.entry = some e ∧ e.javaHome = javaHome ∧
        e.executable = executable ∧ first.Probed before e)

section

variable {first : Desk} {turns : List Turn} {number process : Nat} {javaHome : Option Path}
  {executable : Path}

theorem Asked.later (h : first.Asked turns number javaHome executable process) (t : Turn) :
    first.Asked (turns ++ [t]) number javaHome executable process := by
  obtain ⟨before, later, rfl, hnumber, hfound, hprocess, hcommand⟩ := h
  refine ⟨before, later ++ [t], by simp, hnumber, hfound, hprocess, ?_⟩
  obtain ⟨more, hmore⟩ := ((first.after (before ++ .resolve javaHome :: later)).does t).commands
  rw [after_concat, ← hmore,
    List.getElem?_append_left (List.getElem?_eq_some_iff.mp hcommand).1]
  exact hcommand

theorem Probed.later {e : Java.Entry} (h : first.Probed turns e) (t : Turn) :
    first.Probed (turns ++ [t]) e := by
  obtain ⟨before, later, number, process, child, exit, waited, rfl, hrest⟩ := h
  exact ⟨before, later ++ [t], number, process, child, exit, waited, by simp, hrest⟩

theorem Found.later (h : first.Found turns number javaHome executable) (t : Turn) :
    first.Found (turns ++ [t]) number javaHome executable := by
  obtain ⟨before, later, rfl, hrest⟩ := h
  exact ⟨before, later ++ [t], by simp, hrest⟩

/-- An inquiry that asked an executable had found it. -/
theorem Asked.found (h : first.Asked turns number javaHome executable process) :
    first.Found turns number javaHome executable := by
  obtain ⟨before, later, hsplit, hnumber, hfound, _⟩ := h
  exact ⟨before, later, hsplit, hnumber, Or.inl hfound⟩

end

/-- Where an inquiry with a number came from. -/
def Traced (first : Desk) (turns : List Turn) (number : Nat) (i : Inquiry) : Prop :=
  match i.stage with
  | .waiting process executable => first.Asked turns number i.javaHome executable process
  | .ended (.ok executable) => first.Found turns number i.javaHome executable
  | .ended (.error _) => True

theorem Traced.later {first : Desk} {turns : List Turn} {number : Nat} {i : Inquiry}
    (h : first.Traced turns number i) (t : Turn) : first.Traced (turns ++ [t]) number i := by
  obtain ⟨javaHome, stage⟩ := i
  cases stage with
  | waiting process executable => exact Asked.later h t
  | ended result =>
      cases result with
      | ok executable => exact Found.later h t
      | error failure => trivial

/-- Where everything at a desk came from. -/
structure Sound (first : Desk) (turns : List Turn) : Prop where
  /-- What the cache holds is from one inquiry. -/
  entry : ∀ e, (first.after turns).bench.cache.entry = some e → first.Probed turns e
  /-- An inquiry waits for what it asked, and returns what it found. -/
  inquiries : ∀ number i, (first.after turns).inquiries[number]? = some i →
    first.Traced turns number i

section

variable {first : Desk} {turns : List Turn}

theorem sound_nil (hcache : first.bench.cache = .empty) (hinquiries : first.inquiries = []) :
    Sound first [] := by
  refine ⟨fun e he => ?_, fun number i hi => ?_⟩
  · rw [show first.after [] = first from rfl, hcache] at he
    cases he
  · rw [show first.after [] = first from rfl, hinquiries] at hi
    cases hi

/-- A new inquiry knows where its executable is from, or asks for it. -/
theorem Sound.traced_seeks {javaHome : Option Path} {bench : Bench} {search : JavaSearch}
    (h : Sound first turns)
    (hseeks : ((first.after turns).bench.forHome javaHome).Seeks (bench, search))
    (hafter : (first.after (turns ++ [.resolve javaHome])).bench = bench) :
    first.Traced (turns ++ [.resolve javaHome]) (first.after turns).inquiries.length
      ⟨javaHome, .ofSearch search⟩ := by
  cases hseeks with
  | hit hhit =>
      obtain ⟨e, he, hhome⟩ := Option.bind_eq_some_iff.mp hhit
      split at hhome
      next heq =>
        refine ⟨turns, [], rfl, rfl, Or.inr ⟨e, he, heq, Option.some.inj hhome, h.entry e he⟩⟩
      next => cases hhome
  | miss hmiss hnone => trivial
  | ask hmiss hfound hcommand hsearch =>
      rcases hsearch with rfl | ⟨failure, rfl⟩
      · refine ⟨turns, [], rfl, rfl, hfound, rfl, ?_⟩
        rw [hafter, Bench.commands, List.map_append, List.map_singleton, hcommand]
        exact (congrArg _ (List.length_map _).symm).trans List.getElem?_concat_length
      · trivial

/-- What is kept of the entry, of the inquiries or of both goes on to be sound. -/
theorem Sound.step {t : Turn} (h : Sound first turns)
    (hentry : ∀ e, (first.after (turns ++ [t])).bench.cache.entry = some e →
      (first.after turns).bench.cache.entry = some e ∨ first.Probed (turns ++ [t]) e)
    (hinquiries : ∀ number i, (first.after (turns ++ [t])).inquiries[number]? = some i →
      (first.after turns).inquiries[number]? = some i ∨
        first.Traced (turns ++ [t]) number i) : Sound first (turns ++ [t]) := by
  refine ⟨fun e he => ?_, fun number i hi => ?_⟩
  · rcases hentry e he with hold | hnew
    · exact (h.entry e hold).later t
    · exact hnew
  · rcases hinquiries number i hi with hold | hnew
    · exact (h.inquiries number i hold).later t
    · exact hnew

/-- One inquiry of several ends. -/
theorem getElem?_set_cases {l : List Inquiry} {number other : Nat} {i last : Inquiry}
    (h : (l.set number last)[other]? = some i) :
    l[other]? = some i ∨ other = number ∧ i = last := by
  rw [List.getElem?_set] at h
  split at h
  next heq =>
    split at h
    next => exact Or.inr ⟨heq.symm, (Option.some.inj h).symm⟩
    next => cases h
  next => exact Or.inl h

theorem Sound.concat (h : Sound first turns) (t : Turn) : Sound first (turns ++ [t]) := by
  have hdoes := (first.after turns).does t
  have hafter := after_concat first turns t
  generalize (first.after turns).turn t = next at hdoes hafter
  cases hdoes with
  | seeks ht hseeks =>
      subst ht
      have htraced := h.traced_seeks hseeks (by rw [hafter])
      refine h.step (fun e he => ?_) fun number i hi => ?_
      · rw [hafter] at he
        cases hseeks with
        | hit hhit => exact Or.inl he
        | miss hmiss hnone => cases he
        | ask hmiss hfound hcommand hsearch => cases he
      · rw [hafter] at hi
        rcases getElem?_concat_iff.mp hi with hold | ⟨rfl, rfl⟩
        · exact Or.inl hold
        · exact Or.inr htraced
  | @learns number process javaHome executable bench result ht hwaits hlearns =>
      subst ht
      have hasked : first.Asked turns number javaHome executable process :=
        h.inquiries number _ hwaits
      obtain ⟨-, ⟨⟨failure, rfl⟩, hcache⟩ | ⟨child, exit, waited, hchild, hexit, rfl, hversion,
        hcache⟩⟩ := Bench.learns hlearns
      · refine h.step (fun e he => ?_) fun other i hi => ?_
        · rw [hafter] at he
          exact Or.inl (hcache ▸ he)
        · rw [hafter] at hi
          rcases getElem?_set_cases hi with hold | ⟨rfl, rfl⟩
          · exact Or.inl hold
          · exact Or.inr trivial
      · have hended : (first.after (turns ++ [.answer number])).inquiries[number]? =
            some ⟨javaHome, .ended (.ok executable)⟩ := by
          rw [hafter]
          exact List.getElem?_set_self (List.getElem?_eq_some_iff.mp hwaits).1
        refine h.step (fun e he => Or.inr ?_) fun other i hi => ?_
        · rw [hafter] at he
          simp only [hcache] at he
          cases he
          exact ⟨turns, [], number, process, child, exit, waited, rfl, hasked, hwaits, hchild,
            hexit, rfl, hversion, hended⟩
        · rw [hafter] at hi
          rcases getElem?_set_cases hi with hold | ⟨rfl, rfl⟩
          · exact Or.inl hold
          · exact Or.inr (hasked.found.later _)
  | fails ht hwaits =>
      refine h.step (fun e he => Or.inl (by rw [hafter] at he; exact he)) fun other i hi => ?_
      rw [hafter] at hi
      rcases getElem?_set_cases hi with hold | ⟨rfl, rfl⟩
      · exact Or.inl hold
      · exact Or.inr trivial
  | beside ht hcache hcommands =>
      refine h.step (fun e he => Or.inl ?_) fun number i hi => Or.inl ?_
      · rw [hafter] at he
        rcases hcache with hkept | hempty
        · exact hkept ▸ he
        · rw [hempty] at he
          cases he
      · rw [hafter] at hi
        exact hi

/-- Everything at a desk came from somewhere. -/
theorem sound_after (hcache : first.bench.cache = .empty) (hinquiries : first.inquiries = [])
    (turns : List Turn) : Sound first turns := by
  induction turns using List.reverseRecOn with
  | nil => exact sound_nil hcache hinquiries
  | append_singleton turns t ih => exact ih.concat t

end

/-! ## When an executable is asked -/

theorem find?_eq_none_iff {c : Java.Cache} {javaHome : Option Path} :
    c.find? javaHome = none ↔ ∀ e, c.entry = some e → e.javaHome ≠ javaHome := by
  rw [Java.Cache.find?]
  cases c.entry with
  | none => simp
  | some e => simp

/-- An inquiry asks an executable if there is one and the cache has nothing for its home. -/
theorem asks_iff (d : Desk) (javaHome : Option Path) :
    (∃ executable, (d.turn (.resolve javaHome)).bench.commands =
        d.bench.commands ++ [Bench.probe executable]) ↔
      (∃ executable, Java.Finds d.bench.host javaHome executable) ∧
        ∀ e, d.bench.cache.entry = some e → e.javaHome ≠ javaHome := by
  rw [← find?_eq_none_iff]
  have hseeks := (d.bench.forHome javaHome).seeks
  have hbench : (d.turn (.resolve javaHome)).bench = (d.bench.forHome javaHome).seekJava.1 := rfl
  rw [hbench]
  generalize (d.bench.forHome javaHome).seekJava = result at hseeks
  -- Where nothing is asked there is no command more.
  have hnone (b : Bench) (hb : b.calls = d.bench.calls) :
      ¬∃ executable, b.commands = d.bench.commands ++ [Bench.probe executable] := by
    rintro ⟨executable, h⟩
    have hlength := congrArg List.length h
    simp [Bench.commands, hb] at hlength
  cases hseeks with
  | @hit executable hhit =>
      refine iff_of_false (hnone _ rfl) ?_
      rintro ⟨-, hmiss⟩
      have hfound : d.bench.cache.find? javaHome = some executable := hhit
      rw [hmiss] at hfound
      cases hfound
  | miss hmiss hfault =>
      refine iff_of_false (hnone _ rfl) ?_
      rintro ⟨⟨executable, hfound⟩, -⟩
      exact hfault executable hfound
  | @ask executable call search hmiss hfound hcommand hsearch =>
      refine iff_of_true ⟨executable, ?_⟩ ⟨⟨executable, hfound⟩, hmiss⟩
      show List.map _ (d.bench.calls ++ [call]) = _
      rw [List.map_append, List.map_singleton, hcommand]
      rfl

/-! ## Inquiries that do not overlap -/

/-- An inquiry that is the only one going on: it has returned, or the cache is empty. -/
structure Lone (d : Desk) (number : Nat) : Prop where
  /-- All others have ended. -/
  others : ∀ other i, d.inquiries[other]? = some i → other ≠ number → i.HasEnded
  /-- It has returned, or there is nothing in the cache. -/
  own : (∃ i executable, d.inquiries[number]? = some i ∧ i.stage = .ended (.ok executable)) ∨
    d.bench.cache = .empty

/-- It begins when all others have ended. -/
theorem lone_resolve {d : Desk} (h : ∀ i ∈ d.inquiries, i.HasEnded) (javaHome : Option Path) :
    (d.turn (.resolve javaHome)).Lone d.inquiries.length := by
  have hseeks := (d.bench.forHome javaHome).seeks
  have hturn : d.turn (.resolve javaHome) = ⟨(d.bench.forHome javaHome).seekJava.1,
      d.inquiries ++ [⟨javaHome, .ofSearch (d.bench.forHome javaHome).seekJava.2⟩]⟩ := rfl
  rw [hturn]
  generalize (d.bench.forHome javaHome).seekJava = result at hseeks
  refine ⟨fun other i hi hother => ?_, ?_⟩
  · rcases getElem?_concat_iff.mp hi with hold | ⟨hlast, -⟩
    · exact h i (List.mem_of_getElem? hold)
    · exact absurd hlast hother
  · cases hseeks with
    | hit hhit => exact Or.inl ⟨_, _, List.getElem?_concat_length, rfl⟩
    | miss hmiss hnone => exact Or.inr rfl
    | ask hmiss hfound hcommand hsearch => exact Or.inr rfl

/-- It goes on to be the only one while nobody else inquires. -/
theorem Lone.turn {d : Desk} {number : Nat} (h : d.Lone number) {t : Turn} (ht : ¬t.IsResolve) :
    (d.turn t).Lone number := by
  have hdoes := d.does t
  generalize d.turn t = next at hdoes
  -- Nothing that has ended is touched, so whatever ends now is the inquiry itself.
  have hself {other process : Nat} {javaHome : Option Path} {executable : Path}
      (hwaits : d.inquiries[other]? = some ⟨javaHome, .waiting process executable⟩) :
      other = number := by
    by_contra hother
    obtain ⟨result, hresult⟩ := h.others other _ hwaits hother
    cases hresult
  have hothers {last : Inquiry} (other : Nat) (i : Inquiry)
      (hi : (d.inquiries.set number last)[other]? = some i) (hother : other ≠ number) :
      i.HasEnded := by
    rw [List.getElem?_set_ne (Ne.symm hother)] at hi
    exact h.others other i hi hother
  -- An inquiry that still waits has not returned.
  have hempty {process : Nat} {javaHome : Option Path} {executable : Path}
      (hwaits : d.inquiries[number]? = some ⟨javaHome, .waiting process executable⟩) :
      d.bench.cache = .empty := by
    refine h.own.resolve_left ?_
    rintro ⟨i, found, hi, hstage⟩
    rw [hwaits] at hi
    cases hi
    cases hstage
  cases hdoes with
  | seeks hresolve hseeks => exact absurd ⟨_, hresolve⟩ ht
  | learns hanswer hwaits hlearns =>
      obtain rfl := hself hwaits
      refine ⟨hothers, ?_⟩
      obtain ⟨-, ⟨⟨failure, rfl⟩, hcache⟩ | ⟨child, exit, waited, -, -, rfl, -, -⟩⟩ :=
        Bench.learns hlearns
      · exact Or.inr (hcache.trans (hempty hwaits))
      · exact Or.inl ⟨_, _, List.getElem?_set_self (List.getElem?_eq_some_iff.mp hwaits).1, rfl⟩
  | fails habandon hwaits =>
      obtain rfl := hself hwaits
      exact ⟨hothers, Or.inr (hempty hwaits)⟩
  | beside hbeside hcache hcommands =>
      refine ⟨h.others, h.own.imp_right fun hnothing => ?_⟩
      rcases hcache with hkept | hemptied
      · exact hkept.trans hnothing
      · exact hemptied

theorem Lone.after {d : Desk} {number : Nat} (h : d.Lone number) {turns : List Turn}
    (hturns : ∀ t ∈ turns, ¬t.IsResolve) : (d.after turns).Lone number := by
  induction turns generalizing d with
  | nil => exact h
  | cons t turns ih =>
      obtain ⟨ht, hrest⟩ := List.forall_mem_cons.mp hturns
      exact ih (h.turn ht) hrest

/-- The cache never serves anything stale or mixed.  However inquiries overlap and whatever
happens beside them, an inquiry that returns has the executable of its own home, and what
the cache holds is from one inquiry that was told the version.  An inquiry asks an
executable exactly if it finds one and the cache holds nothing for its home.  If it is the
only one going on and fails, the cache is empty. -/
theorem inquiries_sound (host : Host) (config : Config) (attended : Bool) (javaBehavior : Behavior)
    (behaviors : List Behavior) (turns : List Turn) :
    let first : Desk := ⟨.idle host config attended javaBehavior behaviors, []⟩
    let now := first.after turns
    (∀ number javaHome executable,
      now.inquiries[number]? = some ⟨javaHome, .ended (.ok executable)⟩ →
        first.Found turns number javaHome executable) ∧
    (∀ e, now.bench.cache.entry = some e → first.Probed turns e) ∧
    ∀ javaHome,
      ((∃ executable, (now.turn (.resolve javaHome)).bench.commands =
          now.bench.commands ++ [Bench.probe executable]) ↔
        (∃ executable, Java.Finds now.bench.host javaHome executable) ∧
          ∀ e, now.bench.cache.entry = some e → e.javaHome ≠ javaHome) ∧
      ∀ later failure, (∀ i ∈ now.inquiries, i.HasEnded) → (∀ t ∈ later, ¬t.IsResolve) →
        ((now.turn (.resolve javaHome)).after later).inquiries[now.inquiries.length]? =
          some ⟨javaHome, .ended (.error failure)⟩ →
        ((now.turn (.resolve javaHome)).after later).bench.cache = .empty := by
  intro first now
  have hsound : Sound first turns := sound_after rfl rfl turns
  refine ⟨fun number javaHome executable hi => hsound.inquiries number _ hi, hsound.entry,
    fun javaHome => ⟨now.asks_iff javaHome, fun later failure hended hlater hi => ?_⟩⟩
  have hlone := (lone_resolve hended javaHome).after hlater
  refine hlone.own.resolve_left ?_
  rintro ⟨i, executable, hreturned, hstage⟩
  rw [hi] at hreturned
  cases hreturned
  cases hstage

end Desk

end Workflow

end TlaRunner
