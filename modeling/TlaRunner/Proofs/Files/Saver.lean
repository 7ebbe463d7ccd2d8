import TlaRunner.Files.Saver
import TlaRunner.Proofs.Files.Tree

/-!
# What a saver has got

A saver that is open has got the bytes that were written since it was opened: its path leads to
its file, which holds the first of them, and the saver holds back the rest (`Saver.Has`).  Opening,
writing and closing keep count of them, so the file holds all of them once the saver is closed
(`Has.read?_close`), whenever that is.
-/

namespace TlaRunner.Files

namespace OpenFile

/-- A path leads to the file that is written: it holds the first of the bytes that were written,
and the rest are held back. -/
def Has (f : OpenFile) (t : Tree) (cwd : Names) (p : Path) (written : Bytes) : Prop :=
  ∃ content executable, t.walk cwd p = .there f.names (.file content executable) ∧
    content.length = f.offset ∧ content ++ f.held = written

variable {f : OpenFile} {t : Tree} {cwd : Names} {p : Path} {written : Bytes}

/-- Nothing is held back then. -/
theorem Has.flush (h : f.Has t cwd p written) :
    (f.flush t).1.Has (f.flush t).2 cwd p written ∧ (f.flush t).1.held = [] := by
  obtain ⟨content, executable, hwalk, hoffset, rfl⟩ := h
  refine ⟨⟨content ++ f.held, executable, ?_, ?_, List.append_nil _⟩, rfl⟩
  · rw [OpenFile.flush, ← hoffset]
    exact Tree.walk_writeAt hwalk f.held
  · rw [List.length_append, hoffset]
    rfl

/-- Bytes may be held back. -/
theorem Has.hold (h : f.Has t cwd p written) (bytes : Bytes) :
    OpenFile.Has { f with held := f.held ++ bytes } t cwd p (written ++ bytes) := by
  obtain ⟨content, executable, hwalk, hoffset, rfl⟩ := h
  exact ⟨content, executable, hwalk, hoffset, (List.append_assoc content f.held bytes).symm⟩

theorem Has.write (h : f.Has t cwd p written) (bytes : Bytes) :
    (f.write t bytes).1.Has (f.write t bytes).2 cwd p (written ++ bytes) := by
  rw [OpenFile.write]
  split
  next => exact h.hold bytes
  next =>
    obtain ⟨hflushed, hheld⟩ := h.flush
    have hheld : OpenFile.Has { (f.flush t).1 with held := bytes } (f.flush t).2 cwd p
        (written ++ bytes) := by
      have hhold := hflushed.hold bytes
      rwa [hheld, List.nil_append] at hhold
    simp only
    split
    next => exact hheld
    next => exact hheld.flush.1

end OpenFile

namespace Saver

/-- A saver is open and has got the bytes. -/
def Has (s : Saver) (h : Host) (written : Bytes) : Prop :=
  ∃ f, s.file = some f ∧ f.Has h.tree h.cwd s.path written

variable {s : Saver} {h : Host} {written : Bytes}

/-- A saver that was just opened has got nothing. -/
theorem has_of_open {path : Path} {t : Tree} (hopen : (Saver.of path).open h = .ok (s, t)) :
    s.path = path ∧ s.Has { h with tree := t } [] := by
  rw [Saver.open] at hopen
  split at hopen
  next => cases hopen
  next =>
    split at hopen
    next => cases hopen
    next names opened hopened =>
      cases hopen
      obtain ⟨executable, hwalk⟩ := Tree.walk_of_openForWriting hopened
      exact ⟨rfl, _, rfl, [], executable, hwalk, rfl, rfl⟩

/-- A saver that is open takes what is written. -/
theorem Has.write (hhas : s.Has h written) (bytes : Bytes) :
    ∃ last t, s.write h.tree bytes = .ok (last, t) ∧ last.path = s.path ∧
      last.Has { h with tree := t } (written ++ bytes) := by
  obtain ⟨f, hfile, hf⟩ := hhas
  refine ⟨⟨s.path, some (f.write h.tree bytes).1⟩, (f.write h.tree bytes).2, ?_, rfl, _, rfl,
    hf.write bytes⟩
  rw [Saver.write, hfile]

/-- When it is closed the file holds all that was written. -/
theorem Has.read?_close (hhas : s.Has h written) :
    { h with tree := (s.close h.tree).2 }.read? s.path = .ok (some written) := by
  obtain ⟨f, hfile, hf⟩ := hhas
  obtain ⟨hflushed, hheld⟩ := hf.flush
  obtain ⟨content, executable, hwalk, _, hcontent⟩ := hflushed
  rw [hheld, List.append_nil] at hcontent
  subst hcontent
  have hclosed : (s.close h.tree).2 = (f.flush h.tree).2 := by
    rw [Saver.close, hfile]
    rfl
  rw [hclosed]
  exact Host.read?_of_walk hwalk

end Saver

end TlaRunner.Files
