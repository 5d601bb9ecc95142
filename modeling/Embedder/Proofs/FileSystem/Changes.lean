import Embedder.Proofs.FileSystem.Walks

/-!
# File systems that a host makes

A host starts with an empty file system and puts items at paths. What it makes is a tree.

* `FileSystem.wellFormed_empty`: what a host starts with;
* `FileSystem.WellFormed.enter`: directories that are made on the way along a path leave a tree a tree;
* `FileSystem.WellFormed.add`: and so do items at paths.
-/

namespace Embedder.FileSystem

open Elementwise

variable {fs fs' : FileSystem} {d i : Nat} {s : String}

lemma entries_empty (d : Nat) : empty.entries d = [] := by
  cases d with
  | zero => rfl
  | succ d => simp [empty, entries]

lemma wellFormed_empty : empty.WellFormed := by
  refine ⟨rfl, rfl, fun h => ?_, fun h => ?_, fun {i p} hp hi => ?_, fun h _ => ?_, fun h _ _ => ?_,
    fun d => ?_⟩
  · simp [entries_empty] at h
  · simp [entries_empty] at h
  · cases i with
    | zero => exact absurd rfl hi
    | succ i => simp [empty, parent?] at hp
  · simp [entries_empty] at h
  · simp [entries_empty] at h
  · simp [entries_empty]

/-- What has just been made is a directory if that was to be made. -/
lemma isDirectory_create_self :
    (fs.create d s (.directory none [])).1.isDirectory fs.nodes.size = true := by
  rw [create, isDirectory_attach]
  simp [isDirectory, push, Node.isDirectory]

/-- Directories are made on the way, and the way ends at one. -/
lemma WellFormed.enter (hfs : fs.WellFormed) (hd : fs.isDirectory d = true) {ps : List Part}
    (h : fs.enter d ps = .ok (fs', i)) : fs'.WellFormed ∧ fs'.isDirectory i = true := by
  induction ps generalizing fs d with
  | nil =>
    cases h
    exact ⟨hfs, hd⟩
  | cons part rest ih =>
    unfold FileSystem.enter at h
    cases hp : fs.resolve none true maxLinks d [part] with
    | error e => simp [hp] at h
    | ok p =>
      rw [hp] at h
      cases resolve_within (encloses_isDirectory hfs) hd hp with
      | @missing d' s hd' hs =>
        refine ih (hfs.create hd' hs ?_) isDirectory_create_self h
        rintro p es ⟨⟩
        exact ⟨rfl, rfl⟩
      | @entry d' i' s hd' hs =>
        simp only at h
        split at h
        · exact ih hfs ‹_› h
        · cases h
      | @directory d' hd' =>
        simp only [hd', if_true] at h
        exact ih hfs hd' h

/-- **Items at paths leave a tree a tree.** What is put at a path is new, or it is the contents of a
file. -/
theorem WellFormed.add (hfs : fs.WellFormed) {path : String} {item : Item}
    (h : fs.add path item = .ok fs') : fs'.WellFormed := by
  have hstart := isDirectory_startOf hfs path
  unfold FileSystem.add at h
  cases item with
  | directory =>
    obtain ⟨⟨fs₁, d⟩, he, ⟨⟩⟩ := bind_eq_ok_iff.1 h
    exact (hfs.enter hstart he).1
  | file bytes =>
    obtain ⟨⟨fs₁, d⟩, he, h⟩ := bind_eq_ok_iff.1 h
    obtain ⟨hwf, hdir⟩ := hfs.enter hstart he
    obtain ⟨p, hp, h⟩ := bind_eq_ok_iff.1 h
    cases resolve_within (encloses_isDirectory hwf) hdir hp with
    | missing hd' hs =>
      cases h
      exact hwf.create hd' hs nofun
    | @entry d' i s hd' hs =>
      simp only at h
      split at h
      · cases h
      · cases h
        exact hwf.setBytes i bytes
    | directory hd' =>
      simp only [hd', if_true] at h
      cases h
  | link target =>
    obtain ⟨⟨fs₁, d⟩, he, h⟩ := bind_eq_ok_iff.1 h
    obtain ⟨hwf, hdir⟩ := hfs.enter hstart he
    obtain ⟨p, hp, h⟩ := bind_eq_ok_iff.1 h
    cases resolve_within (encloses_isDirectory hwf) hdir hp with
    | missing hd' hs =>
      cases h
      exact hwf.create hd' hs nofun
    | entry => cases h
    | directory => cases h

end Embedder.FileSystem
