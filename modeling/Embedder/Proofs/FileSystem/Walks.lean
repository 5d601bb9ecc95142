import Embedder.Proofs.FileSystem.Trees

/-!
# Where walks lead

A walk along a path goes from directory to directory, up to the one above or down to one that is named,
and it starts again at a link. So it stays where its steps stay.

* `FileSystem.Place.Within`: a place in one of certain directories;
* `FileSystem.Encloses`: no step of a walk leads out of these directories;
* `FileSystem.resolve_within`: so no walk does;
* `FileSystem.resolveWithin_within`: a confined walk stays in what its directory leads to.
-/

namespace Embedder.FileSystem

open Elementwise

variable {fs : FileSystem} {D : Nat → Prop} {base : Option Nat} {d r : Nat}

/-! ### Places -/

/-- The place is in a directory of which `D` holds, or it is one. -/
inductive Place.Within (fs : FileSystem) (D : Nat → Prop) : Place → Prop
  | entry {d i : Nat} {s : String} (hd : D d) (hs : (s, i) ∈ fs.entries d) :
      Within fs D (.entry d s i)
  | missing {d : Nat} {s : String} (hd : D d) (hs : ∀ i, (s, i) ∉ fs.entries d) :
      Within fs D (.missing d s)
  | directory {d : Nat} (hd : D d) : Within fs D (.directory d)

lemma Place.Within.mono {D' : Nat → Prop} {p : Place} (h : p.Within fs D) (hD : ∀ d, D d → D' d) :
    p.Within fs D' := by
  cases h with
  | entry hd hs => exact .entry (hD _ hd) hs
  | missing hd hs => exact .missing (hD _ hd) hs
  | directory hd => exact .directory (hD _ hd)

inductive Progress.Within (fs : FileSystem) (D : Nat → Prop) : Progress → Prop
  | arrived {p : Place} (h : p.Within fs D) : Within fs D (.arrived p)
  | link {d : Nat} {target : String} {rest : List Part} (hd : D d) :
      Within fs D (.link d target rest)

/-- A walk, confined to `base` if there is one, goes from directories of which `D` holds to such
directories only. -/
structure Encloses (fs : FileSystem) (base : Option Nat) (D : Nat → Prop) : Prop where
  root : base = none → D root
  up : ∀ {d p : Nat}, D d → base ≠ some d → fs.parent? d = some p → D p
  down : ∀ {d i : Nat}, D d → fs.Child d i → fs.isDirectory i = true → D i

/-- A walk that is confined to a directory. -/
lemma encloses_below (hfs : fs.WellFormed) (r : Nat) : Encloses fs (some r) (fs.Below r) where
  root := nofun
  up hd hne hp := hd.parent hfs (fun hdr => hne (by rw [hdr])) hp
  down hd hchild hi := hd.tail ⟨hchild, hi⟩

lemma encloses_isDirectory (hfs : fs.WellFormed) :
    Encloses fs base (fun d => fs.isDirectory d = true) where
  root _ := hfs.isDirectory_root
  up _ _ hp := hfs.isDirectory_parent hp
  down _ _ hi := hi

/-! ### Walks -/

lemma advance_within (h : Encloses fs base D) {follow : Bool} {ps : List Part} {q : Progress}
    (hd : D d) (hq : fs.advance base follow d ps = .ok q) : q.Within fs D := by
  induction ps generalizing d with
  | nil =>
    cases hq
    exact .arrived (.directory hd)
  | cons part rest ih =>
    cases part with
    | here => exact ih hd hq
    | up =>
      simp only [advance] at hq
      by_cases hbase : base = some d
      · rw [if_pos hbase] at hq
        cases hq
      · rw [if_neg hbase] at hq
        cases hp : fs.parent? d with
        | none => simp [hp] at hq
        | some p =>
          simp only [hp] at hq
          exact ih (h.up hd hbase hp) hq
    | name s =>
      unfold advance at hq
      cases hs : (fs.entries d).lookup s with
      | none =>
        simp only [hs] at hq
        split at hq <;> cases hq
        refine .arrived (.missing hd fun i hi => ?_)
        have hne := List.lookup_eq_none_iff.1 hs _ hi
        simp at hne
      | some i =>
        have hmem := mem_of_lookup hs
        simp only [hs] at hq
        split at hq
        · split at hq <;> cases hq
          · exact .arrived (.entry hd hmem)
          · exact .link hd
        · rename_i p es hn
          split at hq
          · cases hq
            exact .arrived (.entry hd hmem)
          · exact ih (h.down hd ⟨s, hmem⟩ (isDirectory_iff.2 ⟨p, es, hn⟩)) hq
        · split at hq <;> cases hq
          exact .arrived (.entry hd hmem)

theorem resolve_within (h : Encloses fs base D) {follow : Bool} {links : Nat} {ps : List Part}
    {p : Place} (hd : D d) (hp : fs.resolve base follow links d ps = .ok p) : p.Within fs D := by
  induction links generalizing d ps with
  | zero =>
    unfold resolve at hp
    cases hq : fs.advance base follow d ps with
    | error e => simp [hq] at hp
    | ok q =>
      rw [hq] at hp
      cases advance_within h hd hq with
      | arrived hplace =>
        cases hp
        exact hplace
      | link => cases hp
  | succ links ih =>
    unfold resolve at hp
    cases hq : fs.advance base follow d ps with
    | error e => simp [hq] at hp
    | ok q =>
      rw [hq] at hp
      cases advance_within h hd hq with
      | arrived hplace =>
        cases hp
        exact hplace
      | link hd =>
        simp only at hp
        split at hp
        · split at hp
          · cases hp
          · rename_i hbase
            exact ih (h.root (by simpa using hbase)) hp
        · exact ih hd hp

/-- **A confined walk stays in what its directory leads to.** -/
theorem resolveWithin_within (hfs : fs.WellFormed) {follow : Bool} {path : String} {p : Place}
    (hp : fs.resolveWithin r follow path = .ok p) : p.Within fs (fs.Below r) := by
  unfold resolveWithin at hp
  split at hp
  · cases hp
  · split at hp
    · cases hp
    · split at hp
      · cases hp
      · exact resolve_within (encloses_below hfs r) .refl hp

/-- A path of the working directory starts at a directory. -/
lemma isDirectory_startOf (hfs : fs.WellFormed) (path : String) :
    fs.isDirectory (fs.startOf path) = true := by
  unfold startOf
  split
  · exact hfs.isDirectory_root
  · exact hfs.isDirectory_working

end Embedder.FileSystem
