import Embedder.FileSystem.Changes
import Embedder.Proofs.Lists
import Mathlib.Data.Finset.Card
import Mathlib.Data.Nat.Find
import Mathlib.Data.Set.Basic
import Mathlib.Logic.Relation
import Mathlib.Tactic.Lemma

/-!
# Trees of directories

* `FileSystem.WellFormed`: a directory is named in one directory only, which is the one above it, and
  the names in a directory are distinct;
* `FileSystem.Child`, `FileSystem.Below`: what a directory leads to;
* `FileSystem.isAbove_iff`: what the way up from a directory leads to;
* `FileSystem.entries_setEntries`, `FileSystem.parent?_setParent`: what a change of one node changes;
* `FileSystem.WellFormed.push`, `FileSystem.WellFormed.attach`, `FileSystem.WellFormed.detach`: a tree
  stays one while nodes are made and get and lose names.
-/

namespace Embedder

/-- A node that has nothing in it and is below nothing. -/
def Node.IsBare (n : Node) : Prop := ∀ p es, n = .directory p es → p = none ∧ es = []

namespace FileSystem

open Elementwise

variable {fs : FileSystem} {d e i j p r : Nat} {s t : String}

/-! ### Directories and what is in them -/

/-- A directory has the node under some name. -/
def Child (fs : FileSystem) (d i : Nat) : Prop := ∃ s, (s, i) ∈ fs.entries d

/-- A directory leads to another one by names. -/
def Below (fs : FileSystem) : Nat → Nat → Prop :=
  Relation.ReflTransGen fun d i => fs.Child d i ∧ fs.isDirectory i = true

lemma isDirectory_iff : fs.isDirectory d = true ↔ ∃ p es, fs.nodes[d]? = some (.directory p es) := by
  unfold isDirectory
  rcases fs.nodes[d]? with _ | _ | _ | _ <;> simp [Node.isDirectory]

lemma isDirectory_of_mem (h : (s, i) ∈ fs.entries d) : fs.isDirectory d = true := by
  unfold entries at h
  unfold isDirectory
  rcases hd : fs.nodes[d]? with _ | _ | _ | _ <;> simp [hd, Node.entries] at h
  rfl

lemma isDirectory_of_parent? (h : fs.parent? i = some p) : fs.isDirectory i = true := by
  unfold parent? at h
  unfold isDirectory
  rcases hi : fs.nodes[i]? with _ | _ | _ | _ <;> simp [hi, Node.parent?] at h
  rfl

lemma lt_size_of_isDirectory (h : fs.isDirectory d = true) : d < fs.nodes.size := by
  obtain ⟨p, es, hd⟩ := isDirectory_iff.1 h
  exact (Array.getElem?_eq_some_iff.1 hd).1

lemma openDirectory_eq_ok_iff {path : String} :
    fs.openDirectory path = .ok d ↔
      ∃ p, fs.locate path = .ok p ∧ p.node? = some d ∧ fs.isDirectory d = true := by
  unfold openDirectory canonicalize
  cases fs.locate path with
  | error e => simp
  | ok p =>
    cases hi : p.node? with
    | none => simp [hi]
    | some i =>
      simp only [hi, Except.ok.injEq, exists_eq_left', Option.some.injEq]
      cases hdir : fs.isDirectory i <;> simp <;> rintro rfl <;> exact hdir

/-! ### Trees -/

/-- Names are distinct and stand for nodes. A directory has one name, in the directory above it; the root
has none, and a directory that was taken away has none and nothing above it. -/
structure WellFormed (fs : FileSystem) : Prop where
  parent_root : fs.parent? root = some root
  isDirectory_working : fs.isDirectory fs.working = true
  lt_size : ∀ {d i : Nat} {s : String}, (s, i) ∈ fs.entries d → i < fs.nodes.size
  root_unnamed : ∀ {d : Nat} {s : String}, (s, root) ∉ fs.entries d
  child_of_parent : ∀ {i p : Nat}, fs.parent? i = some p → i ≠ root → fs.Child p i
  parent_eq : ∀ {d i : Nat} {s : String}, (s, i) ∈ fs.entries d → fs.isDirectory i = true →
    fs.parent? i = some d
  name_eq : ∀ {d i : Nat} {s t : String}, (s, i) ∈ fs.entries d → (t, i) ∈ fs.entries d →
    fs.isDirectory i = true → s = t
  names_nodup : ∀ d, ((fs.entries d).map Prod.fst).Nodup

namespace WellFormed

variable (hfs : fs.WellFormed)
include hfs

lemma isDirectory_root : fs.isDirectory root = true := isDirectory_of_parent? hfs.parent_root

lemma isDirectory_parent (hp : fs.parent? i = some p) : fs.isDirectory p = true := by
  by_cases hi : i = root
  · subst hi
    cases hfs.parent_root.symm.trans hp
    exact hfs.isDirectory_root
  · obtain ⟨s, hs⟩ := hfs.child_of_parent hp hi
    exact isDirectory_of_mem hs

lemma ne_root (hs : (s, i) ∈ fs.entries d) : i ≠ root := by
  rintro rfl
  exact hfs.root_unnamed hs

/-- A name stands for one node. -/
lemma node_eq (hs : (s, i) ∈ fs.entries d) (hs' : (s, j) ∈ fs.entries d) : i = j :=
  Option.some.inj <| (lookup_eq_some_of_nodup (hfs.names_nodup d) hs).symm.trans
    (lookup_eq_some_of_nodup (hfs.names_nodup d) hs')

end WellFormed

/-- The directory above one that another leads to is led to as well. -/
lemma Below.parent (h : fs.Below r d) (hfs : fs.WellFormed) (hd : d ≠ r)
    (hp : fs.parent? d = some p) : fs.Below r p := by
  cases h with
  | refl => exact absurd rfl hd
  | @tail b _ hb hi =>
    obtain ⟨⟨s, hs⟩, hdir⟩ := hi
    cases (hfs.parent_eq hs hdir).symm.trans hp
    exact hb

/-! ### Ways up -/

/-- The way up from a directory leads to another one. -/
def Above (fs : FileSystem) : Nat → Nat → Prop :=
  Relation.ReflTransGen fun d p => fs.parent? d = some p

/-- The directory that so many steps up lead to. -/
def up (fs : FileSystem) : (steps : Nat) → Nat → Option Nat
  | 0, d => some d
  | steps + 1, d => (fs.parent? d).bind (up fs steps)

lemma up_add (a b d : Nat) : fs.up (a + b) d = (fs.up a d).bind (fs.up b) := by
  induction a generalizing d with
  | zero => simp [up]
  | succ a ih =>
    rw [Nat.succ_add, up, up, Option.bind_assoc]
    exact congrArg _ (funext ih)

lemma above_iff_up : fs.Above d i ↔ ∃ k, fs.up k d = some i := by
  constructor
  · intro h
    induction h using Relation.ReflTransGen.head_induction_on with
    | refl => exact ⟨0, rfl⟩
    | head hp _ ih =>
      obtain ⟨k, hk⟩ := ih
      exact ⟨k + 1, by rw [up, hp, Option.bind_some, hk]⟩
  · rintro ⟨k, hk⟩
    induction k generalizing d with
    | zero =>
      cases hk
      exact .refl
    | succ k ih =>
      obtain ⟨p, hp, hi⟩ := Option.bind_eq_some_iff.1 hk
      exact .head hp (ih hi)

/-- The shortest way up comes to no directory twice. -/
lemma exists_up_le (h : fs.Above d i) : ∃ k ≤ fs.nodes.size, fs.up k d = some i := by
  classical
  have hex := above_iff_up.1 h
  have hfind := Nat.find_spec hex
  have hmin : ∀ a < Nat.find hex, fs.up a d ≠ some i := fun _ => Nat.find_min hex
  generalize Nat.find hex = k at hfind hmin
  have hdir : ∀ a < k, ∃ e, fs.up a d = some e ∧ e < fs.nodes.size := by
    intro a ha
    obtain ⟨b, rfl⟩ : ∃ b, k = a + (1 + b) := ⟨k - a - 1, by omega⟩
    rw [up_add] at hfind
    obtain ⟨e, he, hnext⟩ := Option.bind_eq_some_iff.1 hfind
    rw [up_add] at hnext
    obtain ⟨p, hp, -⟩ := Option.bind_eq_some_iff.1 hnext
    obtain ⟨q, hq, -⟩ := Option.bind_eq_some_iff.1 hp
    exact ⟨e, he, lt_size_of_isDirectory (isDirectory_of_parent? hq)⟩
  -- The way could be cut short between two visits of one directory.
  have hshort : ∀ a b, a < b → b < k → fs.up a d ≠ fs.up b d := by
    intro a b hab hb he
    obtain ⟨c, rfl⟩ : ∃ c, k = b + c := ⟨k - b, by omega⟩
    rw [up_add, ← he, ← up_add] at hfind
    exact hmin _ (by omega) hfind
  have hinj : Set.InjOn (fun a => (fs.up a d).getD root) (Finset.range k) := by
    intro a ha b hb hab
    rw [Finset.coe_range, Set.mem_Iio] at ha hb
    obtain ⟨x, hx, -⟩ := hdir a ha
    obtain ⟨y, hy, -⟩ := hdir b hb
    have hxy : x = y := by simpa [hx, hy] using hab
    have he : fs.up a d = fs.up b d := by rw [hx, hy, hxy]
    rcases Nat.lt_trichotomy a b with hlt | heq | hgt
    · exact absurd he (hshort a b hlt hb)
    · exact heq
    · exact absurd he.symm (hshort b a hgt ha)
  have hmaps : Set.MapsTo (fun a => (fs.up a d).getD root) (Finset.range k)
      (Finset.range fs.nodes.size) := by
    intro a ha
    obtain ⟨x, hx, hlt⟩ := hdir a (Finset.mem_range.1 ha)
    simpa [hx] using hlt
  have hcard := Finset.card_le_card_of_injOn _ hmaps hinj
  rw [Finset.card_range, Finset.card_range] at hcard
  exact ⟨k, hcard, hfind⟩

lemma isAbove_iff_up {rounds : Nat} :
    fs.isAbove i rounds d = true ↔ ∃ k ≤ rounds, fs.up k d = some i := by
  induction rounds generalizing d with
  | zero => simp [isAbove, up]
  | succ rounds ih =>
    rw [isAbove, Bool.or_eq_true, beq_iff_eq]
    constructor
    · rintro (rfl | h)
      · exact ⟨0, Nat.zero_le _, rfl⟩
      · cases hp : fs.parent? d with
        | none => simp [hp] at h
        | some p =>
          rw [hp] at h
          obtain ⟨k, hk, hup⟩ := ih.1 h
          exact ⟨k + 1, Nat.succ_le_succ hk, by rw [up, hp, Option.bind_some, hup]⟩
    · rintro ⟨k, hk, hup⟩
      cases k with
      | zero =>
        cases hup
        exact .inl rfl
      | succ k =>
        obtain ⟨p, hp, hup⟩ := Option.bind_eq_some_iff.1 hup
        rw [hp]
        exact .inr (ih.2 ⟨k, Nat.le_of_succ_le_succ hk, hup⟩)

/-- **As many steps as there are nodes are enough.** -/
theorem isAbove_iff : fs.isAbove i fs.nodes.size d = true ↔ fs.Above d i := by
  rw [isAbove_iff_up]
  exact ⟨fun ⟨k, _, hk⟩ => above_iff_up.2 ⟨k, hk⟩, exists_up_le⟩

/-- The way up to a directory comes through what it leads to only. -/
lemma Above.mem (h : fs.Above d i) (hfs : fs.WellFormed) {S : Set Nat}
    (hS : ∀ {d i}, d ∈ S → fs.Child d i → i ∈ S) (hi : i ∈ S) : d ∈ S := by
  induction h using Relation.ReflTransGen.head_induction_on with
  | refl => exact hi
  | @head d p hp _ ih =>
    by_cases hd : d = root
    · subst hd
      cases hfs.parent_root.symm.trans hp
      exact ih
    · exact hS ih (hfs.child_of_parent hp hd)

/-! ### Changes of one node -/

section changes

variable {α : Type} {n : Node} {change : List (String × Nat) → List (String × Nat)}
  {parent : Option Nat} {bytes : List UInt8}

/-- What a change leaves as it is in a node. -/
lemma elim_modify {nodes : Array Node} {f : Node → Node} {v : Node → α} (hv : ∀ n, v (f n) = v n)
    (x : α) (i j : Nat) : ((nodes.modify i f)[j]?).elim x v = (nodes[j]?).elim x v := by
  rw [Array.getElem?_modify]
  split
  · cases nodes[j]? with
    | none => rfl
    | some n => exact hv n
  · rfl

/-- What a new node has as little as no node. -/
lemma elim_push {nodes : Array Node} {v : Node → α} {x : α} (hv : v n = x) (j : Nat) :
    ((nodes.push n)[j]?).elim x v = (nodes[j]?).elim x v := by
  rw [Array.getElem?_push]
  by_cases hj : j = nodes.size
  · simp [hj, hv]
  · simp [hj]

@[simp] lemma size_push : (fs.push n).nodes.size = fs.nodes.size + 1 := by simp [push]

lemma entries_push (hn : n.IsBare) : (fs.push n).entries d = fs.entries d :=
  elim_push (by cases n with
    | directory p es => exact (hn p es rfl).2
    | file | link => rfl) d

lemma parent?_push (hn : n.IsBare) : (fs.push n).parent? d = fs.parent? d :=
  elim_push (by cases n with
    | directory p es => exact (hn p es rfl).1
    | file | link => rfl) d

lemma isDirectory_push (hd : d < fs.nodes.size) : (fs.push n).isDirectory d = fs.isDirectory d := by
  simp [isDirectory, push, Array.getElem?_push, Nat.ne_of_lt hd]

@[simp] lemma size_setBytes : (fs.setBytes i bytes).nodes.size = fs.nodes.size := by simp [setBytes]

@[simp] lemma entries_setBytes : (fs.setBytes i bytes).entries d = fs.entries d :=
  elim_modify (by rintro (_ | _ | _) <;> rfl) ..

@[simp] lemma parent?_setBytes : (fs.setBytes i bytes).parent? d = fs.parent? d :=
  elim_modify (by rintro (_ | _ | _) <;> rfl) ..

@[simp] lemma isDirectory_setBytes : (fs.setBytes i bytes).isDirectory d = fs.isDirectory d :=
  elim_modify (by rintro (_ | _ | _) <;> rfl) ..

@[simp] lemma size_setEntries : (fs.setEntries d change).nodes.size = fs.nodes.size := by
  simp [setEntries]

lemma entries_setEntries (hd : fs.isDirectory d = true) :
    (fs.setEntries d change).entries e = if e = d then change (fs.entries d) else fs.entries e := by
  obtain ⟨p, es, hnode⟩ := isDirectory_iff.1 hd
  unfold entries setEntries
  rw [Array.getElem?_modify]
  by_cases he : e = d
  · subst he
    simp [hnode, Node.entries]
  · simp [he, Ne.symm he]

@[simp] lemma parent?_setEntries : (fs.setEntries d change).parent? e = fs.parent? e :=
  elim_modify (by rintro (_ | _ | _) <;> rfl) ..

@[simp] lemma isDirectory_setEntries : (fs.setEntries d change).isDirectory e = fs.isDirectory e :=
  elim_modify (by rintro (_ | _ | _) <;> rfl) ..

@[simp] lemma size_setParent : (fs.setParent i parent).nodes.size = fs.nodes.size := by
  simp [setParent]

@[simp] lemma entries_setParent : (fs.setParent i parent).entries d = fs.entries d :=
  elim_modify (by rintro (_ | _ | _) <;> rfl) ..

lemma parent?_setParent : (fs.setParent i parent).parent? j =
    if j = i ∧ fs.isDirectory i = true then parent else fs.parent? j := by
  unfold parent? setParent isDirectory
  rw [Array.getElem?_modify]
  by_cases hj : j = i
  · subst hj
    rcases fs.nodes[j]? with _ | _ | _ | _ <;> simp [Node.isDirectory, Node.parent?]
  · simp [hj, Ne.symm hj]

@[simp] lemma isDirectory_setParent : (fs.setParent i parent).isDirectory d = fs.isDirectory d :=
  elim_modify (by rintro (_ | _ | _) <;> rfl) ..

end changes

/-! ### Names that come and go -/

@[simp] lemma size_attach : (fs.attach d s i).nodes.size = fs.nodes.size := by simp [attach]

@[simp] lemma size_detach : (fs.detach d s i).nodes.size = fs.nodes.size := by simp [detach]

@[simp] lemma isDirectory_attach : (fs.attach d s i).isDirectory e = fs.isDirectory e := by simp [attach]

@[simp] lemma isDirectory_detach : (fs.detach d s i).isDirectory e = fs.isDirectory e := by simp [detach]

lemma mem_entries_attach (hd : fs.isDirectory d = true) :
    (t, j) ∈ (fs.attach d s i).entries e ↔ (t, j) ∈ fs.entries e ∨ e = d ∧ t = s ∧ j = i := by
  rw [attach, entries_setParent, entries_setEntries hd]
  by_cases he : e = d
  · subst he
    simp
  · simp [he]

lemma mem_entries_detach (hd : fs.isDirectory d = true) :
    (t, j) ∈ (fs.detach d s i).entries e ↔ (t, j) ∈ fs.entries e ∧ ¬ (e = d ∧ t = s) := by
  rw [detach, entries_setParent, entries_setEntries hd]
  by_cases he : e = d
  · subst he
    simp [List.mem_filter]
  · simp [he]

lemma parent?_attach : (fs.attach d s i).parent? j =
    if j = i ∧ fs.isDirectory i = true then some d else fs.parent? j := by
  simp [attach, parent?_setParent]

lemma parent?_detach : (fs.detach d s i).parent? j =
    if j = i ∧ fs.isDirectory i = true then none else fs.parent? j := by
  simp [detach, parent?_setParent]

namespace WellFormed

lemma setBytes (hfs : fs.WellFormed) (i : Nat) (bytes : List UInt8) :
    (fs.setBytes i bytes).WellFormed where
  parent_root := by simpa using hfs.parent_root
  isDirectory_working := isDirectory_setBytes.trans hfs.isDirectory_working
  lt_size hs := by
    rw [entries_setBytes] at hs
    simpa using hfs.lt_size hs
  root_unnamed hs := by
    rw [entries_setBytes] at hs
    exact hfs.root_unnamed hs
  child_of_parent hp hi := by
    rw [parent?_setBytes] at hp
    simpa [Child] using hfs.child_of_parent hp hi
  parent_eq hs hi := by
    rw [entries_setBytes] at hs
    rw [isDirectory_setBytes] at hi
    simpa using hfs.parent_eq hs hi
  name_eq hs ht hi := by
    rw [entries_setBytes] at hs ht
    rw [isDirectory_setBytes] at hi
    exact hfs.name_eq hs ht hi
  names_nodup d := by simpa using hfs.names_nodup d

/-- A new node has no name. -/
theorem push (hfs : fs.WellFormed) {n : Node} (hn : n.IsBare) : (fs.push n).WellFormed where
  parent_root := (parent?_push hn).trans hfs.parent_root
  isDirectory_working :=
    (isDirectory_push (lt_size_of_isDirectory hfs.isDirectory_working)).trans hfs.isDirectory_working
  lt_size hs := by
    rw [entries_push hn] at hs
    rw [size_push]
    exact Nat.lt_succ_of_lt (hfs.lt_size hs)
  root_unnamed := by
    intro d s hs
    rw [entries_push hn] at hs
    exact hfs.root_unnamed hs
  child_of_parent hp hi := by
    rw [parent?_push hn] at hp
    obtain ⟨s, hs⟩ := hfs.child_of_parent hp hi
    exact ⟨s, by rwa [entries_push hn]⟩
  parent_eq hs hi := by
    rw [entries_push hn] at hs
    rw [isDirectory_push (hfs.lt_size hs)] at hi
    exact (parent?_push hn).trans (hfs.parent_eq hs hi)
  name_eq hs ht hi := by
    rw [entries_push hn] at hs ht
    rw [isDirectory_push (hfs.lt_size hs)] at hi
    exact hfs.name_eq hs ht hi
  names_nodup d := by
    rw [entries_push hn]
    exact hfs.names_nodup d

/-- **A node gets a name** that is free. A directory must not have another one. -/
theorem attach (hfs : fs.WellFormed) (hd : fs.isDirectory d = true) (hs : ∀ j, (s, j) ∉ fs.entries d)
    (hi : i < fs.nodes.size) (hfree : fs.isDirectory i = true → fs.parent? i = none) :
    (fs.attach d s i).WellFormed := by
  have hroot : i ≠ root := by
    rintro rfl
    exact nomatch hfs.parent_root.symm.trans (hfree hfs.isDirectory_root)
  have hold : ∀ {j p}, fs.parent? j = some p → (fs.attach d s i).parent? j = some p := by
    intro j p hp
    rw [parent?_attach, if_neg]
    · exact hp
    · rintro ⟨rfl, hdir⟩
      cases hp.symm.trans (hfree hdir)
  refine ⟨hold hfs.parent_root, ?_, fun ht => ?_, fun ht => ?_, fun hp hj => ?_, fun ht hj => ?_,
    fun ht hu hj => ?_, fun e => ?_⟩
  · rw [isDirectory_attach]
    exact hfs.isDirectory_working
  · rw [size_attach]
    rcases (mem_entries_attach hd).1 ht with ht | ⟨-, -, rfl⟩
    · exact hfs.lt_size ht
    · exact hi
  · rcases (mem_entries_attach hd).1 ht with ht | ⟨-, -, hroot'⟩
    · exact hfs.root_unnamed ht
    · exact hroot hroot'.symm
  · rw [parent?_attach] at hp
    split at hp
    · rename_i hji
      cases hp
      exact ⟨s, (mem_entries_attach hd).2 (.inr ⟨rfl, rfl, hji.1⟩)⟩
    · obtain ⟨t, ht⟩ := hfs.child_of_parent hp hj
      exact ⟨t, (mem_entries_attach hd).2 (.inl ht)⟩
  · rw [isDirectory_attach] at hj
    rcases (mem_entries_attach hd).1 ht with ht | ⟨rfl, -, rfl⟩
    · exact hold (hfs.parent_eq ht hj)
    · rw [parent?_attach, if_pos ⟨rfl, hj⟩]
  · rw [isDirectory_attach] at hj
    have hnot : ∀ {e u}, (u, i) ∈ fs.entries e → fs.isDirectory i = true → False := fun hu hdir =>
      nomatch (hfs.parent_eq hu hdir).symm.trans (hfree hdir)
    rcases (mem_entries_attach hd).1 ht with ht' | ⟨-, rfl, rfl⟩
    · rcases (mem_entries_attach hd).1 hu with hu | ⟨-, -, rfl⟩
      · exact hfs.name_eq ht' hu hj
      · exact (hnot ht' hj).elim
    · rcases (mem_entries_attach hd).1 hu with hu | ⟨-, rfl, -⟩
      · exact (hnot hu hj).elim
      · rfl
  · rw [FileSystem.attach, entries_setParent, entries_setEntries hd]
    split
    · exact nodup_keys_append (hfs.names_nodup d) hs _
    · exact hfs.names_nodup e

/-- **A node loses a name.** What is below it stays there. -/
theorem detach (hfs : fs.WellFormed) (hs : (s, i) ∈ fs.entries d) : (fs.detach d s i).WellFormed := by
  have hd := isDirectory_of_mem hs
  have hparent : ∀ {j p}, (fs.detach d s i).parent? j = some p →
      fs.parent? j = some p ∧ (j = i → fs.isDirectory i = false) := by
    intro j p hp
    rw [parent?_detach] at hp
    split at hp
    · cases hp
    · rename_i hne
      exact ⟨hp, fun hji => Bool.eq_false_iff.2 fun hdir => hne ⟨hji, hdir⟩⟩
  refine ⟨?_, ?_, fun ht => ?_, fun ht => ?_, fun hp hj => ?_, fun ht hj => ?_,
    fun ht hu hj => ?_, fun e => ?_⟩
  · rw [parent?_detach, if_neg]
    · exact hfs.parent_root
    · exact fun h => hfs.ne_root hs h.1.symm
  · rw [isDirectory_detach]
    exact hfs.isDirectory_working
  · rw [size_detach]
    exact hfs.lt_size ((mem_entries_detach hd).1 ht).1
  · exact hfs.root_unnamed ((mem_entries_detach hd).1 ht).1
  · obtain ⟨hbefore, hleaf⟩ := hparent hp
    obtain ⟨t, ht⟩ := hfs.child_of_parent hbefore hj
    refine ⟨t, (mem_entries_detach hd).2 ⟨ht, ?_⟩⟩
    rintro ⟨rfl, rfl⟩
    cases hfs.node_eq ht hs
    cases (isDirectory_of_parent? hbefore).symm.trans (hleaf rfl)
  · rw [isDirectory_detach] at hj
    obtain ⟨hold, hne⟩ := (mem_entries_detach hd).1 ht
    rw [parent?_detach, if_neg]
    · exact hfs.parent_eq hold hj
    · rintro ⟨rfl, -⟩
      cases (hfs.parent_eq hold hj).symm.trans (hfs.parent_eq hs hj)
      exact hne ⟨rfl, hfs.name_eq hold hs hj⟩
  · rw [isDirectory_detach] at hj
    exact hfs.name_eq ((mem_entries_detach hd).1 ht).1 ((mem_entries_detach hd).1 hu).1 hj
  · rw [FileSystem.detach, entries_setParent, entries_setEntries hd]
    split
    · exact (hfs.names_nodup d).sublist (List.filter_sublist.map _)
    · exact hfs.names_nodup e

/-- **A new node gets a name.** -/
theorem create (hfs : fs.WellFormed) {n : Node} (hd : fs.isDirectory d = true)
    (hs : ∀ j, (s, j) ∉ fs.entries d) (hn : n.IsBare) : (fs.create d s n).1.WellFormed := by
  refine (hfs.push hn).attach ?_ (fun j => ?_) (by simp) fun _ => ?_
  · rwa [isDirectory_push (lt_size_of_isDirectory hd)]
  · rw [entries_push hn]
    exact hs j
  · rw [parent?_push hn]
    simp [parent?]

end WellFormed

end FileSystem

end Embedder
