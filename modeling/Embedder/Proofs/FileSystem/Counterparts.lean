import Embedder.Proofs.FileSystem.Renaming

/-!
# Counterparts that change alike

* `FileSystem.Counterparts`: a part of a tree of files, and where it is found in another tree;
* `FileSystem.Counterparts.Leads`: what can become of it: it gets nodes that are new in both, and the other
  tree changes nowhere else;
* `FileSystem.Counterparts.setBytes`, `FileSystem.Counterparts.create`, `FileSystem.Counterparts.attach`,
  `FileSystem.Counterparts.detach`, `FileSystem.Counterparts.move`: the changes that lead from
  counterparts to counterparts.
-/

namespace Embedder.FileSystem

variable {d i : Nat} {s : String} {n : Node}

/-- The nodes in `held`, and the nodes that they are in another tree. -/
structure Counterparts where
  map : Nat → Nat
  held : Set Nat
  left : FileSystem
  right : FileSystem
  embeds : Embeds map held left right
  left_wf : left.WellFormed
  right_wf : right.WellFormed

namespace Counterparts

variable {c c₁ c₂ : Counterparts}

/-- What becomes of counterparts: they stay counterparts, and others may come that are new. Nothing else
changes in the second tree. -/
structure Leads (c c₁ : Counterparts) : Prop where
  map_eq : ∀ i ∈ c.held, c₁.map i = c.map i
  held_subset : c.held ⊆ c₁.held
  new : ∀ i ∈ c₁.held, i ∈ c.held ∨ c.right.nodes.size ≤ c₁.map i
  evolves : Evolves (c.map '' c.held) c.right c₁.right

lemma Leads.refl (c : Counterparts) : c.Leads c := ⟨fun _ _ => rfl, subset_rfl, fun _ => .inl, .refl _ _⟩

lemma Leads.trans (h : c.Leads c₁) (h' : c₁.Leads c₂) : c.Leads c₂ where
  map_eq i hi := (h'.map_eq i (h.held_subset hi)).trans (h.map_eq i hi)
  held_subset := h.held_subset.trans h'.held_subset
  new i hi := by
    rcases h'.new i hi with hi | hi
    · rw [h'.map_eq i hi]
      exact h.new i hi
    · exact .inr (Nat.le_trans h.evolves.size_le hi)
  evolves := by
    refine h.evolves.trans h'.evolves ?_
    rintro _ ⟨i, hi, rfl⟩ hlt
    have hold := (h.new i hi).resolve_right (Nat.not_le.2 hlt)
    exact ⟨i, hold, (h.map_eq i hold).symm⟩

/-- A part of a tree, twice. -/
def self {fs : FileSystem} (hfs : fs.WellFormed) {S : Set Nat} (hS : Sealed S fs) : Counterparts :=
  ⟨id, S, fs, fs, hS.embeds, hfs, hfs⟩

/-! ### Changes in both trees -/

/-- The nodes change, but none is new. -/
def change (c : Counterparts) {fs fs' : FileSystem} (h : Embeds c.map c.held fs fs') (hfs : fs.WellFormed)
    (hfs' : fs'.WellFormed) : Counterparts := ⟨c.map, c.held, fs, fs', h, hfs, hfs'⟩

lemma leads_change {fs fs' : FileSystem} (h : Embeds c.map c.held fs fs') (hfs : fs.WellFormed)
    (hfs' : fs'.WellFormed) (he : Evolves (c.map '' c.held) c.right fs') :
    c.Leads (c.change h hfs hfs') :=
  ⟨fun _ _ => rfl, subset_rfl, fun _ => .inl, he⟩

/-- The contents of a file change. -/
def setBytes (c : Counterparts) (hi : i ∈ c.held) (bytes : List UInt8) : Counterparts :=
  c.change (c.embeds.setBytes hi bytes) (c.left_wf.setBytes i bytes) (c.right_wf.setBytes (c.map i) bytes)

lemma leads_setBytes (hi : i ∈ c.held) (bytes : List UInt8) : c.Leads (c.setBytes hi bytes) :=
  leads_change _ _ _ (.setBytes (Set.mem_image_of_mem _ hi) bytes)

/-- A node loses a name. -/
def detach (c : Counterparts) (hd : d ∈ c.held) (hs : (s, i) ∈ c.left.entries d) : Counterparts :=
  c.change (c.embeds.detach hd (isDirectory_of_mem hs) (c.embeds.isSealed.closed hd ⟨s, hs⟩) s)
    (c.left_wf.detach hs) (c.right_wf.detach (c.embeds.mem_entries hd hs))

lemma leads_detach (hd : d ∈ c.held) (hs : (s, i) ∈ c.left.entries d) : c.Leads (c.detach hd hs) :=
  leads_change _ _ _ <| .detach (Set.mem_image_of_mem _ hd)
    (Set.mem_image_of_mem _ (c.embeds.isSealed.closed hd ⟨s, hs⟩)) s

/-- A node can get the name. -/
structure Takes (c : Counterparts) (d : Nat) (s : String) (i : Nat) : Prop where
  directory_held : d ∈ c.held
  isDirectory : c.left.isDirectory d = true
  name_free : ∀ j, (s, j) ∉ c.left.entries d
  node_held : i ∈ c.held
  node_free : c.left.isDirectory i = true → c.left.parent? i = none

/-- A node gets a name. -/
def attach (c : Counterparts) (h : c.Takes d s i) : Counterparts :=
  c.change (c.embeds.attach h.directory_held h.isDirectory h.node_held s)
    (c.left_wf.attach h.isDirectory h.name_free (c.embeds.isSealed.lt_size h.node_held) h.node_free) <| by
      refine c.right_wf.attach ?_ (c.embeds.not_mem_entries h.directory_held h.name_free)
        (c.embeds.map_lt h.node_held) fun hdir => ?_
      · rw [c.embeds.isDirectory_eq h.directory_held]
        exact h.isDirectory
      · rw [c.embeds.isDirectory_eq h.node_held] at hdir
        have hsame := c.embeds.isSome_parent?_eq h.node_held
        rw [h.node_free hdir] at hsame
        exact Option.isNone_iff_eq_none.1 (Option.isSome_eq_false_iff.1 hsame)

lemma leads_attach (h : c.Takes d s i) : c.Leads (c.attach h) :=
  leads_change _ _ _ <| .attach (Set.mem_image_of_mem _ h.directory_held)
    (Set.mem_image_of_mem _ h.node_held) s

/-- A node that has lost a name can get another one. -/
lemma takes_detach {d' : Nat} {s' : String} (hd : d ∈ c.held) (hs : (s, i) ∈ c.left.entries d)
    (hd' : d' ∈ c.held) (hdir : c.left.isDirectory d' = true) (hfree : ∀ j, (s', j) ∉ c.left.entries d') :
    (c.detach hd hs).Takes d' s' i where
  directory_held := hd'
  isDirectory := isDirectory_detach.trans hdir
  name_free j hj := hfree j ((mem_entries_detach (isDirectory_of_mem hs)).1 hj).1
  node_held := c.embeds.isSealed.closed hd ⟨s, hs⟩
  node_free hi := by
    rw [detach, change, isDirectory_detach] at hi
    rw [detach, change, parent?_detach, if_pos ⟨rfl, hi⟩]

/-- A node gets another name for the one that it has. -/
def move (c : Counterparts) {d' : Nat} {s' : String} (hd : d ∈ c.held) (hs : (s, i) ∈ c.left.entries d)
    (hd' : d' ∈ c.held) (hdir : c.left.isDirectory d' = true)
    (hfree : ∀ j, (s', j) ∉ c.left.entries d') : Counterparts :=
  (c.detach hd hs).attach (takes_detach hd hs hd' hdir hfree)

lemma leads_move {d' : Nat} {s' : String} (hd : d ∈ c.held) (hs : (s, i) ∈ c.left.entries d)
    (hd' : d' ∈ c.held) (hdir : c.left.isDirectory d' = true)
    (hfree : ∀ j, (s', j) ∉ c.left.entries d') : c.Leads (c.move hd hs hd' hdir hfree) :=
  (leads_detach hd hs).trans (leads_attach _)

/-- A node is new in both trees. -/
def push (c : Counterparts) (hn : n.IsBare) : Counterparts where
  map := Function.update c.map c.left.nodes.size c.right.nodes.size
  held := insert c.left.nodes.size c.held
  left := c.left.push n
  right := c.right.push n
  embeds := c.embeds.push c.left_wf c.right_wf hn
  left_wf := c.left_wf.push hn
  right_wf := c.right_wf.push hn

lemma leads_push (hn : n.IsBare) : c.Leads (c.push hn) where
  map_eq i hi := Function.update_of_ne (Nat.ne_of_lt (c.embeds.isSealed.lt_size hi)) _ _
  held_subset := Set.subset_insert _ _
  new i hi := by
    rcases Set.mem_insert_iff.1 hi with rfl | hi
    · exact .inr (by simp [push])
    · exact .inl hi
  evolves := .push _ n

lemma takes_push (hn : n.IsBare) (hd : d ∈ c.held) (hdir : c.left.isDirectory d = true)
    (hs : ∀ j, (s, j) ∉ c.left.entries d) : (c.push hn).Takes d s c.left.nodes.size where
  directory_held := Set.mem_insert_of_mem _ hd
  isDirectory := (isDirectory_push (lt_size_of_isDirectory hdir)).trans hdir
  name_free j hj := hs j (by rwa [push, entries_push hn] at hj)
  node_held := Set.mem_insert _ _
  node_free _ := by
    rw [push, parent?_push hn]
    simp [parent?]

/-- A node is new in both trees, under a name. -/
def create (c : Counterparts) (hn : n.IsBare) (hd : d ∈ c.held) (hdir : c.left.isDirectory d = true)
    (hs : ∀ j, (s, j) ∉ c.left.entries d) : Counterparts :=
  (c.push hn).attach (takes_push hn hd hdir hs)

section create

variable (hn : n.IsBare) (hd : d ∈ c.held) (hdir : c.left.isDirectory d = true)
  (hs : ∀ j, (s, j) ∉ c.left.entries d)

lemma leads_create : c.Leads (c.create hn hd hdir hs) := (leads_push hn).trans (leads_attach _)

lemma map_create_new : (c.create hn hd hdir hs).map c.left.nodes.size = c.right.nodes.size :=
  Function.update_self ..

lemma new_mem_create : c.left.nodes.size ∈ (c.create hn hd hdir hs).held := Set.mem_insert _ _

lemma right_create : (c.create hn hd hdir hs).right = (c.right.create (c.map d) s n).1 := by
  have hmap : (c.push hn).map d = c.map d := (leads_push hn).map_eq d hd
  have hnew : (c.push hn).map c.left.nodes.size = c.right.nodes.size := Function.update_self ..
  change (c.push hn).right.attach ((c.push hn).map d) s ((c.push hn).map c.left.nodes.size) = _
  rw [hmap, hnew]
  rfl

end create

/-! ### Changes elsewhere -/

/-- The second tree changes where the part is not. -/
def withRight (c : Counterparts) {fs : FileSystem} (hfs : fs.WellFormed) {S : Set Nat}
    (he : Evolves S c.right fs) (hS : ∀ i ∈ c.held, c.map i ∉ S) : Counterparts :=
  { c with right := fs, embeds := c.embeds.of_evolves he hS, right_wf := hfs }

/-- A part of the part. -/
def restrict (c : Counterparts) {S : Set Nat} (hS : S ⊆ c.held) (hs : Sealed S c.left) : Counterparts :=
  { c with held := S, embeds := c.embeds.restrict hS hs }

end Counterparts

end Embedder.FileSystem
