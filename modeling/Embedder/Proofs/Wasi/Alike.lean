import Embedder.Proofs.Wasi.Twins

/-!
# Steps that twins make alike

* `Calling.Alike`: two computations, one for each of twins, end alike;
* `Calling.Alike.bind`, `Calling.Alike.onMemory_bind`: one step after another;
* `Calling.Alike.descriptor_bind`, `Calling.Alike.locate_bind`, `Calling.Alike.setFiles` and others: what
  functions of the system interface do with their descriptors and the files.
-/

namespace Embedder.Wasi

open FileSystem (Counterparts Place)

/-- A descriptor in both systems. -/
structure Twins.Shares (t : Twins) (d d' : Descriptor) : Prop where
  eq : d' = d.rename t.map
  mem : ∀ i, d.node? = some i → i ∈ t.held

lemma Twins.Shares.leads {t t₁ : Twins} {d d' : Descriptor} (h : t.Shares d d') (ht : t.Leads t₁) :
    t₁.Shares d d' where
  eq := h.eq.trans (Descriptor.rename_congr fun i hi => (ht.files.map_eq i (h.mem i hi)).symm)
  mem i hi := ht.files.held_subset (h.mem i hi)

namespace Calling

variable {α β : Type}

/-- Two computations, one for each of twins, end alike. `Q` relates their values. -/
inductive Alike (t : Twins) (m : Memory) (x y : Calling α) (Q : Twins → α → α → Prop) : Prop
  | ok {t₁ : Twins} {m₁ : Memory} {a b : α} (h : t.Leads t₁)
      (hx : x.ends (t.caller m) = (.ok a, t₁.caller m₁))
      (hy : y.ends (t.twin m) = (.ok b, t₁.twin m₁)) (hq : Q t₁ a b)
  | error {t₁ : Twins} {m₁ : Memory} {e : Ending} (h : t.Leads t₁)
      (hx : x.ends (t.caller m) = (.error e, t₁.caller m₁))
      (hy : y.ends (t.twin m) = (.error e, t₁.twin m₁))

/-- They end with the same value. -/
abbrev Same (t : Twins) (m : Memory) (x y : Calling α) : Prop := Alike t m x y fun _ a b => a = b

namespace Alike

variable {t : Twins} {m : Memory} {x y : Calling α} {k l : α → Calling β}
  {P : Twins → α → α → Prop} {Q : Twins → β → β → Prop}

/-! ### Steps of computations -/

lemma pure {a b : α} (h : P t a b) : Alike t m (Pure.pure a) (Pure.pure b) P :=
  .ok (.refl t) rfl rfl h

lemma fail (e : Errno) : Alike t m (Calling.fail e) (Calling.fail e) P := .error (.refl t) rfl rfl

lemma bind (hx : Alike t m x y P)
    (hk : ∀ t₁ m₁ a b, t.Leads t₁ → P t₁ a b → Alike t₁ m₁ (k a) (l b) Q) :
    Alike t m (x >>= k) (y >>= l) Q := by
  cases hx with
  | error h hx hy => exact .error h (by rw [ends_bind, hx]) (by rw [ends_bind, hy])
  | ok h hx hy hq =>
    cases hk _ _ _ _ h hq with
    | ok h' hx' hy' hq' =>
      exact .ok (h.trans h') (by rw [ends_bind, hx]; exact hx') (by rw [ends_bind, hy]; exact hy') hq'
    | error h' hx' hy' =>
      exact .error (h.trans h') (by rw [ends_bind, hx]; exact hx') (by rw [ends_bind, hy]; exact hy')

/-- A step that leaves the twins as they are. -/
lemma bind_here {R : α → α → Prop} (hx : Alike t m x y fun t₁ a b => t₁ = t ∧ R a b)
    (hk : ∀ m₁ a b, R a b → Alike t m₁ (k a) (l b) Q) : Alike t m (x >>= k) (y >>= l) Q := by
  refine hx.bind ?_
  rintro _ m₁ a b - ⟨rfl, hr⟩
  exact hk m₁ a b hr

lemma mono {P' : Twins → α → α → Prop} (hx : Alike t m x y P) (h : ∀ t₁ a b, P t₁ a b → P' t₁ a b) :
    Alike t m x y P' := by
  cases hx with
  | ok ht hx hy hq => exact .ok ht hx hy (h _ _ _ hq)
  | error ht hx hy => exact .error ht hx hy

/-- A computation on the memory does the same for both. -/
lemma of_local (hx : Local x) (hp : ∀ a, P t a a) : Alike t m x x P := by
  obtain ⟨f, hf⟩ := hx
  have hl := hf (t.caller m)
  have hr := hf (t.twin m)
  cases hm : f m with
  | mk r m₁ =>
    simp only [Twins.caller, Twins.twin, hm] at hl hr
    cases r with
    | ok a => exact .ok (.refl t) hl hr (hp a)
    | error e => exact .error (.refl t) hl hr

lemma onMemory (hx : x.OnMemory) (hp : ∀ a, P t a a) : Alike t m x x P :=
  of_local (.onMemory hx) hp

lemma onMemory_bind (hx : x.OnMemory) (hk : ∀ a m₁, Alike t m₁ (k a) (l a) Q) :
    Alike t m (x >>= k) (x >>= l) Q := by
  refine bind_here (R := (· = ·)) (onMemory hx fun a => ⟨rfl, rfl⟩) ?_
  rintro m₁ a _ rfl
  exact hk a m₁

lemma writeWord (size start n : Nat) :
    Same t m (Calling.writeWord size start n) (Calling.writeWord size start n) :=
  onMemory (.writeWord ..) fun _ => rfl

/-! ### Parts of the state -/

lemma get_bind {k l : CallState → Calling β} (h : Alike t m (k (t.caller m)) (l (t.twin m)) Q) :
    Alike t m (MonadState.get >>= k) (MonadState.get >>= l) Q := by
  cases h with
  | ok h hx hy hq => exact .ok h hx hy hq
  | error h hx hy => exact .error h hx hy

lemma context_bind {k l : Context → Calling β}
    (h : Alike t m (k t.context) (l (t.context.rename t.map)) Q) :
    Alike t m (Calling.context >>= k) (Calling.context >>= l) Q := by
  cases h with
  | ok h hx hy hq => exact .ok h hx hy hq
  | error h hx hy => exact .error h hx hy

lemma system_bind {k l : System → Calling β} (h : Alike t m (k t.left) (l t.right) Q) :
    Alike t m (Calling.system >>= k) (Calling.system >>= l) Q := by
  cases h with
  | ok h hx hy hq => exact .ok h hx hy hq
  | error h hx hy => exact .error h hx hy

lemma files_bind {k l : FileSystem → Calling β} (h : Alike t m (k t.files.left) (l t.files.right) Q) :
    Alike t m (Calling.files >>= k) (Calling.files >>= l) Q := by
  rw [← t.left_files, ← t.right_files] at h
  cases h with
  | ok h hx hy hq => exact .ok h hx hy hq
  | error h hx hy => exact .error h hx hy

lemma setContext {c : Context} (hc : c.nodes ⊆ t.held) (hs : t.context.SameStreams c) :
    Same t m (Calling.setContext c) (Calling.setContext (c.rename t.map)) :=
  .ok (Twins.leads_withContext hc hs) rfl rfl rfl

lemma setFiles {c : Counterparts} (hc : t.files.Leads c) :
    Alike t m (Calling.setFiles c.left) (Calling.setFiles c.right) fun t₁ _ _ => t₁.files = c := by
  refine .ok (Twins.leads_withFiles hc) rfl (b := ⟨⟩) ?_ rfl
  rw [Twins.twin, Twins.twin]
  change _ = (Except.ok _, (⟨m, t.context.rename c.map, _⟩ : CallState))
  rw [Twins.rename_withFiles hc]
  rfl

/-- The files change, and that is all. -/
lemma setFiles_same {c : Counterparts} (hc : t.files.Leads c) :
    Same t m (Calling.setFiles c.left) (Calling.setFiles c.right) :=
  (setFiles hc).mono fun _ _ _ _ => rfl

lemma descriptor_bind {k l : Descriptor → Calling β} (fd : Nat)
    (h : ∀ m₁ d d', t.Shares d d' → Alike t m₁ (k d) (l d') Q) :
    Alike t m (Calling.descriptor fd >>= k) (Calling.descriptor fd >>= l) Q := by
  refine bind_here (R := t.Shares) (context_bind ?_) h
  rw [Context.descriptor?_rename]
  cases hd : t.context.descriptor? fd with
  | none => exact fail _
  | some d => exact pure ⟨rfl, rfl, fun i hi => t.nodes_subset (Context.mem_nodes_of_descriptor? hd hi)⟩

lemma directory_bind {k l : Nat → Calling β} (fd : Nat)
    (h : ∀ m₁ dir, dir ∈ t.held → Alike t m₁ (k dir) (l (t.map dir)) Q) :
    Alike t m (Calling.directory fd >>= k) (Calling.directory fd >>= l) Q := by
  refine bind_here (R := fun dir dir' => dir ∈ t.held ∧ dir' = t.map dir)
    (descriptor_bind fd fun m₁ d d' hd => ?_) ?_
  · obtain ⟨rfl, hmem⟩ := hd
    cases d with
    | directory dir name => exact pure ⟨rfl, hmem dir rfl, rfl⟩
    | input | output | file => exact fail _
  · rintro m₁ dir _ ⟨hdir, rfl⟩
    exact h m₁ dir hdir

lemma openFile_bind {k l : OpenFile → Calling β} (fd : Nat)
    (h : ∀ m₁ f, f.node ∈ t.held → Alike t m₁ (k f) (l { f with node := t.map f.node }) Q) :
    Alike t m (Calling.openFile fd >>= k) (Calling.openFile fd >>= l) Q := by
  refine bind_here (R := fun f f' => f.node ∈ t.held ∧ f' = { f with node := t.map f.node })
    (descriptor_bind fd fun m₁ d d' hd => ?_) ?_
  · obtain ⟨rfl, hmem⟩ := hd
    cases d with
    | file f => exact pure ⟨rfl, hmem _ rfl, rfl⟩
    | input | output | directory => exact fail _
  · rintro m₁ f _ ⟨hf, rfl⟩
    exact h m₁ f hf

lemma node_bind {k l : Nat → Calling β} (fd : Nat)
    (h : ∀ m₁ i, i ∈ t.held → Alike t m₁ (k i) (l (t.map i)) Q) :
    Alike t m (Calling.node fd >>= k) (Calling.node fd >>= l) Q := by
  refine bind_here (R := fun i i' => i ∈ t.held ∧ i' = t.map i)
    (descriptor_bind fd fun m₁ d d' hd => ?_) ?_
  · obtain ⟨rfl, hmem⟩ := hd
    cases d with
    | directory dir name => exact pure ⟨rfl, hmem _ rfl, rfl⟩
    | file f => exact pure ⟨rfl, hmem _ rfl, rfl⟩
    | input | output => exact fail _
  · rintro m₁ i _ ⟨hi, rfl⟩
    exact h m₁ i hi

lemma setDescriptor (fd : Nat) {o o' : Option Descriptor} (ho : o' = o.map (.rename t.map))
    (h : ∀ d, o = some d → ∀ i, d.node? = some i → i ∈ t.held) :
    Same t m (Calling.setDescriptor fd o) (Calling.setDescriptor fd o') := by
  subst ho
  refine context_bind ?_
  rw [Context.set_rename]
  refine setContext (fun i hi => ?_) ⟨rfl, rfl, .rfl⟩
  rcases Context.mem_nodes_set hi with hi | ⟨d, rfl, hd⟩
  · exact t.nodes_subset hi
  · exact h d rfl i hd

/-- A file that is open gets another position, or other flags. -/
lemma setFile (fd : Nat) {f f' : OpenFile} (hf : f.node ∈ t.held)
    (hf' : f' = { f with node := t.map f.node }) :
    Same t m (Calling.setDescriptor fd (some (.file f)))
      (Calling.setDescriptor fd (some (.file f'))) := by
  subst hf'
  refine setDescriptor fd rfl fun d hd i hi => ?_
  cases hd
  cases hi
  exact hf

/-- A descriptor gets a number. -/
lemma insert {d d' : Descriptor} (hd : t.Shares d d') :
    Same t m (Calling.insert d) (Calling.insert d') := by
  obtain ⟨rfl, hmem⟩ := hd
  refine context_bind ?_
  rw [Context.insert?_rename]
  cases hc : t.context.insert? d with
  | none => exact fail _
  | some e =>
    have hnodes : e.2.nodes ⊆ t.held := fun i hi =>
      (Context.mem_nodes_insert? hc hi).elim (@t.nodes_subset i) (hmem i)
    exact bind (setContext hnodes (Context.sameStreams_insert? hc)) fun _ _ _ _ _ _ => pure rfl

/-! ### Files -/

lemma file_bind {k l : List UInt8 → Calling β} {f f' : OpenFile} (hf : f.node ∈ t.held)
    (hf' : f'.node = t.map f.node) (h : ∀ m₁ bytes, Alike t m₁ (k bytes) (l bytes) Q) :
    Alike t m (Calling.file f >>= k) (Calling.file f' >>= l) Q := by
  refine bind_here (R := (· = ·)) (files_bind ?_) ?_
  · rw [hf', t.files.embeds.bytes?_eq hf]
    exact pure ⟨rfl, rfl⟩
  · rintro m₁ bytes _ rfl
    exact h m₁ bytes

/-- The contents of a file change. -/
lemma setBytes_bind {k l : Unit → Calling β} {i : Nat} (hi : i ∈ t.held) (bytes : List UInt8)
    (h : ∀ t₁ m₁, t.Leads t₁ → Alike t₁ m₁ (k ()) (l ()) Q) :
    Alike t m (Calling.files >>= fun fs => Calling.setFiles (fs.setBytes i bytes) >>= k)
      (Calling.files >>= fun fs => Calling.setFiles (fs.setBytes (t.map i) bytes) >>= l) Q :=
  files_bind <| bind (setFiles_same (Counterparts.leads_setBytes hi bytes)) fun t₁ m₁ _ _ ht _ => h t₁ m₁ ht

/-- A path leads to the same place. -/
lemma locate_bind {k l : Place → Calling β} {dir : Nat} (hdir : dir ∈ t.held) (follow : Bool)
    (path : String)
    (h : ∀ m₁ p, p.Within t.files.left (· ∈ t.held) → Alike t m₁ (k p) (l (p.rename t.map)) Q) :
    Alike t m (Calling.locate dir follow path >>= k) (Calling.locate (t.map dir) follow path >>= l)
      Q := by
  refine bind_here (R := fun p p' => p.Within t.files.left (· ∈ t.held) ∧ p' = p.rename t.map)
    (files_bind ?_) ?_
  · rw [t.files.embeds.resolveWithin_eq t.files.left_wf hdir]
    cases hp : t.files.left.resolveWithin dir follow path with
    | error e => exact fail _
    | ok p =>
      have hwithin := FileSystem.resolveWithin_within t.files.left_wf hp
      exact pure
        ⟨rfl, hwithin.mono fun d hd => t.files.embeds.isSealed.mem_of_below hdir hd, rfl⟩
  · rintro m₁ p _ ⟨hp, rfl⟩
    exact h m₁ p hp

/-- A new node gets a name. -/
lemma createEntry_bind {k l : Nat → Calling β} {dir : Nat} {name : String} {n : Node}
    (hdir : dir ∈ t.held) (hname : ∀ j, (name, j) ∉ t.files.left.entries dir) (hn : n.IsBare)
    (h : ∀ t₁ m₁ i, t.Leads t₁ → i ∈ t₁.held → Alike t₁ m₁ (k i) (l (t₁.map i)) Q) :
    Alike t m (Calling.createEntry dir name n >>= k) (Calling.createEntry (t.map dir) name n >>= l)
      Q := by
  refine bind (P := fun t₁ i i' => i ∈ t₁.held ∧ i' = t₁.map i) (files_bind ?_) ?_
  · rw [t.files.embeds.isSome_parent?_eq hdir]
    split
    · rename_i hparent
      obtain ⟨p, hp⟩ := Option.isSome_iff_exists.1 hparent
      have hd := FileSystem.isDirectory_of_parent? hp
      have hset := setFiles (m := m) (Counterparts.leads_create hn hdir hd hname)
      rw [Counterparts.right_create] at hset
      refine hset.bind fun t₁ m₁ _ _ ht hfiles => pure ⟨?_, ?_⟩
      · rw [Twins.held, hfiles]
        exact Counterparts.new_mem_create ..
      · rw [Twins.map, hfiles]
        exact (Counterparts.map_create_new ..).symm
    · exact fail _
  · rintro t₁ m₁ i _ ht ⟨hi, rfl⟩
    exact h t₁ m₁ i ht hi

/-- What a directory has can be told alike. -/
lemma entriesFrom_eq (c : Counterparts) {es : List (String × Nat)} (hes : ∀ e ∈ es, e.2 ∈ c.held)
    (next : Nat) :
    entriesFrom c.right next (es.map (Prod.map id c.map)) = entriesFrom c.left next es := by
  induction es generalizing next with
  | nil => rfl
  | cons e es ih =>
    obtain ⟨name, i⟩ := e
    obtain ⟨n, n', hn, hn', hc⟩ := c.embeds.node (hes _ (List.mem_cons_self ..))
    have hrest := ih (fun e he => hes e (List.mem_cons_of_mem _ he)) (next + 1)
    have hkind : FileKind.ofNode n' = FileKind.ofNode n := by cases hc <;> rfl
    simp only [List.map_cons, Prod.map_apply, id_eq, entriesFrom, hn, hn', hrest]
    simp only [Option.elim_some, hkind]

end Alike

end Calling

end Embedder.Wasi
