import Embedder.Proofs.Linking.Spaces
import Embedder.Proofs.World.Files
import Embedder.Proofs.World.Twins

/-!
# What a host does with instances

A host uses exports of the instances that it has, and it makes further ones. What it is told of one of
them on the way is what this one can be known by.

* `Deed`: what a host does, and `World.follow`: the answers of one instance on the way;
* `World.Orderly.follow`: whatever a host does, the files stay in order;
* `Context.Apart`: two contexts have no pipe and no file in common, and do not both read the input of the
  host;
* `World.UsesApart`, `World.MakesApart`: what is done has to do with instances that are apart from one;
* `Context.elsewhere`: what a context leaves to others.
-/

namespace Embedder

open Execution (Guest)
open Relation (ReflTransGen)

variable {σ : Type}

/-! ### Deeds -/

/-- What a host does from outside: it uses an export, or it makes an instance, if it can be made. -/
inductive Deed (σ : Type) where
  | use (u : Use)
  | create (m : Module) (o : ImportObject σ)

/-- An export of the instance is used. -/
def Deed.isOf (b : Nat) : Deed σ → Bool
  | .use u => u.owner == b
  | .create _ _ => false

namespace World

/-- One deed after another: the answers to the uses of the instance `b`, and the world in the end. -/
def follow (b : Nat) : List (Deed σ) → World σ → List ((u : Use) × Ended u.Answer) × World σ
  | [], w => ([], w)
  | .use u :: rest, w =>
    let (answer, w) := w.perform u.action
    let (answers, w) := follow b rest w
    (if u.owner = b then ⟨u, answer⟩ :: answers else answers, w)
  | .create m o :: rest, w => follow b rest (w.instantiate m o).2

/-- What can be seen of an instance: its memories, globals and tables, the input that is left to it, and
the numbers of its descriptors with whether they are taken. -/
def view (w : World σ) (n : Nat) : Option (Option Guest × List UInt8 × List (Nat × Bool)) :=
  (w.slots[n]?).map fun s =>
    (s.guest, s.context.input.left w.system, s.context.descriptors.map (Prod.map id Option.isSome))

end World

/-! ### Apart -/

namespace Wasi.Context

/-- A node that is open, or that directories lead to from one that is open. -/
def Reaches (c : Context) (fs : FileSystem) (i : Nat) : Prop :=
  ∃ r ∈ c.nodes, ReflTransGen fs.Child r i

/-- The contexts write to no common pipe, reach no common file or directory, and do not both have the
input of the host. -/
structure Apart (fs : FileSystem) (c c' : Context) : Prop where
  pipes : ∀ k, c.UsesPipe k → ¬ c'.UsesPipe k
  files : ∀ i, c.Reaches fs i → ¬ c'.Reaches fs i
  input : c.input = .inherited → c'.input ≠ .inherited

end Wasi.Context

def ImportObject.Local (o : ImportObject σ) : Prop :=
  ∀ (ns name : String) (f : HostFunction σ), o.get? ns name = some (.function f) → f.Local

namespace World

def ApartFrom (w : World σ) (b : Nat) (c : Wasi.Context) : Prop :=
  ∀ s, w.slots[b]? = some s → s.context.Apart w.system.files c

/-- The context, the imports and the segments of a new instance do not fail. -/
def Launches (w : World σ) (m : Module) (o : ImportObject σ) (c : Wasi.Context) : Prop :=
  w.contextFor o = .ok c ∧ ∃ ps g, o.resolve m = .ok ps ∧
    Guest.populate m.definition (Provided.supplied ps) = .ok g

/-- The functions of the host that an instance in use imports only look at their arguments and the memory
lent to them, and the instance is apart from the instance `b` unless it is this one. -/
def UsesApart (b : Nat) (deeds : List (Deed σ)) (w : World σ) : Prop :=
  ∀ u, Deed.use u ∈ deeds → ∀ s, w.slots[u.owner]? = some s →
    s.Local ∧ (u.owner ≠ b → w.ApartFrom b s.context)

/-- So are the instances that are made, one after another. An instance whose making fails before its
start function need not be apart, nor one without a start function that is not used later. -/
def MakesApart (b : Nat) : List (Deed σ) → World σ → Prop
  | [], _ => True
  | .use u :: rest, w => MakesApart b rest (w.perform u.action).2
  | .create m o :: rest, w =>
    (o.Local ∧ ∀ c, w.Launches m o c → w.ApartFrom b c ∨ m.definition.start = none ∧
      ∀ i, (w.instantiate m o).1 = .made i → ∀ u, Deed.use u ∈ rest → u.owner ≠ i.number) ∧
    MakesApart b rest (w.instantiate m o).2

end World

/-! ### What a context leaves to others -/

namespace Wasi.Context

variable {fs : FileSystem} {c c' : Context}

/-- The nodes that lead nowhere where the context leads. -/
def elsewhere (c : Context) (fs : FileSystem) : Set Nat :=
  { i | i < fs.nodes.size ∧ ∀ j, ReflTransGen fs.Child i j → ¬ c.Reaches fs j }

lemma sealed_elsewhere (hfs : fs.WellFormed) : FileSystem.Sealed (c.elsewhere fs) fs where
  lt_size hi := hi.1
  closed hi hchild := by
    obtain ⟨s, hs⟩ := hchild
    exact ⟨hfs.lt_size hs, fun k hk => hi.2 k (.head ⟨s, hs⟩ hk)⟩

lemma sealed_reaches (hfs : fs.WellFormed) (hc : ∀ i ∈ c.nodes, i < fs.nodes.size) :
    FileSystem.Sealed { i | c.Reaches fs i } fs where
  lt_size := by
    rintro i ⟨r, hr, hi⟩
    cases hi.cases_tail with
    | inl h => exact h ▸ hc r hr
    | inr h =>
      obtain ⟨_, -, s, hs⟩ := h
      exact hfs.lt_size hs
  closed := by
    rintro i j ⟨r, hr, hi⟩ hj
    exact ⟨r, hr, hi.tail hj⟩

lemma nodes_subset_reaches : c.nodes ⊆ { i | c.Reaches fs i } := fun i hi => ⟨i, hi, .refl⟩

lemma Apart.nodes_subset (h : c.Apart fs c') (hc : ∀ i ∈ c'.nodes, i < fs.nodes.size) :
    c'.nodes ⊆ c.elsewhere fs :=
  fun i hi => ⟨hc i hi, fun j hj hreach => h.files j hreach ⟨i, hi, hj⟩⟩

lemma not_mem_elsewhere {i : Nat} (h : c.Reaches fs i) : i ∉ c.elsewhere fs :=
  fun hi => hi.2 i .refl h

/-- What nothing of the context leads to is elsewhere. -/
lemma subset_elsewhere {S T : Set Nat} (hS : FileSystem.Sealed S fs) (hT : FileSystem.Sealed T fs)
    (hc : c.nodes ⊆ T) (h : ∀ i ∈ S, i ∉ T) : S ⊆ c.elsewhere fs := by
  refine fun i hi => ⟨hS.lt_size hi, fun j hj hreach => ?_⟩
  obtain ⟨r, hr, hrj⟩ := hreach
  exact h j (hS.mem_of_child hi hj) (hT.mem_of_child (hc hr) hrj)

end Wasi.Context

namespace World

variable {w : World σ}

/-! ### Single deeds -/

/-- A use of an instance that is not at rest does nothing. -/
lemma perform_of_running {u : Use} (h : w.guest? u.owner = none) : (w.perform u.action).2 = w := by
  unfold perform
  by_cases hd : ∃ x, (u.action : Action σ u.Answer) = .done x
  · obtain ⟨x, hx⟩ := hd
    rw [hx]
    rfl
  · rw [u.asks.run_of_running (fun x hx => hd ⟨x, hx⟩) h fun f arguments hf =>
      callWithin_none _ arguments (hf ▸ h)]

/-- The functions of the host that a new instance imports are those of its import object. -/
lemma local_of_resolve {o : ImportObject σ} (ho : o.Local) {m : Module} {ps : List (Provided σ)}
    (h : o.resolve m = .ok ps) {k : Nat} {f : HostFunction σ}
    (hf : (Provided.functions ps).toArray[k]? = some (.host f)) : f.Local := by
  obtain ⟨ns, name, hget⟩ := o.exists_function h hf
  exact ho ns name f hget

/-! ### Whole runs -/

/-- **Whatever a host does, the files and what is open stay in order.** -/
theorem Orderly.follow (hw : w.Orderly) (b : Nat) (deeds : List (Deed σ)) :
    (w.follow b deeds).2.Orderly := by
  induction deeds generalizing w with
  | nil => exact hw
  | cons d rest ih =>
    cases d with
    | use u => exact ih (hw.perform u.action)
    | create m o => exact ih (hw.instantiate m o)

end World

end Embedder
