import Embedder.Proofs.Dictionaries
import Embedder.Proofs.Linking.Strictness
import Mathlib.Logic.Function.Basic

/-!
# Import objects by what was written to them

An import object is read as a list of writes: its history. The namespaces, the items, the system
interface and the strictness each remember the last write that concerns them.

* `ImportObject.Write`, `ImportObject.shared`: a history, and what another object takes over of it;
* `ImportObject.Step`: the operations on any number of objects, and what each adds to the histories;
* `ImportObject.WrittenBy`: an object is what its history says; each operation preserves it;
* `ImportObject.last_write_wins`: what can be read from an object after any operations, and the laws
  that follow.
-/

namespace Embedder.ImportObject

variable {σ : Type}

/-! ### Histories -/

inductive Write (σ : Type) where
  | item (ns name : String) (item : HostItem σ)
  | known (ns : String)
  | wasi (b : Wasi.Binding)
  | strict (strict : Bool)

namespace Write

def item? : Write σ → Option ((String × String) × HostItem σ)
  | .item ns name i => some ((ns, name), i)
  | _ => none

/-- The namespace that is known after the write. An item makes its own one known. -/
def namespace? : Write σ → Option String
  | .item ns _ _ => some ns
  | .known ns => some ns
  | _ => none

def wasi? : Write σ → Option Wasi.Binding
  | .wasi b => some b
  | _ => none

def strict? : Write σ → Option Bool
  | .strict s => some s
  | _ => none

end Write

def lastItem (ws : List (Write σ)) (ns name : String) : Option (HostItem σ) :=
  Dictionary.latest (ws.filterMap Write.item?) (ns, name)

def lastWasi (ws : List (Write σ)) : Option Wasi.Binding := (ws.filterMap Write.wasi?).getLast?

def lastStrict (ws : List (Write σ)) : Option Bool := (ws.filterMap Write.strict?).getLast?

/-- The writes that an object takes over when it is extended: all but those of strictness. -/
def shared (ws : List (Write σ)) : List (Write σ) := ws.filter fun w => w.strict?.isNone

section Histories

variable (ws vs : List (Write σ))

lemma lastItem_append (ns name : String) :
    lastItem (ws ++ vs) ns name = (lastItem vs ns name).or (lastItem ws ns name) := by
  simp only [lastItem, List.filterMap_append, Dictionary.latest_append]

lemma lastWasi_append : lastWasi (ws ++ vs) = (lastWasi vs).or (lastWasi ws) := by
  simp only [lastWasi, List.filterMap_append, List.getLast?_append]

lemma lastStrict_append : lastStrict (ws ++ vs) = (lastStrict vs).or (lastStrict ws) := by
  simp only [lastStrict, List.filterMap_append, List.getLast?_append]

/-- What does not read strictness finds the same in the shared writes. -/
lemma filterMap_shared {β : Type} (f : Write σ → Option β) (hf : ∀ s, f (.strict s) = none) :
    (shared ws).filterMap f = ws.filterMap f := by
  rw [shared, List.filterMap_filter]
  refine List.filterMap_congr fun w _ => ?_
  cases w <;> simp [Write.strict?, hf]

lemma lastItem_shared (ns name : String) : lastItem (shared ws) ns name = lastItem ws ns name := by
  rw [lastItem, filterMap_shared ws _ fun _ => rfl, lastItem]

lemma lastWasi_shared : lastWasi (shared ws) = lastWasi ws := by
  rw [lastWasi, filterMap_shared ws _ fun _ => rfl, lastWasi]

lemma lastStrict_shared : lastStrict (shared ws) = none := by
  have hnone : (shared ws).filterMap Write.strict? = [] := by
    rw [List.filterMap_eq_nil_iff]
    intro w hw
    simpa using (List.mem_filter.1 hw).2
  rw [lastStrict, hnone, List.getLast?_nil]

lemma mem_namespaces_shared (ns : String) :
    ns ∈ (shared ws).filterMap Write.namespace? ↔ ns ∈ ws.filterMap Write.namespace? := by
  rw [filterMap_shared ws _ fun _ => rfl]

end Histories

/-! ### Operations on many objects -/

/-- Objects are held under numbers. Those that nothing was done with yet are as they were made. -/
inductive Step (σ : Type) where
  | define (x : Nat) (ns name : String) (item : HostItem σ)
  | register (x : Nat) (ns : String) (items : List (String × HostItem σ))
  | extend (x y : Nat)
  | setStrict (x : Nat) (strict : Bool)
  | clone (x y : Nat)

namespace Step

def run (os : Nat → ImportObject σ) : Step σ → Nat → ImportObject σ
  | .define x ns name item => Function.update os x ((os x).define ns name item)
  | .register x ns items => Function.update os x ((os x).register ns items)
  | .extend x y => Function.update os x ((os x).extend (os y))
  | .setStrict x strict => Function.update os x ((os x).setStrict strict)
  | .clone x y => Function.update os x (os y)

/-- What the operation adds to the histories. Extending writes all that was written to the other
object, except for its strictness. -/
def record (hs : Nat → List (Write σ)) : Step σ → Nat → List (Write σ)
  | .define x ns name item => Function.update hs x (hs x ++ [.item ns name item])
  | .register x ns items =>
    Function.update hs x (hs x ++ .known ns :: items.map fun e => .item ns e.1 e.2)
  | .extend x y => Function.update hs x (hs x ++ shared (hs y))
  | .setStrict x strict => Function.update hs x (hs x ++ [.strict strict])
  | .clone x y => Function.update hs x (hs y)

end Step

/-- How an object is made. -/
inductive Origin where
  | new
  | generated (env : Wasi.Environment) (e : Engine) (v : Wasi.Version)

namespace Origin

def object : Origin → ImportObject σ
  | .new => empty
  | .generated env e v => env.generate e v

def writes : Origin → List (Write σ)
  | .new => []
  | .generated env e v => [.wasi ⟨env, v.resolve, e.number⟩]

end Origin

/-! ### An object and its history -/

/-- The object is what the history says. -/
structure WrittenBy (o : ImportObject σ) (ws : List (Write σ)) : Prop where
  nodup : o.entries.keys.Nodup
  get : ∀ ns name, o.get? ns name = lastItem ws ns name
  namespaces : ∀ ns, ns ∈ o.namespaces ↔ ns ∈ ws.filterMap Write.namespace?
  wasi : o.wasi = lastWasi ws
  strict : o.strict = (lastStrict ws).getD false

lemma Origin.writtenBy (c : Origin) : (c.object : ImportObject σ).WrittenBy c.writes := by
  cases c with
  | new => exact ⟨List.nodup_nil, fun _ _ => rfl, fun _ => Iff.rfl, rfl, rfl⟩
  | generated env e v => exact ⟨List.nodup_nil, fun _ _ => rfl, fun _ => Iff.rfl, rfl, rfl⟩

section Operations

variable {o o' : ImportObject σ} {ws vs : List (Write σ)}

lemma addNamespace_eq (o : ImportObject σ) (ns : String) :
    o.addNamespace ns =
      { o with
        namespaces := if ns ∈ o.namespaces then o.namespaces else o.namespaces ++ [ns] } := by
  unfold addNamespace
  split <;> rfl

lemma mem_addNamespace (o : ImportObject σ) (ns l : String) :
    l ∈ (o.addNamespace ns).namespaces ↔ l ∈ o.namespaces ∨ l = ns := by
  unfold addNamespace
  split
  · rename_i h
    exact ⟨.inl, fun hl => hl.elim id fun heq => heq ▸ h⟩
  · simp

lemma mem_define (o : ImportObject σ) (ns name : String) (item : HostItem σ) (l : String) :
    l ∈ (o.define ns name item).namespaces ↔ l ∈ o.namespaces ∨ l = ns :=
  mem_addNamespace o ns l

lemma addNamespace_of_mem {ns : String} (h : ns ∈ o.namespaces) : o.addNamespace ns = o := if_pos h

lemma foldl_addNamespace_eq (o : ImportObject σ) (nss : List String) :
    nss.foldl addNamespace o = { o with namespaces := (nss.foldl addNamespace o).namespaces } := by
  induction nss generalizing o with
  | nil => rfl
  | cons ns nss ih =>
    rw [List.foldl_cons, ih, addNamespace_eq]

lemma mem_foldl_addNamespace (o : ImportObject σ) (nss : List String) (l : String) :
    l ∈ (nss.foldl addNamespace o).namespaces ↔ l ∈ o.namespaces ∨ l ∈ nss := by
  induction nss generalizing o with
  | nil => simp
  | cons ns nss ih =>
    rw [List.foldl_cons, ih, mem_addNamespace, List.mem_cons, or_assoc]

/-- Extending in terms of what the two objects have. -/
lemma extend_eq (o o' : ImportObject σ) :
    o.extend o' =
      { entries := o.entries.merge o'.entries
        namespaces := (o'.namespaces.foldl addNamespace o).namespaces
        wasi := o'.wasi.or o.wasi
        strict := o.strict } := by
  unfold extend
  rw [foldl_addNamespace_eq]
  cases o'.wasi <;> rfl

lemma get?_define (o : ImportObject σ) (ns name : String) (item : HostItem σ) (k l : String) :
    (o.define ns name item).get? k l =
      if (ns, name) = (k, l) then some item else o.get? k l :=
  Dictionary.find?_insert _ _ _ _

/-- The other object's items come first. -/
lemma get?_extend (hn : o'.entries.keys.Nodup) (ns name : String) :
    (o.extend o').get? ns name = (o'.get? ns name).or (o.get? ns name) := by
  rw [extend_eq, get?, Dictionary.find?_merge, ← Dictionary.find?_eq_latest hn, get?, get?]

lemma mem_extend (o o' : ImportObject σ) (ns : String) :
    ns ∈ (o.extend o').namespaces ↔ ns ∈ o.namespaces ∨ ns ∈ o'.namespaces := by
  rw [extend_eq, mem_foldl_addNamespace]

/-! ### Each operation adds to the history -/

lemma WrittenBy.addNamespace (h : o.WrittenBy ws) (ns : String) :
    (o.addNamespace ns).WrittenBy (ws ++ [.known ns]) where
  nodup := by
    rw [addNamespace_eq]
    exact h.nodup
  get k l := by
    rw [addNamespace_eq, lastItem_append]
    exact h.get k l
  namespaces l := by
    rw [mem_addNamespace, List.filterMap_append, List.mem_append, h.namespaces]
    simp [Write.namespace?]
  wasi := by
    rw [addNamespace_eq, lastWasi_append]
    exact h.wasi
  strict := by
    rw [addNamespace_eq, lastStrict_append]
    exact h.strict

lemma WrittenBy.define (h : o.WrittenBy ws) (ns name : String) (item : HostItem σ) :
    (o.define ns name item).WrittenBy (ws ++ [.item ns name item]) where
  nodup := Dictionary.nodup_keys_merge h.nodup [((ns, name), item)]
  get k l := by
    have hlast : lastItem [.item ns name item] k l =
        if (ns, name) = (k, l) then some item else none := Dictionary.latest_singleton _ _ _
    rw [get?_define, lastItem_append, hlast, h.get]
    split <;> rfl
  namespaces l := by
    rw [mem_define, List.filterMap_append, List.mem_append, h.namespaces]
    simp [Write.namespace?]
  wasi := by
    rw [ImportObject.define, addNamespace_eq, lastWasi_append]
    exact h.wasi
  strict := by
    rw [ImportObject.define, addNamespace_eq, lastStrict_append]
    exact h.strict

lemma WrittenBy.defineAll (h : o.WrittenBy ws) (ns : String) (items : List (String × HostItem σ)) :
    (items.foldl (fun o e => o.define ns e.1 e.2) o).WrittenBy
      (ws ++ items.map fun e => .item ns e.1 e.2) := by
  induction items generalizing o ws with
  | nil => simpa using h
  | cons e items ih => simpa using ih (h.define ns e.1 e.2)

lemma WrittenBy.register (h : o.WrittenBy ws) (ns : String) (items : List (String × HostItem σ)) :
    (o.register ns items).WrittenBy
      (ws ++ .known ns :: items.map fun e => .item ns e.1 e.2) := by
  simpa [ImportObject.register] using (h.addNamespace ns).defineAll ns items

lemma WrittenBy.extend (h : o.WrittenBy ws) (h' : o'.WrittenBy vs) :
    (o.extend o').WrittenBy (ws ++ shared vs) where
  nodup := by
    rw [extend_eq]
    exact Dictionary.nodup_keys_merge h.nodup _
  get k l := by
    rw [get?_extend h'.nodup, lastItem_append, lastItem_shared, h.get, h'.get]
  namespaces l := by
    rw [mem_extend, List.filterMap_append, List.mem_append, mem_namespaces_shared, h.namespaces,
      h'.namespaces]
  wasi := by
    rw [extend_eq, lastWasi_append, lastWasi_shared, h.wasi, h'.wasi]
  strict := by
    rw [extend_eq, lastStrict_append, lastStrict_shared, Option.none_or]
    exact h.strict

lemma WrittenBy.setStrict (h : o.WrittenBy ws) (strict : Bool) :
    (o.setStrict strict).WrittenBy (ws ++ [.strict strict]) where
  nodup := h.nodup
  get k l := by
    rw [get?_setStrict, lastItem_append]
    exact h.get k l
  namespaces l := by
    rw [List.filterMap_append, List.mem_append, ← h.namespaces]
    simp [Write.namespace?, ImportObject.setStrict]
  wasi := by
    rw [lastWasi_append]
    exact h.wasi
  strict := by
    rw [lastStrict_append]
    rfl

end Operations

/-- **A step preserves** that every object is what its history says. -/
theorem Step.writtenBy {os : Nat → ImportObject σ} {hs : Nat → List (Write σ)}
    (h : ∀ x, (os x).WrittenBy (hs x)) (s : Step σ) (x : Nat) :
    (s.run os x).WrittenBy (s.record hs x) := by
  -- only one object changes, and with it its history
  have hupdate {y : Nat} {o : ImportObject σ} {ws : List (Write σ)} (ho : o.WrittenBy ws) :
      (Function.update os y o x).WrittenBy (Function.update hs y ws x) := by
    by_cases hx : x = y
    · subst hx
      simpa using ho
    · simpa [hx] using h x
  cases s with
  | define y ns name item => exact hupdate ((h y).define ns name item)
  | register y ns items => exact hupdate ((h y).register ns items)
  | extend y z => exact hupdate ((h y).extend (h z))
  | setStrict y strict => exact hupdate ((h y).setStrict strict)
  | clone y z => exact hupdate (h z)

/-- So does any number of them. -/
theorem foldl_writtenBy {os : Nat → ImportObject σ} {hs : Nat → List (Write σ)}
    (h : ∀ x, (os x).WrittenBy (hs x)) (steps : List (Step σ)) (x : Nat) :
    (steps.foldl Step.run os x).WrittenBy (steps.foldl Step.record hs x) := by
  induction steps generalizing os hs with
  | nil => exact h x
  | cons s steps ih => exact ih fun y => s.writtenBy h y

/-! ### What can be read, and the laws -/

/-- What can be read from an object with a history. -/
structure Remembers (o : ImportObject σ) (ws : List (Write σ)) : Prop where
  /-- An item is the last one written under its name. -/
  get : ∀ ns name, o.get? ns name = lastItem ws ns name
  /-- A namespace is known if a write named it or the system interface has it now. -/
  contains : ∀ ns, o.containsNamespace ns = true ↔
    (∃ w ∈ ws, w.namespace? = some ns) ∨ ∃ b, lastWasi ws = some b ∧ b.importNamespace = ns
  /-- The system interface is the last one that was there to take. -/
  wasi : o.wasi = lastWasi ws
  /-- Strictness is as set last, and off at first. -/
  strict : o.strict = (lastStrict ws).getD false

/-- The laws of writing to objects. -/
structure Lawful (a b c : ImportObject σ) : Prop where
  /-- Writes under different names can change places. -/
  commute : ∀ ns name item ns' name' item', (ns, name) ≠ (ns', name') →
    ((a.define ns name item).define ns' name' item').Alike
      ((a.define ns' name' item').define ns name item)
  /-- It does not matter which objects are put together first. -/
  assoc : ((a.extend b).extend c).Alike (a.extend (b.extend c))
  /-- An object has nothing to take over from itself. -/
  idem : a.extend a = a
  /-- To register items is to define them one after the other. -/
  register : ∀ ns items, items ≠ [] →
    a.register ns items = items.foldl (fun o e => o.define ns e.1 e.2) a
  /-- To register none makes the namespace known and changes nothing else. -/
  registerNone : ∀ ns, (∀ ns', (a.register ns []).containsNamespace ns' = true ↔
      a.containsNamespace ns' = true ∨ ns' = ns) ∧
    (a.register ns []).entries = a.entries ∧ (a.register ns []).wasi = a.wasi ∧
      (a.register ns []).strict = a.strict

lemma containsNamespace_iff (o : ImportObject σ) (ns : String) :
    o.containsNamespace ns = true ↔
      ns ∈ o.namespaces ∨ ∃ b, o.wasi = some b ∧ b.importNamespace = ns := by
  unfold containsNamespace
  cases o.wasi <;> simp

theorem WrittenBy.remembers {o : ImportObject σ} {ws : List (Write σ)} (h : o.WrittenBy ws) :
    o.Remembers ws where
  get := h.get
  contains ns := by
    rw [containsNamespace_iff, h.namespaces, List.mem_filterMap, h.wasi]
  wasi := h.wasi
  strict := h.strict

lemma define_commute (o : ImportObject σ) {ns name ns' name' : String} (item item' : HostItem σ)
    (hne : (ns, name) ≠ (ns', name')) :
    ((o.define ns name item).define ns' name' item').Alike
      ((o.define ns' name' item').define ns name item) where
  get k l := by
    simp only [get?_define]
    -- at most one of the two writes is under the name that is read
    by_cases h : (ns, name) = (k, l)
    · have h' : (ns', name') ≠ (k, l) := fun h' => hne (h.trans h'.symm)
      rw [if_neg h', if_neg h']
    · rw [if_neg h, if_neg h]
  namespaces l := by
    simp only [mem_define, or_right_comm]
  wasi := by simp only [define, addNamespace_eq]
  strict := by simp only [define, addNamespace_eq]

lemma extend_assoc {a b c : ImportObject σ} (hb : b.entries.keys.Nodup)
    (hc : c.entries.keys.Nodup) :
    ((a.extend b).extend c).Alike (a.extend (b.extend c)) where
  get k l := by
    have hbc : (b.extend c).entries.keys.Nodup := by
      rw [extend_eq]
      exact Dictionary.nodup_keys_merge hb _
    rw [get?_extend hc, get?_extend hb, get?_extend hbc, get?_extend hc, Option.or_assoc]
  namespaces l := by
    rw [mem_extend, mem_extend, mem_extend, mem_extend, or_assoc]
  wasi := by
    simp only [extend_eq, Option.or_assoc]
  strict := by
    simp only [extend_eq]

lemma foldl_addNamespace_of_subset {o : ImportObject σ} {nss : List String}
    (h : ∀ ns ∈ nss, ns ∈ o.namespaces) : nss.foldl addNamespace o = o := by
  induction nss with
  | nil => rfl
  | cons ns nss ih =>
    rw [List.foldl_cons, addNamespace_of_mem (h ns (by simp)), ih fun l hl => h l (by simp [hl])]

lemma extend_self {o : ImportObject σ} (hn : o.entries.keys.Nodup) : o.extend o = o := by
  have hall : o.namespaces.foldl addNamespace o = o := foldl_addNamespace_of_subset fun _ h => h
  rw [extend_eq, Dictionary.merge_self hn, hall, Option.or_self]

lemma register_cons (o : ImportObject σ) (ns : String) (e : String × HostItem σ)
    (items : List (String × HostItem σ)) :
    o.register ns (e :: items) = (e :: items).foldl (fun o e => o.define ns e.1 e.2) o := by
  have htwice : (o.addNamespace ns).addNamespace ns = o.addNamespace ns :=
    addNamespace_of_mem ((mem_addNamespace o ns ns).2 (.inr rfl))
  have hfirst : (o.addNamespace ns).define ns e.1 e.2 = o.define ns e.1 e.2 := by
    rw [define, htwice, define, addNamespace_eq]
  rw [register, List.foldl_cons, hfirst, List.foldl_cons]

theorem WrittenBy.lawful {a b c : ImportObject σ} {us vs ws : List (Write σ)} (ha : a.WrittenBy us)
    (hb : b.WrittenBy vs) (hc : c.WrittenBy ws) : a.Lawful b c where
  commute _ _ item _ _ item' hne := a.define_commute item item' hne
  assoc := extend_assoc hb.nodup hc.nodup
  idem := extend_self ha.nodup
  register ns items hne := by
    cases items with
    | nil => exact absurd rfl hne
    | cons e items => exact a.register_cons ns e items
  registerNone ns := by
    have hnone : a.register ns [] = a.addNamespace ns := rfl
    rw [hnone]
    refine ⟨fun l => ?_, ?_⟩
    · rw [containsNamespace_iff, containsNamespace_iff, mem_addNamespace, addNamespace_eq,
        or_right_comm]
    · rw [addNamespace_eq]
      exact ⟨rfl, rfl, rfl⟩

/-- **The last write counts.** Whatever is done with objects, each of them shows the last writes of
its history, and the laws of writing hold for them. -/
theorem last_write_wins (origins : Nat → Origin) (steps : List (Step σ)) :
    (∀ x, (steps.foldl Step.run (fun y => (origins y).object) x).Remembers
      (steps.foldl Step.record (fun y => (origins y).writes) x)) ∧
    ∀ x y z, Lawful (steps.foldl Step.run (fun y => (origins y).object) x)
      (steps.foldl Step.run (fun y => (origins y).object) y)
      (steps.foldl Step.run (fun y => (origins y).object) z) := by
  have hwritten := foldl_writtenBy (fun y => (origins y).writtenBy) steps
  exact ⟨fun x => (hwritten x).remembers,
    fun x y z => (hwritten x).lawful (hwritten y) (hwritten z)⟩

-- A later item takes the place of an earlier one, and leaves the others of the namespace.
example (i j k : HostItem σ) :
    (((empty.register "env" [("a", i), ("b", k)]).register "env" [("a", j)]).get? "env" "a",
      ((empty.register "env" [("a", i), ("b", k)]).register "env" [("a", j)]).get? "env" "b") =
      (some j, some k) := by
  rfl

end Embedder.ImportObject
