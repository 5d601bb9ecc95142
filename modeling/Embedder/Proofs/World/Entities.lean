import Embedder.Proofs.Modules.Compiling
import Embedder.Proofs.Typing.Initial
import Embedder.Proofs.World.Reentrancy

/-!
# The entities of an instance

A memory, a global or a table is reached by the number of its instance and its index. An import that
is not a function becomes an entity of its own, even if the same item serves another import.

* `Content`: what a memory, a global or a table is at some time;
* `Operation.perform_congr`, `Operation.content?_perform`: an operation depends on one entity, and
  changes no other;
* `Use.perform_unaffected`: so a use of an export is not seen through an export of another entity;
* `Instance.imports_are_entities_of_their_own`: imports that one item serves start alike, and then
  they have nothing in common.
-/

namespace Embedder

open Execution (Guest Supplied)
open Elementwise

variable {σ α β : Type}

/-! ### Contents -/

/-- A memory, a global or a table as it is at some time. -/
inductive Content where
  | memory (m : Memory)
  | global (c : Cell)
  | table (t : Table)

def Content.space : Content → Space
  | .memory _ => .memory
  | .global _ => .global
  | .table _ => .table

/-- The entity at an index of a space. -/
def Execution.Guest.content? (g : Guest) : Space → Nat → Option Content
  | .memory, i => (g.memories[i]?).map .memory
  | .global, i => (g.globals[i]?).map .global
  | .table, i => (g.tables[i]?).map .table
  | .function, _ | .tag, _ => none

/-- The same for an instance at rest. -/
def World.content? (w : World σ) (s : Space) (a : Address) : Option (Option Content) :=
  (w.guest? a.owner).map fun g => g.content? s a.index

namespace Execution.Guest

open Machine (changeMemory)

variable {g g' : Guest} {s : Space} {i j : Nat}

lemma memories_of_content? (h : g.content? .memory i = g'.content? .memory i) :
    g.memories[i]? = g'.memories[i]? :=
  Option.map_injective (fun _ _ => Content.memory.inj) h

lemma globals_of_content? (h : g.content? .global i = g'.content? .global i) :
    g.globals[i]? = g'.globals[i]? :=
  Option.map_injective (fun _ _ => Content.global.inj) h

lemma tables_of_content? (h : g.content? .table i = g'.content? .table i) :
    g.tables[i]? = g'.tables[i]? :=
  Option.map_injective (fun _ _ => Content.table.inj) h

lemma content?_changeMemory (f : Memory → Memory) :
    (changeMemory g i f).content? .memory i = ((g.memories[i]?).map f).map .memory := by
  simp [content?, changeMemory, Array.getElem?_modify]

lemma content?_changeMemory_of_ne (f : Memory → Memory) (h : (s, j) ≠ (.memory, i)) :
    (changeMemory g i f).content? s j = g.content? s j := by
  cases s with
  | memory =>
    have hij : i ≠ j := fun hij => h (by rw [hij])
    simp [content?, changeMemory, Array.getElem?_modify, hij]
  | _ => rfl

lemma content?_setGlobal (c : Cell) :
    ({ g with globals := g.globals.setIfInBounds i c } : Guest).content? .global i =
      ((g.globals[i]?).map fun _ => c).map .global := by
  by_cases hi : i < g.globals.size <;> simp [content?, hi]

lemma content?_setGlobal_of_ne (c : Cell) (h : (s, j) ≠ (.global, i)) :
    ({ g with globals := g.globals.setIfInBounds i c } : Guest).content? s j = g.content? s j := by
  cases s with
  | global =>
    have hij : i ≠ j := fun hij => h (by rw [hij])
    simp [content?, hij]
  | _ => rfl

end Execution.Guest

/-! ### Operations -/

namespace Operation

def space : Operation → Space
  | .memorySize _ | .memoryGrow _ _ | .memoryRead _ _ _ | .memoryWrite _ _ _ => .memory
  | .globalGet _ | .globalSet _ _ => .global
  | .tableSize _ => .table

def index : Operation → Nat
  | .memorySize i | .memoryGrow i _ | .memoryRead i _ _ | .memoryWrite i _ _ => i
  | .globalGet i | .globalSet i _ => i
  | .tableSize i => i

/-- What an operation answers, and what it makes of its entity, depends on the entity only. -/
lemma perform_congr (o : Operation) {g g' : Guest}
    (h : g.content? o.space o.index = g'.content? o.space o.index) :
    (o.perform g).1 = (o.perform g').1 ∧
      (o.perform g).2.content? o.space o.index = (o.perform g').2.content? o.space o.index := by
  cases o with
  | memorySize i | memoryRead i start length =>
    have hm : g.memories[i]? = g'.memories[i]? := Guest.memories_of_content? h
    exact ⟨by simp only [perform, hm], h⟩
  | memoryGrow i delta =>
    have hm : g.memories[i]? = g'.memories[i]? := Guest.memories_of_content? h
    simp only [perform, hm]
    split
    · exact ⟨rfl, by simp only [space, index, Guest.content?_changeMemory, hm]⟩
    · exact ⟨rfl, h⟩
  | memoryWrite i start bytes =>
    have hm : g.memories[i]? = g'.memories[i]? := Guest.memories_of_content? h
    simp only [perform, Execution.Machine.inMemory, hm]
    by_cases hin : ((g'.memories[i]?).any fun m => m.inBounds start bytes.length) = true
    · simp only [hin, if_true, space, index, Guest.content?_changeMemory, hm, and_self]
    · simp only [hin, Bool.false_eq_true, if_false, true_and]
      exact h
  | globalGet i =>
    have hc : g.globals[i]? = g'.globals[i]? := Guest.globals_of_content? h
    exact ⟨by simp only [perform, Array.getD_eq_getD_getElem?, hc], h⟩
  | globalSet i v =>
    have hc : g.globals[i]? = g'.globals[i]? := Guest.globals_of_content? h
    refine ⟨rfl, ?_⟩
    simp only [perform, hc]
    cases (g'.globals[i]?).any fun c => c.type == v.type with
    | true => simp only [space, index, Guest.content?_setGlobal, hc, if_true]
    | false => exact h
  | tableSize i =>
    have ht : g.tables[i]? = g'.tables[i]? := Guest.tables_of_content? h
    exact ⟨by simp only [perform, ht], h⟩

/-- It leaves every other entity as it is. -/
lemma content?_perform (o : Operation) (g : Guest) {s : Space} {i : Nat}
    (h : (s, i) ≠ (o.space, o.index)) : (o.perform g).2.content? s i = g.content? s i := by
  cases o with
  | memoryGrow j delta =>
    simp only [perform]
    split
    · exact Guest.content?_changeMemory_of_ne _ h
    · rfl
  | memoryWrite j start bytes =>
    simp only [perform]
    split
    · exact Guest.content?_changeMemory_of_ne _ h
    · rfl
  | globalSet j v =>
    simp only [perform]
    split
    · exact Guest.content?_setGlobal_of_ne _ h
    · rfl
  | _ => rfl

end Operation

/-! ### Actions on one entity -/

/-- The action only operates on one entity. -/
inductive Action.On (s : Space) (a : Address) : Action σ α → Prop
  | done (x : α) : On s a (.done x)
  | operate {o : Operation} {next : Option o.Result → Action σ α} (hs : o.space = s)
      (hi : o.index = a.index) (h : ∀ x, On s a (next x)) : On s a (.operate a.owner o next)

namespace Action

open World (run Calls)

variable {s s' : Space} {x y : Address} {a : Action σ α}

lemma On.bind (h : a.On s x) {f : α → Action σ β} (hf : ∀ r, (f r).On s x) :
    (a.bind f).On s x := by
  induction h with
  | done r => exact hf r
  | operate hs hi _ ih => exact .operate hs hi ih

lemma On.map (h : a.On s x) (f : α → β) : (a.bind fun r => .done (f r)).On s x :=
  h.bind fun r => .done (f r)

end Action

namespace World

variable {s : Space} {x : Address} {w w' : World σ} {o : Operation}

/-- An operation on an instance depends on the entity only. -/
lemma operate_congr (hs : o.space = s) (hi : o.index = x.index)
    (h : w.content? s x = w'.content? s x) :
    (w.operate x.owner o).1 = (w'.operate x.owner o).1 ∧
      (w.operate x.owner o).2.content? s x = (w'.operate x.owner o).2.content? s x := by
  subst hs
  simp only [content?, ← hi] at h ⊢
  cases hg : w.guest? x.owner with
  | none =>
    have hg' : w'.guest? x.owner = none := by simpa [hg] using h.symm
    simp [operate, hg, hg']
  | some g =>
    obtain ⟨g', hg', hc⟩ : ∃ g', w'.guest? x.owner = some g' ∧
        g'.content? o.space o.index = g.content? o.space o.index := by
      rw [hg, Option.map_some] at h
      exact Option.map_eq_some_iff.1 h.symm
    obtain ⟨hanswer, hcontent⟩ := o.perform_congr hc.symm
    rw [operate_of_guest? _ _ hg, operate_of_guest? _ _ hg']
    refine ⟨congrArg some hanswer, ?_⟩
    simp [guest?_setGuest, lt_size_of_guest? _ _ hg, lt_size_of_guest? _ _ hg', hcontent]

/-- It changes no other entity. -/
lemma content?_operate (w : World σ) {n : Nat} (h : (s, x) ≠ (o.space, ⟨n, o.index⟩)) :
    (w.operate n o).2.content? s x = w.content? s x := by
  cases hg : w.guest? n with
  | none => simp [operate, hg]
  | some g =>
    rw [operate_of_guest? _ _ hg]
    simp only [content?, guest?_setGuest, lt_size_of_guest? _ _ hg, and_true]
    split
    · rename_i hn
      subst hn
      rw [hg, Option.map_some, Option.map_some, o.content?_perform g]
      intro heq
      obtain ⟨rfl, hi⟩ := Prod.mk.inj heq
      exact h (by rw [← hi])
    · rfl

end World

namespace Action

open World (run Calls)

variable {s s' : Space} {x y : Address} {a : Action σ α} {calls : Calls σ}

/-- How such an action ends depends on the entity only. -/
lemma On.run_congr (h : a.On s x) {w w' : World σ} (hw : w.content? s x = w'.content? s x)
    (memory : Option Nat) (g : Guest) : (run calls memory a g w).1 = (run calls memory a g w').1 := by
  induction h generalizing w w' with
  | done r => rfl
  | operate hs hi _ ih =>
    obtain ⟨hanswer, hcontent⟩ := World.operate_congr hs hi hw
    simp only [run, hanswer]
    exact ih _ hcontent

/-- It leaves every other entity as it is. -/
lemma On.content?_run (h : a.On s x) (hne : (s', y) ≠ (s, x)) (memory : Option Nat) (g : Guest)
    (w : World σ) : (run calls memory a g w).2.2.content? s' y = w.content? s' y := by
  induction h generalizing w with
  | done r => rfl
  | @operate o next hs hi _ ih =>
    rw [run, ih, World.content?_operate]
    rwa [hs, hi]

end Action

/-! ### Uses of exports -/

namespace Use

/-- The entity that is used; a call has none. -/
def entity? : Use → Option (Space × Address)
  | .call _ _ => none
  | .memorySize h | .memoryByteSize h | .memoryGrow h _ | .memoryRead h _ _ | .memoryWrite h _ _ =>
    some (.memory, h.address)
  | .viewLength v | .viewIsEmpty v | .viewGet v _ | .viewSet v _ _ | .viewToList v =>
    some (.memory, v.memory.address)
  | .globalGet h | .globalSet h _ => some (.global, h.address)
  | .tableSize h => some (.table, h.address)

variable {h : Handle MemoryType}

lemma on_size : (h.size : Action σ _).On .memory h.address :=
  .operate rfl rfl fun a => by cases a <;> exact .done _

lemma on_byteSize : (h.byteSize : Action σ _).On .memory h.address := on_size.map _

lemma on_read (start length : Nat) : (h.read start length : Action σ _).On .memory h.address :=
  .operate rfl rfl fun a => by rcases a with _ | _ | _ <;> exact .done _

lemma on_write (start : Nat) (bytes : List UInt8) :
    (h.write start bytes : Action σ _).On .memory h.address :=
  .operate rfl rfl fun a => by rcases a with _ | _ | _ <;> exact .done _

lemma on_length (v : View) : (v.length : Action σ _).On .memory v.memory.address :=
  on_byteSize.map _

/-- A use that is no call only operates on its entity. -/
theorem on {u : Use} {s : Space} {x : Address} (hu : u.entity? = some (s, x)) :
    (u.action : Action σ u.Answer).On s x := by
  cases u with
  | call h arguments => cases hu
  | memorySize h =>
    cases hu
    exact on_size
  | memoryByteSize h =>
    cases hu
    exact on_byteSize
  | memoryGrow h delta =>
    cases hu
    exact .operate rfl rfl fun a => by rcases a with _ | _ | _ <;> exact .done _
  | memoryRead h start length =>
    cases hu
    exact on_read start length
  | memoryWrite h start bytes =>
    cases hu
    exact on_write start bytes
  | viewLength v =>
    cases hu
    exact on_length v
  | viewIsEmpty v =>
    cases hu
    exact (on_length v).map _
  | viewGet v index =>
    cases hu
    simp only [action, View.get]
    cases v.address index with
    | error e => exact .done _
    | ok start => exact (on_read start v.element.width).map _
  | viewSet v index n =>
    cases hu
    simp only [action, View.set]
    cases v.address index with
    | error e => exact .done _
    | ok start => exact on_write start (v.element.encode n)
  | viewToList v =>
    cases hu
    refine on_byteSize.bind fun r => ?_
    cases r with
    | error e => exact .done _
    | ok size =>
      simp only
      split
      · exact .done _
      · exact (on_read v.offset (size - v.offset)).map _
  | globalGet h =>
    cases hu
    refine .operate rfl rfl fun a => ?_
    cases a with
    | none => exact .done _
    | some c =>
      simp only
      cases c.toValue? <;> exact .done _
  | globalSet h v =>
    cases hu
    simp only [action, Handle.set]
    split
    · split
      · exact .operate rfl rfl fun a => by cases a <;> exact .done _
      · exact .done _
    · exact .done _
  | tableSize h =>
    cases hu
    exact .operate rfl rfl fun a => .done a

/-- **What is done through one export is not seen through an export of another entity.** -/
theorem perform_unaffected {u u' : Use} {x x' : Space × Address} (hu : u.entity? = some x)
    (hu' : u'.entity? = some x') (hne : x ≠ x') (w : World σ) :
    ((w.perform u.action).2.perform u'.action).1 = (w.perform u'.action).1 := by
  have hcontent : (w.perform u.action).2.content? x'.1 x'.2 = w.content? x'.1 x'.2 :=
    (on hu).content?_run (Ne.symm hne) none _ w
  have hresting : (w.perform u.action).2.resting = w.resting :=
    World.resting_congr _ (World.outline_perform w u.action)
  unfold World.perform at hcontent hresting ⊢
  simp only [hresting]
  exact (on hu').run_congr hcontent none _

end Use

/-! ### Imports -/

/-- The number of an import in its space: so many imports of the space come before it. -/
def Definition.importNumber (d : Definition) (s : Space) (k : Nat) : Nat :=
  (d.imports.take k).countP fun e => e.item.space == s

/-- What an item of the host describes, unless it is a function. -/
def HostItem.content? : HostItem σ → Option Content
  | .memory t => some (.memory (.ofType t))
  | .table t => some (.table (.ofType t))
  | .global _ v => some (.global (.ofValue v))
  | .function _ => none

/-- The same of what serves an import. -/
def Provided.content? : Provided σ → Option Content
  | .memory t => some (.memory (.ofType t))
  | .table t => some (.table (.ofType t))
  | .global _ v => some (.global (.ofValue v))
  | .host _ | .generated _ _ => none

namespace Definition

variable {d : Definition} {k l : Nat} {e : ImportEntry}

/-- A later import of a space has a higher number. -/
lemma importNumber_lt (he : d.imports[k]? = some e) (h : k < l) :
    d.importNumber e.item.space k < d.importNumber e.item.space l := by
  have hsub : (d.imports.take (k + 1)).Sublist (d.imports.take l) :=
    (List.take_prefix_take_left h).sublist
  have hle := hsub.countP_le (p := fun x => x.item.space == e.item.space)
  rw [List.take_add_one, he, Option.toList_some, List.countP_append, List.countP_singleton] at hle
  simp only [beq_self_eq_true, if_true] at hle
  exact hle

/-- What serves the imports of a space is collected in the order of their numbers. -/
lemma getElem?_importNumber {ps : List (Provided σ)} {s : Space} {f : Provided σ → Option β}
    (h : List.Forall₂ (fun e p => p.Fits e.item) d.imports ps)
    (hf : ∀ item (p : Provided σ), p.Fits item → (item.space == s) = (f p).isSome)
    {p : Provided σ} {b : β} (hp : ps[k]? = some p) (hb : f p = some b) :
    (ps.filterMap f)[d.importNumber s k]? = some b := by
  have hsame : (d.imports.take k).map (fun e => e.item.space == s) =
      (ps.take k).map fun p => (f p).isSome :=
    map_eq_map_of_forall₂ ((List.forall₂_take k h).imp fun e p hp => hf e.item p hp)
  have hcount := congrArg (List.countP id) hsame
  rw [List.countP_map, List.countP_map] at hcount
  have hlength : d.importNumber s k = ((ps.take k).filterMap f).length := by
    rw [List.length_filterMap_eq_countP]
    exact hcount
  rw [hlength]
  exact getElem?_filterMap_length_take hp hb

end Definition

lemma Execution.Guest.getElem?_addGlobals (globals : Array Cell) (gs : List GlobalEntry) {i : Nat}
    {c : Cell} (h : globals[i]? = some c) : (addGlobals globals gs)[i]? = some c := by
  induction gs generalizing globals with
  | nil => exact h
  | cons g gs ih =>
    have hi := (Array.getElem?_eq_some_iff.1 h).1
    exact ih _ (by rw [Array.getElem?_push_lt hi, ← Array.getElem?_eq_getElem hi, h])

/-- An import that is not a function starts as the entity that serves it. -/
lemma Execution.Guest.content?_allocate {d : Definition} {ps : List (Provided σ)} {k : Nat}
    {e : ImportEntry} {p : Provided σ} {c : Content}
    (h : List.Forall₂ (fun e p => p.Fits e.item) d.imports ps) (he : d.imports[k]? = some e)
    (hp : ps[k]? = some p) (hc : p.content? = some c) :
    (allocate d (Provided.supplied ps)).content? e.item.space (d.importNumber e.item.space k) =
      some c := by
  have hfits := rel_of_forall₂ h he hp
  obtain ⟨ns, name, item⟩ := e
  cases hfits with
  | host | generated => cases hc
  | memory t required =>
    cases hc
    have hm : (Provided.memories ps)[d.importNumber .memory k]? = some (.ofType t) :=
      Definition.getElem?_importNumber h (by rintro _ _ ⟨⟩ <;> rfl) hp rfl
    simp only [content?, allocate, Provided.supplied, List.getElem?_toArray, ImportItem.space]
    rw [List.getElem?_append_left (List.getElem?_eq_some_iff.1 hm).1, hm, Option.map_some]
  | table ht =>
    cases hc
    have hm : (Provided.tables ps)[d.importNumber .table k]? = some (.ofType _) :=
      Definition.getElem?_importNumber h (by rintro _ _ ⟨⟩ <;> rfl) hp rfl
    simp only [content?, allocate, Provided.supplied, List.getElem?_toArray, ImportItem.space]
    rw [List.getElem?_append_left (List.getElem?_eq_some_iff.1 hm).1, hm, Option.map_some]
  | global hv =>
    cases hc
    have hm : (Provided.globals ps)[d.importNumber .global k]? = some (.ofValue _) :=
      Definition.getElem?_importNumber h (by rintro _ _ ⟨⟩ <;> rfl) hp rfl
    simp only [content?, allocate, Provided.supplied, ImportItem.space]
    rw [getElem?_addGlobals _ _ (by rw [List.getElem?_toArray, hm]), Option.map_some]

/-- What serves an import is new, and as the item of the host describes it. -/
lemma ImportObject.Serves.content?_eq {o : ImportObject σ} {i : ImportType} {p : Provided σ}
    {item : HostItem σ} (h : o.Serves i p) (hi : o.get? i.module i.name = some item) :
    p.content? = item.content? := by
  cases h with
  | item hi' hserves =>
    cases hi.symm.trans hi'
    generalize i.type = t at hserves
    cases hserves <;> rfl
  | generated hi' =>
    rw [hi] at hi'
    cases hi'

lemma Provided.Fits.space_eq {item : ImportItem} {p : Provided σ} {c : Content}
    (h : p.Fits item) (hc : p.content? = some c) : item.space = c.space := by
  cases h <;> cases hc <;> rfl

/-- **Imports that one item serves are entities of their own.** They have the kind of the item and
start as it describes them. But they are different entities: whatever is done through an export of
one of them, nothing that is asked through an export of another one tells of it. -/
theorem Instance.imports_are_entities_of_their_own {w₀ w₁ : World σ} {m : Module}
    {o : ImportObject σ} {i : Instance} (hi : w₀.instantiate m o = (.made i, w₁)) {k l : Nat}
    {e e' : ImportEntry} (he : m.definition.imports[k]? = some e)
    (he' : m.definition.imports[l]? = some e') (hkl : k ≠ l) (hmodule : e'.module = e.module)
    (hname : e'.name = e.name) {item : HostItem σ} (hitem : o.get? e.module e.name = some item)
    {c : Content} (hc : item.content? = some c) :
    let x : Address := ⟨i.number, m.definition.importNumber c.space k⟩
    let y : Address := ⟨i.number, m.definition.importNumber c.space l⟩
    e.item.space = c.space ∧ e'.item.space = c.space ∧ x ≠ y ∧
      (∃ ps, o.resolve m = .ok ps ∧
        (Guest.allocate m.definition (Provided.supplied ps)).content? c.space x.index = some c ∧
        (Guest.allocate m.definition (Provided.supplied ps)).content? c.space y.index = some c) ∧
      ∀ (w : World σ) (u u' : Use), u.entity? = some (c.space, x) →
        u'.entity? = some (c.space, y) →
        ((w.perform u.action).2.perform u'.action).1 = (w.perform u'.action).1 := by
  intro x y
  obtain ⟨ps, hps, -⟩ := World.outline_instantiate_made hi
  have hserves := o.forall₂_serves hps
  have hfits : List.Forall₂ (fun e p => p.Fits e.item) m.definition.imports ps :=
    hserves.imp fun e p ⟨i, hi, hp⟩ => hp.fits hi
  have hstart : ∀ {n : Nat} {f : ImportEntry}, m.definition.imports[n]? = some f →
      f.module = e.module → f.name = e.name → f.item.space = c.space ∧
        (Guest.allocate m.definition (Provided.supplied ps)).content? c.space
          (m.definition.importNumber c.space n) = some c := by
    intro n f hf hm hn
    have hlt : n < ps.length := hserves.length_eq ▸ (List.getElem?_eq_some_iff.1 hf).1
    have hp := List.getElem?_eq_getElem hlt
    obtain ⟨i, htype, hp'⟩ := rel_of_forall₂ hserves hf hp
    obtain ⟨hmi, hni⟩ := Definition.importType?_names htype
    have hcontent := (hp'.content?_eq (by rw [hmi, hni, hm, hn]; exact hitem)).trans hc
    have hspace := (hp'.fits htype).space_eq hcontent
    exact ⟨hspace, hspace ▸ Guest.content?_allocate hfits hf hp hcontent⟩
  obtain ⟨hspace, hx⟩ := hstart he rfl rfl
  obtain ⟨hspace', hy⟩ := hstart he' hmodule hname
  have hne : x ≠ y := by
    intro hxy
    have hnumbers : m.definition.importNumber c.space k = m.definition.importNumber c.space l :=
      congrArg Address.index hxy
    rcases Nat.lt_or_gt_of_ne hkl with h | h
    · have hlt := Definition.importNumber_lt he h
      rw [hspace, hnumbers] at hlt
      exact Nat.lt_irrefl _ hlt
    · have hlt := Definition.importNumber_lt he' h
      rw [hspace', hnumbers] at hlt
      exact Nat.lt_irrefl _ hlt
  refine ⟨hspace, hspace', hne, ⟨ps, hps, hx, hy⟩, fun w u u' hu hu' => ?_⟩
  exact Use.perform_unaffected hu hu' (fun hxy => hne (congrArg Prod.snd hxy)) w

/-- A module that imports a global twice and exports it under two names. -/
def Module.twinsDefinition : Definition :=
  { Definition.empty with
    imports := [⟨"host", "g", .global ⟨.i32, true⟩⟩, ⟨"host", "g", .global ⟨.i32, true⟩⟩]
    exports := [⟨"a", .global, 0⟩, ⟨"b", .global, 1⟩] }

def Module.twins : Module where
  engine := .standard 0
  binary := Binary.encode twinsDefinition .empty
  definition := twinsDefinition
  code := []
  imports := [⟨"host", "g", .global ⟨.i32, true⟩⟩, ⟨"host", "g", .global ⟨.i32, true⟩⟩]
  exports := [⟨"a", .global ⟨.i32, true⟩⟩, ⟨"b", .global ⟨.i32, true⟩⟩]
  customs := []
  name := none
  bodies_eq := by decide
  imports_eq := rfl
  exports_eq := rfl

lemma Module.compile_twins : compile (.standard 0) twins.binary = .ok twins :=
  compile_self (m := twins) (by decide +kernel) (by decide +kernel) (by decide +kernel)
    rfl rfl

/-- The global that it asks for. -/
def ImportObject.counter : ImportObject Unit :=
  ImportObject.empty.define "host" "g" (.global ⟨.i32, true⟩ (.i32 0))

lemma ImportObject.get?_counter :
    counter.get? "host" "g" = some (.global ⟨.i32, true⟩ (.i32 0)) :=
  Dictionary.find?_insert_self ..

lemma ImportObject.resolve_counter :
    counter.resolve .twins =
      .ok [.global ⟨.i32, true⟩ (.i32 0), .global ⟨.i32, true⟩ (.i32 0)] := by
  have hserves : counter.Serves ⟨"host", "g", .global ⟨.i32, true⟩⟩
      (.global ⟨.i32, true⟩ (.i32 0)) := .item get?_counter (.global _ _ rfl)
  rw [resolve_eq_ok_iff]
  refine ⟨fun b hb => ?_, .cons hserves (.cons hserves .nil), fun hs => ?_⟩
  · cases hb
  · cases hs

/-- The world with its instance. -/
def World.twins : World Unit :=
  (World.instantiate (.create () (.ofFiles .empty)) .twins ImportObject.counter).2

lemma World.instantiate_twins :
    World.instantiate (.create () (.ofFiles .empty)) .twins ImportObject.counter =
      (.made ⟨0, .twins, ⟨[⟨"a", .global ⟨⟨0, 0⟩, ⟨.i32, true⟩⟩⟩,
        ⟨"b", .global ⟨⟨0, 1⟩, ⟨.i32, true⟩⟩⟩]⟩⟩, .twins) := by
  have hi := instantiate_eq_made (w := .create () (.ofFiles .empty)) (m := .twins) rfl
    ImportObject.resolve_counter rfl rfl rfl
  rw [twins, hi]
  rfl

/-- Setting one of the two globals is not seen through the other. -/
theorem Instance.twins_are_apart :
    Module.compile (.standard 0) Module.twins.binary = .ok .twins ∧
    ((World.twins.perform (Use.globalSet ⟨⟨0, 0⟩, ⟨.i32, true⟩⟩ (.i32 5)).action).2.perform
        (Use.globalGet ⟨⟨0, 1⟩, ⟨.i32, true⟩⟩).action).1 =
      (World.twins.perform (Use.globalGet ⟨⟨0, 1⟩, ⟨.i32, true⟩⟩).action).1 := by
  obtain ⟨-, -, -, -, happart⟩ := imports_are_entities_of_their_own World.instantiate_twins
    (k := 0) (l := 1) rfl rfl (by decide) rfl rfl ImportObject.get?_counter rfl
  refine ⟨Module.compile_twins, ?_⟩
  exact happart World.twins (.globalSet ⟨⟨0, 0⟩, ⟨.i32, true⟩⟩ (.i32 5))
    (.globalGet ⟨⟨0, 1⟩, ⟨.i32, true⟩⟩) rfl rfl

/-- Two imports of one item can differ. After one of the globals was set its export tells the new
value, and that of the other still tells the old one. -/
theorem Instance.twins_disagree :
    Module.compile (.standard 0) Module.twins.binary = .ok .twins ∧
    ∃ (i : Instance) (w : World Unit) (a b : Handle GlobalType),
      World.instantiate (.create () (.ofFiles .empty)) .twins ImportObject.counter = (.made i, w) ∧
      i.exports.global "a" = .ok a ∧ i.exports.global "b" = .ok b ∧
      ((w.perform (a.set (.i32 5))).2.perform a.get).1 = .done (.ok (.i32 5)) ∧
      ((w.perform (a.set (.i32 5))).2.perform b.get).1 = .done (.ok (.i32 0)) := by
  have hg : World.twins.guest? 0 =
      some ⟨#[], #[], #[.value (.i32 0), .value (.i32 0)], #[], #[]⟩ := by
    rw [World.twins, World.instantiate_eq_made rfl ImportObject.resolve_counter rfl rfl rfl]
    rfl
  have hset : (World.twins.perform (Handle.set ⟨⟨0, 0⟩, ⟨.i32, true⟩⟩ (.i32 5))).2 =
      World.twins.setGuest 0
        (some ⟨#[], #[], #[.value (.i32 5), .value (.i32 0)], #[], #[]⟩) := by
    simp only [Handle.set, Value.type, if_true, World.perform, World.run,
      World.operate_of_guest? _ _ hg]
    rfl
  have hg' := World.guest?_setGuest World.twins 0
    (some ⟨#[], #[], #[.value (.i32 5), .value (.i32 0)], #[], #[]⟩) 0
  rw [if_pos ⟨rfl, World.lt_size_of_guest? _ _ hg⟩] at hg'
  refine ⟨Module.compile_twins, _, _, _, _, World.instantiate_twins, rfl, rfl, ?_, ?_⟩
  · rw [hset]
    simp only [Handle.get, World.perform, World.run, World.operate_of_guest? _ _ hg']
    rfl
  · rw [hset]
    simp only [Handle.get, World.perform, World.run, World.operate_of_guest? _ _ hg']
    rfl

end Embedder
