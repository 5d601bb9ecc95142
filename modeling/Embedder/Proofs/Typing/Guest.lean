import Embedder.Execution.Machine
import Embedder.Validation.Instructions
import Mathlib.Tactic.Lemma

/-!
# What an instance owns keeps its types

* `Table.Typed`: a table holds references of its own type only;
* `Guest.Typed`: globals, tables and segments hold what the module declares for them;
* `Guest.Typed.setGlobal`, `Guest.Typed.setTable`, `Guest.Typed.growTable`, `Guest.Typed.writeTable`:
  what keeps it so.
-/

namespace Embedder

open Execution (Guest)

/-! ### Tables -/

namespace Table

/-- The elements that a table stores have its type. -/
def Typed (t : Table) : Prop := ∀ c ∈ t.cells, c.type = t.element

variable {t : Table}

lemma typed_ofType (type : TableType) : (ofType type).Typed := fun c hc => by simp [ofType] at hc

lemma Typed.type_get (h : t.Typed) (i : Nat) : (t.get i).type = t.element := by
  unfold get
  rw [Array.getD_eq_getD_getElem?]
  cases hi : t.cells[i]? with
  | none => exact Cell.type_zero t.element
  | some c => exact h c (Array.mem_of_getElem? hi)

lemma Typed.type_get? (h : t.Typed) {i : Nat} {c : Cell} (hc : t.get? i = some c) :
    c.type = t.element := by
  unfold get? at hc
  split at hc
  · cases hc
    exact h.type_get i
  · cases hc

lemma Typed.set (h : t.Typed) (i : Nat) {c : Cell} (hc : c.type = t.element) : (t.set i c).Typed := by
  intro x hx
  rcases Array.mem_or_eq_of_mem_setIfInBounds hx with hx | rfl
  · rcases Array.mem_append.1 hx with hx | hx
    · exact h x hx
    · rw [Array.eq_of_mem_replicate hx]
      exact Cell.type_zero t.element
  · exact hc

@[simp] lemma element_set (i : Nat) (c : Cell) : (t.set i c).element = t.element := rfl

@[simp] lemma element_write (start : Nat) (cs : List Cell) :
    (t.write start cs).element = t.element := by
  induction cs generalizing t start with
  | nil => rfl
  | cons c cs ih => exact ih (start + 1)

lemma Typed.write (h : t.Typed) (start : Nat) {cs : List Cell} (hcs : ∀ c ∈ cs, c.type = t.element) :
    (t.write start cs).Typed := by
  induction cs generalizing t start with
  | nil => exact h
  | cons c cs ih =>
    exact ih (h.set start (hcs c (by simp))) (start + 1) fun x hx => hcs x (by simp [hx])

@[simp] lemma element_grow (delta : Nat) (c : Cell) : (t.grow delta c).element = t.element := by
  unfold grow
  simp only
  split
  · rfl
  · exact element_write ..

lemma Typed.grow (h : t.Typed) (delta : Nat) {c : Cell} (hc : c.type = t.element) :
    (t.grow delta c).Typed := by
  have hlarger : ({ t with size := t.size + delta } : Table).Typed := h
  unfold Table.grow
  simp only
  split
  · exact hlarger
  · refine hlarger.write _ fun x hx => ?_
    rw [List.eq_of_mem_replicate hx]
    exact hc

lemma Typed.slice (h : t.Typed) (start length : Nat) :
    ∀ c ∈ t.slice start length, c.type = t.element := by
  intro c hc
  obtain ⟨i, -, rfl⟩ := List.mem_map.1 hc
  exact h.type_get _

end Table

/-! ### Instances -/

namespace Execution.Guest

open Validation (Context)

/-- What an instance owns has the types that the module declares. -/
structure Typed (c : Context) (g : Guest) : Prop where
  globals : g.globals.toList.map Cell.type = c.globals.map GlobalType.value
  tables : ∀ (i : Nat) (t : Table) (u : TableType), g.tables[i]? = some t →
    c.tables[i]? = some u → t.Typed ∧ t.element = u.element
  elements : ∀ (i : Nat) (cells : List Cell) (t : ValueType), g.elements[i]? = some cells →
    c.elements[i]? = some t → ∀ x ∈ cells, x.type = t

variable {c : Context} {g : Guest}

lemma Typed.of_eq {g' : Guest} (h : g.Typed c) (hg : g'.globals = g.globals)
    (ht : g'.tables = g.tables) (he : g'.elements = g.elements) : g'.Typed c :=
  ⟨hg ▸ h.globals, ht ▸ h.tables, he ▸ h.elements⟩

lemma Typed.changeMemory (h : g.Typed c) (i : Nat) (f : Memory → Memory) :
    (Machine.changeMemory g i f).Typed c := h.of_eq rfl rfl rfl

/-! ### Globals -/

lemma Typed.global (h : g.Typed c) {i : Nat} {x : Cell} {t : GlobalType}
    (hx : g.globals[i]? = some x) (ht : c.globals[i]? = some t) : x.type = t.value := by
  have := congrArg (fun l => l[i]?) h.globals
  simpa [hx, ht] using this

lemma Typed.setGlobal (h : g.Typed c) {i : Nat} {x : Cell}
    (hx : ∀ t, c.globals[i]? = some t → x.type = t.value) :
    ({ g with globals := g.globals.setIfInBounds i x } : Guest).Typed c := by
  refine ⟨?_, h.tables, h.elements⟩
  rw [← h.globals, Array.toList_setIfInBounds, List.map_set]
  refine List.ext_getElem? fun j => ?_
  rw [List.getElem?_set]
  split
  · rename_i hij
    subst hij
    split
    · rename_i hlt
      have hglobals := congrArg (fun l => l[i]?) h.globals
      simp only [List.getElem?_eq_getElem hlt, List.getElem?_map] at hglobals ⊢
      obtain ⟨t, ht, heq⟩ := Option.map_eq_some_iff.1 hglobals.symm
      rw [hx t ht, heq]
    · rename_i hle
      exact (List.getElem?_eq_none (Nat.le_of_not_lt hle)).symm
  · rfl

/-! ### Tables and segments -/

lemma Typed.changeTable (h : g.Typed c) (i : Nat) {f : Table → Table}
    (hf : ∀ (t : Table) (u : TableType), c.tables[i]? = some u → t.Typed → t.element = u.element →
      (f t).Typed ∧ (f t).element = t.element) :
    (Machine.changeTable g i f).Typed c := by
  refine ⟨h.globals, fun j t u ht hu => ?_, h.elements⟩
  simp only [Machine.changeTable, Array.getElem?_modify] at ht
  split at ht
  · rename_i hij
    subst hij
    obtain ⟨t', ht', rfl⟩ := Option.map_eq_some_iff.1 ht
    obtain ⟨htyped, helement⟩ := h.tables i t' u ht' hu
    obtain ⟨hchanged, hsame⟩ := hf t' u hu htyped helement
    exact ⟨hchanged, hsame.trans helement⟩
  · exact h.tables j t u ht hu

section Tables

variable {i : Nat} {t : TableType} {x : Cell} {cs : List Cell}

/-- Elements of a table's own type can be set, added and written. -/
lemma Typed.setTable (h : g.Typed c) (ht : c.tables[i]? = some t) (hx : x.type = t.element)
    (n : Nat) : (Machine.changeTable g i fun u => u.set n x).Typed c := by
  refine h.changeTable i fun u t' ht' hu helement => ⟨hu.set n ?_, Table.element_set ..⟩
  obtain rfl := Option.some.inj (ht.symm.trans ht')
  rw [hx, helement]

lemma Typed.growTable (h : g.Typed c) (ht : c.tables[i]? = some t) (hx : x.type = t.element)
    (delta : Nat) : (Machine.changeTable g i fun u => u.grow delta x).Typed c := by
  refine h.changeTable i fun u t' ht' hu helement => ⟨hu.grow delta ?_, Table.element_grow ..⟩
  obtain rfl := Option.some.inj (ht.symm.trans ht')
  rw [hx, helement]

lemma Typed.writeTable (h : g.Typed c) (ht : c.tables[i]? = some t)
    (hcs : ∀ y ∈ cs, y.type = t.element) (start : Nat) :
    (Machine.changeTable g i fun u => u.write start cs).Typed c := by
  refine h.changeTable i fun u t' ht' hu helement => ⟨hu.write start ?_, Table.element_write ..⟩
  obtain rfl := Option.some.inj (ht.symm.trans ht')
  intro y hy
  rw [hcs y hy, helement]

/-- The elements of a table have its type. -/
lemma Typed.slice (h : g.Typed c) (ht : c.tables[i]? = some t) (start length : Nat) :
    ∀ y ∈ (g.tables[i]?).elim [] fun u => u.slice start length, y.type = t.element := by
  cases hu : g.tables[i]? with
  | none => exact fun y hy => nomatch hy
  | some u =>
    obtain ⟨htyped, helement⟩ := h.tables i u t hu ht
    intro y hy
    rw [htyped.slice start length y hy, helement]

end Tables

lemma Typed.element (h : g.Typed c) {i : Nat} {t : ValueType} (ht : c.elements[i]? = some t) :
    ∀ x ∈ g.elements.getD i [], x.type = t := by
  rw [Array.getD_eq_getD_getElem?]
  cases hi : g.elements[i]? with
  | none => exact fun x hx => by cases hx
  | some cells => exact h.elements i cells t hi ht

lemma Typed.dropElement (h : g.Typed c) (i : Nat) :
    ({ g with elements := g.elements.setIfInBounds i [] } : Guest).Typed c := by
  refine ⟨h.globals, h.tables, fun j cells t hj ht => ?_⟩
  simp only [Array.getElem?_setIfInBounds] at hj
  split at hj
  · split at hj
    · cases hj
      exact fun x hx => by cases hx
    · cases hj
  · exact h.elements j cells t hj ht

end Execution.Guest

end Embedder
