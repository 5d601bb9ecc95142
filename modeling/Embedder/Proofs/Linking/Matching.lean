import Embedder.Execution.Memory
import Embedder.Execution.Table
import Embedder.Proofs.Linking.Rules

/-!
# Import matching

An engine has rules of its own for what it takes for an import. They are about the entity that is
handed to it, with the size that it has at that moment, and about the import as the definition of
the module states it.

* `Limits.Matches`, `Definition.Admits`, `Definition.Links`: the rules of the engine;
* `Provided.current`: the type of what serves an import, in the state it is made in;
* `ImportObject.admits_of_serves`: what serves an import is admitted by the engine;
* `ImportObject.resolve_agrees_with_engine`: an instantiation never fails because of an import that
  was resolved, and nothing the engine admits is refused as being of another kind or type.
-/

namespace Embedder

open Elementwise

variable {σ : Type}

/-! ### The rules of the engine -/

/-- A size that is `provided` is no lower than the minimum that is `required`; a maximum that is
required has a provided one that is no higher. -/
def Limits.Matches (provided required : Limits) : Prop :=
  required.minimum ≤ provided.minimum ∧
    ∀ r, required.maximum = some r → ∃ p, provided.maximum = some p ∧ p ≤ r

/-- The engine takes an entity of a type for an import. -/
inductive Definition.Admits (d : Definition) : ImportItem → EntityType → Prop
  | function (k : Nat) (t : FunctionType) (hk : d.types[k]? = some t) :
      Admits d (.function k) (.function t)
  | global (t : GlobalType) : Admits d (.global t) (.global t)
  | memory (required t : MemoryType) (hs : t.shared = required.shared)
      (hm : t.memory64 = required.memory64) (hl : t.limits.Matches required.limits) :
      Admits d (.memory required) (.memory t)
  | table (required t : TableType) (he : t.element = required.element)
      (hl : t.limits.Matches required.limits) : Admits d (.table required) (.table t)

/-- The engine takes entities of these types for the imports of the module. -/
def Definition.Links (d : Definition) (ts : List EntityType) : Prop :=
  List.Forall₂ (fun i t => d.Admits i.item t) d.imports ts

namespace Provided

/-- The type of an entity. Of a memory or a table it gives the current size as the minimum, of a
global the type of what it holds. -/
def current : Provided σ → EntityType
  | .host f => .function f.type
  | .generated _ f => .function f.type
  | .global t v => .global ⟨(Cell.ofValue v).type, t.mutable⟩
  | .memory t =>
    let m := Memory.ofType t
    .memory { t with minimum := m.size, maximum := m.maximum }
  | .table t =>
    let m := Table.ofType t
    .table ⟨m.element, m.size, m.maximum⟩

end Provided

/-! ### The two checks of limits -/

theorem Limits.satisfies_iff_matches (provided required : Limits) :
    provided.satisfies required = true ↔ provided.Matches required := by
  unfold Limits.satisfies Limits.Matches
  rw [Bool.and_eq_true, decide_eq_true_iff]
  refine and_congr_right fun _ => ?_
  cases required.maximum with
  | none => simp
  | some r => cases provided.maximum <;> simp

theorem MemoryType.satisfies_iff_matches (t required : MemoryType) :
    t.satisfies required = true ↔
      t.shared = required.shared ∧ t.memory64 = required.memory64 ∧
        t.limits.Matches required.limits := by
  unfold MemoryType.satisfies
  rw [Bool.and_eq_true, Bool.and_eq_true, beq_iff_eq, beq_iff_eq, Limits.satisfies_iff_matches,
    and_assoc]

theorem TableType.satisfies_iff_matches (t required : TableType) :
    t.satisfies required = true ↔
      t.element = required.element ∧ t.limits.Matches required.limits := by
  unfold TableType.satisfies
  rw [Bool.and_eq_true, beq_iff_eq, Limits.satisfies_iff_matches]

/-! ### A new entity has its declared type -/

theorem Provided.current_memory (t : MemoryType) :
    (Provided.memory t : Provided σ).current = .memory t := by
  simp [Provided.current, Memory.ofType, Memory.size]

theorem HostItem.ServesAs.current_eq {item : HostItem σ} {t : EntityType} {p : Provided σ}
    (h : item.ServesAs t p) : p.current = item.type := by
  cases h with
  | function f => rfl
  | global t v hv => simp [Provided.current, HostItem.type, Cell.type_ofValue, hv]
  | memory t required hs hr ha => exact Provided.current_memory t
  | table t required hs hr => rfl

/-! ### Descriptors and the definition -/

variable {d : Definition} {e : ImportEntry} {i : ImportType}

theorem Definition.importType?_names (h : d.importType? e = some i) :
    i.module = e.module ∧ i.name = e.name := by
  unfold Definition.importType? at h
  grind

/-- The descriptor of an import tells what the engine asks for. -/
theorem Definition.admits_iff (h : d.importType? e = some i) (t : EntityType) :
    d.Admits e.item t ↔
      match i.type, t with
      | .function required, .function t => t = required
      | .global required, .global t => t = required
      | .memory required, .memory t => t.satisfies required
      | .table required, .table t => t.satisfies required
      | _, _ => False := by
  obtain ⟨ns, name, item⟩ := e
  unfold Definition.importType? at h
  cases item with
  | function k =>
    obtain ⟨required, hk, rfl⟩ := Option.map_eq_some_iff.1 h
    cases t <;> grind [Definition.Admits]
  | global required =>
    cases h
    cases t <;> grind [Definition.Admits]
  | memory required =>
    cases h
    cases t <;> grind [Definition.Admits, MemoryType.satisfies_iff_matches]
  | table required =>
    cases h
    cases t <;> grind [Definition.Admits, TableType.satisfies_iff_matches]
  | tag k => cases h

theorem ImportObject.admits_of_serves {o : ImportObject σ} {p : Provided σ}
    (h : d.importType? e = some i) (hp : o.Serves i p) : d.Admits e.item p.current := by
  rw [Definition.admits_iff h]
  cases hp with
  | item _ hserves =>
    rw [hserves.current_eq]
    generalize i.type = t at hserves
    cases hserves with
    | function f => rfl
    | global t v hv => rfl
    | memory t required hs hr ha => exact hs
    | table t required hs hr => exact hs
  | generated _ _ _ _ ht =>
    rw [ht]
    rfl

/-! ### Nothing that is admitted is of another kind or type -/

/-- An import is refused because of the kind or the type of what there is for it. -/
def LinkError.IsMismatch : LinkError → Prop
  | .kindMismatch _ _ _ _ | .signatureMismatch _ _ _ _ => True
  | _ => False

theorem HostItem.resolve_not_mismatch {item : HostItem σ} (h : d.importType? e = some i)
    (ha : d.Admits e.item item.type) {err : LinkError} (he : item.resolve i = .error (.link err)) :
    ¬ err.IsMismatch := by
  rw [Definition.admits_iff h] at ha
  unfold HostItem.resolve at he
  cases ht : i.type <;> cases item <;> grind [HostItem.type, LinkError.IsMismatch]

namespace ImportObject

variable (o : ImportObject σ) (m : Module)

theorem links_of_resolve {ps : List (Provided σ)} (h : o.resolve m = .ok ps) :
    m.definition.Links (ps.map Provided.current) := by
  obtain ⟨-, hserves, -⟩ := (resolve_eq_ok_iff o m ps).1 h
  have hdesc := mapM_eq_some_iff.1 m.imports_eq
  unfold Definition.Links
  rw [List.forall₂_map_right_iff]
  refine (forall₂_trans hdesc hserves).imp fun e p => ?_
  rintro ⟨i, hi, hp⟩
  exact admits_of_serves hi hp

/-- A mismatch is the answer to the first import that cannot be served. -/
theorem exists_of_mismatch {err : LinkError} (h : o.resolve m = .error (.link err))
    (hm : err.IsMismatch) :
    ∃ pre e post i, m.definition.imports = pre ++ e :: post ∧ m.definition.importType? e = some i ∧
      (∀ e' ∈ pre, ∃ i' p, m.definition.importType? e' = some i' ∧ o.Serves i' p) ∧
      o.resolveImport i = .error (.link err) := by
  rcases (resolve_eq_error_iff o m _).1 h with h | ⟨-, pre, i, post, himports, hpre, hi⟩ | ⟨-, -, h⟩
  · unfold checkEngine at h
    grind [LinkError.IsMismatch]
  · have hdesc := mapM_eq_some_iff.1 m.imports_eq
    rw [himports] at hdesc
    obtain ⟨pre', e, post', hd, hpre', he⟩ := exists_append_of_forall₂ hdesc
    refine ⟨pre', e, post', i, hd, he, ?_, hi⟩
    intro e' he'
    obtain ⟨i', hi', hi''⟩ := exists_mem_of_forall₂ hpre' he'
    obtain ⟨p, hp⟩ := hpre i' hi'
    exact ⟨i', p, hi'', hp⟩
  · unfold checkUnused at h
    grind [LinkError.IsMismatch]

/-- **Resolving agrees with the engine.** What it answers is what the engine takes for the imports
of the module, one by one and in the state in which it is made. An import for which the host has an
item that the engine would take is never refused because of a kind or a type, and such a refusal of
a module is always that of one of its imports. -/
theorem resolve_agrees_with_engine :
    (∀ ps, o.resolve m = .ok ps → m.definition.Links (ps.map Provided.current)) ∧
    (∀ e ∈ m.definition.imports, ∀ i item, m.definition.importType? e = some i →
      o.get? e.module e.name = some item → m.definition.Admits e.item item.type →
      ∀ err, o.resolveImport i = .error (.link err) → ¬ err.IsMismatch) ∧
    (∀ err, o.resolve m = .error (.link err) → err.IsMismatch →
      ∃ pre e post i, m.definition.imports = pre ++ e :: post ∧
        m.definition.importType? e = some i ∧
        (∀ e' ∈ pre, ∃ i' p, m.definition.importType? e' = some i' ∧ o.Serves i' p) ∧
        o.resolveImport i = .error (.link err)) := by
  refine ⟨fun ps => links_of_resolve o m, ?_, fun err => exists_of_mismatch o m⟩
  intro e _ i item hi hitem ha err herr
  obtain ⟨hns, hname⟩ := Definition.importType?_names hi
  unfold resolveImport at herr
  rw [hns, hname, hitem] at herr
  exact HostItem.resolve_not_mismatch hi ha herr

end ImportObject

end Embedder
