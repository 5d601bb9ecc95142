import Embedder.Instance
import Embedder.Proofs.Linking.Matching

/-!
# What imports and exports become

The functions that a module imports are numbered in their order, and an instance has what serves
them in the same order. Its exports stand in the order in which the module declares them.

* `Definition.functionImports`: the imports that are functions;
* `ImportObject.forall₂_functions`, `ImportObject.exists_function`: what serves each of them in an
  instance;
* `Exports.access`, `Export.access`: one accessor for the four kinds;
* `Module.exportNames_nodup`: the names of exports are distinct;
* `Module.get_exportsOf`, `Module.access_eq_ok`: every export is found under its name, and what is
  found is declared under it.
-/

namespace Embedder

open Elementwise

variable {σ : Type}

/-! ### Imported functions -/

/-- The number of the type of an imported function. -/
def ImportItem.functionType? : ImportItem → Option Nat
  | .function t => some t
  | _ => none

/-- The imports that are functions with the numbers of their types, in the order of their own
numbers. -/
def Definition.functionImports (d : Definition) : List (ImportEntry × Nat) :=
  d.imports.filterMap fun e => e.item.functionType?.map fun t => (e, t)

lemma Definition.importedFunctions_eq (d : Definition) :
    d.importedFunctions = d.functionImports.map Prod.snd := by
  unfold importedFunctions functionImports
  rw [List.map_filterMap]
  congr 1
  funext e
  cases e.item <;> rfl

/-- The type that an imported function has by itself. -/
def Imported.type : Imported σ → FunctionType
  | .host f => f.type
  | .generated _ f => f.type

/-- What serves an imported function: an item of the host, or a function of the system interface
where the host has none. -/
inductive ImportObject.ServesFunction (o : ImportObject σ) (d : Definition) :
    ImportEntry × Nat → Imported σ → Prop
  | host {e : ImportEntry} {t : Nat} {f : HostFunction σ}
      (hi : o.get? e.module e.name = some (.function f)) (ht : d.types[t]? = some f.type) :
      ServesFunction o d (e, t) (.host f)
  | generated {e : ImportEntry} {t : Nat} {b : Wasi.Binding} {f : Wasi.Function}
      (hi : o.get? e.module e.name = none) (hb : o.wasi = some b)
      (hn : b.importNamespace = e.module) (hf : Wasi.Function.find? b.version e.name = some f)
      (ht : d.types[t]? = some f.type) : ServesFunction o d (e, t) (.generated b.version f)

lemma ImportObject.ServesFunction.type_eq {o : ImportObject σ} {d : Definition}
    {e : ImportEntry × Nat} {f : Imported σ} (h : o.ServesFunction d e f) :
    d.types[e.2]? = some f.type := by
  cases h with
  | host _ ht => exact ht
  | generated _ _ _ _ ht => exact ht

/-- The items of an import object stand before the system interface. -/
lemma ImportObject.ServesFunction.eq_host {o : ImportObject σ} {d : Definition}
    {e : ImportEntry × Nat} {f : Imported σ} {item : HostItem σ} (h : o.ServesFunction d e f)
    (hi : o.get? e.1.module e.1.name = some item) :
    ∃ hf, item = .function hf ∧ f = .host hf := by
  cases h with
  | host hi' _ =>
    rw [hi] at hi'
    exact ⟨_, Option.some.inj hi', rfl⟩
  | generated hi' _ _ _ _ =>
    rw [hi] at hi'
    cases hi'

/-- The descriptor of an import that is a function has its type. -/
lemma Definition.functionType?_of_importType? {d : Definition} {e : ImportEntry} {i : ImportType}
    (h : d.importType? e = some i) :
    match i.type with
    | .function t => ∃ k, e.item.functionType? = some k ∧ d.types[k]? = some t
    | _ => e.item.functionType? = none := by
  obtain ⟨ns, name, item⟩ := e
  unfold importType? at h
  cases item with
  | function k =>
    obtain ⟨t, ht, rfl⟩ := Option.map_eq_some_iff.1 h
    exact ⟨k, rfl, ht⟩
  | tag k => cases h
  | _ =>
    cases h
    rfl

namespace ImportObject

variable (o : ImportObject σ) {m : Module} {ps : List (Provided σ)}

/-- What serves the imports of a definition, one by one. -/
lemma forall₂_serves (h : o.resolve m = .ok ps) :
    List.Forall₂ (fun e p => ∃ i, m.definition.importType? e = some i ∧ o.Serves i p)
      m.definition.imports ps :=
  forall₂_trans (mapM_eq_some_iff.1 m.imports_eq) ((resolve_eq_ok_iff o m ps).1 h).2.1

/-- **Every imported function has what serves it under its own number.** -/
theorem forall₂_functions (h : o.resolve m = .ok ps) :
    List.Forall₂ (o.ServesFunction m.definition) m.definition.functionImports
      (Provided.functions ps) := by
  refine List.rel_filterMap ?_ (forall₂_serves o h)
  rintro e p ⟨i, hi, hp⟩
  obtain ⟨hns, hname⟩ := Definition.importType?_names hi
  have htype := Definition.functionType?_of_importType? hi
  cases hp with
  | @item item p hget hserves =>
    rw [hns, hname] at hget
    generalize i.type = t at hserves htype
    cases hserves with
    | function f =>
      obtain ⟨k, he, hk⟩ := htype
      simp only [he, Option.map_some]
      exact .some (.host hget hk)
    | _ =>
      simp only [htype, Option.map_none]
      exact .none
  | @generated b f hget hb hn hf ht =>
    rw [ht] at htype
    obtain ⟨k, he, hk⟩ := htype
    rw [hns] at hget hn
    rw [hname] at hget hf
    simp only [he, Option.map_some]
    exact .some (.generated hget hb hn hf hk)

/-- The functions of the host that a new instance imports are those of its import object. -/
lemma exists_function (h : o.resolve m = .ok ps) {k : Nat} {f : HostFunction σ}
    (hf : (Provided.functions ps).toArray[k]? = some (.host f)) :
    ∃ ns name, o.get? ns name = some (.function f) := by
  rw [List.getElem?_toArray] at hf
  obtain ⟨e, -, he⟩ := exists_mem_of_forall₂ (forall₂_functions o h).flip (List.mem_of_getElem? hf)
  cases he with
  | host hi _ => exact ⟨_, _, hi⟩

end ImportObject

/-! ### One accessor for the four kinds -/

/-- The entity at an index stands in the space of its kind. -/
lemma Definition.entityType?_eq_some_iff {d : Definition} {s : Space} {k : Nat} {t : EntityType} :
    d.entityType? s k = some t ↔
      match t with
      | .function t => s = .function ∧ d.functionType? k = some t
      | .memory t => s = .memory ∧ d.memorySpace[k]? = some t
      | .global t => s = .global ∧ d.globalSpace[k]? = some t
      | .table t => s = .table ∧ d.tableSpace[k]? = some t := by
  unfold entityType?
  cases s <;> cases t <;> simp

/-- An export as an entity of a kind. -/
def Export.access (x : Export) : Kind → Except ExportError Entity
  | .function => .function <$> x.asFunction
  | .memory => .memory <$> x.asMemory
  | .global => .global <$> x.asGlobal
  | .table => .table <$> x.asTable

/-- The export of a name as an entity of a kind. -/
def Exports.access (es : Exports) (s : String) : Kind → Except ExportError Entity
  | .function => .function <$> es.function s
  | .memory => .memory <$> es.memory s
  | .global => .global <$> es.global s
  | .table => .table <$> es.table s

lemma Export.access_eq (x : Export) (k : Kind) :
    x.access k = if x.entity.kind = k then .ok x.entity
      else .error (.wrongKind x.name k x.entity.kind) := by
  obtain ⟨name, entity⟩ := x
  cases entity <;> cases k <;> rfl

lemma Exports.access_eq (es : Exports) (s : String) (k : Kind) :
    es.access s k = es.get s >>= fun x => x.access k := by
  cases k
  all_goals
    simp only [access, function, memory, global, table]
    cases es.get s <;> rfl

/-- A valid definition has a context, and its sections are checked in it. -/
lemma Validation.exists_context {d : Definition} {code : List Code}
    (h : Validation.bodies? d = some code) :
    ∃ c, Validation.context d = some c ∧ Validation.sections d c = true := by
  unfold Validation.bodies? at h
  obtain ⟨c, hc, h⟩ := Option.bind_eq_some_iff.1 h
  split at h
  · rename_i hs
    exact ⟨c, hc, hs⟩
  · cases h

namespace Module

variable (m : Module)

/-! ### Functions of an instance -/

lemma imported_program : m.program.imported = m.definition.functionImports.length := by
  simp [program, Definition.importedFunctions_eq]

/-- All functions of a module without imports are its own. -/
lemma imported_of_imports (h : m.imports = []) : m.program.imported = 0 := by
  have hentries := m.imports_eq
  rw [h] at hentries
  have hnone : m.definition.imports = [] :=
    List.forall₂_nil_right_iff.1 (mapM_eq_some_iff.1 hentries)
  rw [m.imported_program, Definition.functionImports, hnone]
  rfl

lemma exists_context : ∃ c, Validation.context m.definition = some c ∧
    Validation.sections m.definition c = true := Validation.exists_context m.bodies_eq

/-- Every function of a valid module has a type. -/
lemma exists_functionTypes : ∃ ts, m.definition.functionSpace.mapM
    (fun t => m.definition.types[t]?) = some ts := by
  obtain ⟨c, hc, -⟩ := m.exists_context
  unfold Validation.context at hc
  obtain ⟨ts, hts, -⟩ := Option.bind_eq_some_iff.1 hc
  exact ⟨ts, hts⟩

/-- The functions of an instance have the types that the definition gives them. -/
theorem functions_program (k : Nat) : m.program.functions[k]? = m.definition.functionType? k := by
  obtain ⟨ts, hts⟩ := m.exists_functionTypes
  simp only [program, List.getElem?_toArray, List.getElem?_map, Definition.functionType?]
  cases ht : m.definition.functionSpace[k]? with
  | none => rfl
  | some t =>
    obtain ⟨u, -, hu⟩ := exists_mem_of_forall₂ (mapM_eq_some_iff.1 hts) (List.mem_of_getElem? ht)
    simp [hu]

/-- An imported function is numbered before the others. -/
lemma functionType?_of_import {k : Nat} {e : ImportEntry × Nat}
    (h : m.definition.functionImports[k]? = some e) :
    m.definition.functionType? k = m.definition.types[e.2]? := by
  have hlt := (List.getElem?_eq_some_iff.1 h).1
  unfold Definition.functionType? Definition.functionSpace
  rw [Definition.importedFunctions_eq, List.getElem?_append_left (by simpa using hlt),
    List.getElem?_map, h]
  rfl

/-! ### Exports of an instance -/

theorem exportNames_nodup : (m.definition.exports.map ExportEntry.name).Nodup := by
  obtain ⟨c, -, hs⟩ := m.exists_context
  unfold Validation.sections at hs
  simp only [Bool.and_eq_true, decide_eq_true_iff] at hs
  tauto

/-- The exports of an instance, one by one. -/
lemma forall₂_exportsOf {number : Nat} {es : Exports} (h : m.exportsOf number = .ok es) :
    List.Forall₂ (fun e x => ∃ t, m.definition.exportType? e = some t ∧
      x = ⟨e.name, .ofType number e.index t.type⟩) m.definition.exports es.entries := by
  unfold exportsOf at h
  split at h
  · cases h
  · cases h
    refine (forall₂_map_zip (mapM_eq_some_iff.1 m.exports_eq) _).imp fun e x => ?_
    rintro ⟨t, ht, rfl⟩
    refine ⟨t, ht, ?_⟩
    obtain ⟨type, -, rfl⟩ := Option.map_eq_some_iff.1 ht
    rfl

/-- **Every export is found under its name.** -/
theorem get_exportsOf {number : Nat} {es : Exports} (h : m.exportsOf number = .ok es)
    {e : ExportEntry} (he : e ∈ m.definition.exports) :
    ∃ t, m.definition.exportType? e = some t ∧
      es.get e.name = .ok ⟨e.name, .ofType number e.index t.type⟩ := by
  have hall := m.forall₂_exportsOf h
  have hnames : m.definition.exports.map ExportEntry.name = es.entries.map Export.name :=
    map_eq_map_of_forall₂ (hall.imp fun e x => by rintro ⟨t, -, rfl⟩; rfl)
  obtain ⟨x, hx, t, ht, rfl⟩ := exists_mem_of_forall₂ hall he
  refine ⟨t, ht, ?_⟩
  have hfind := find?_eq_some_of_nodup (hnames ▸ m.exportNames_nodup) hx
  unfold Exports.get
  rw [hfind]

/-- Every export that is found is declared under its name. -/
theorem get_eq_ok {number : Nat} {es : Exports} (h : m.exportsOf number = .ok es) {name : String}
    {x : Export} (hx : es.get name = .ok x) :
    ∃ e ∈ m.definition.exports, e.name = name ∧ ∃ t,
      m.definition.entityType? e.space e.index = some t ∧ x = ⟨name, .ofType number e.index t⟩ := by
  obtain ⟨hmem, hname⟩ : x ∈ es.entries ∧ x.name = name := by
    unfold Exports.get at hx
    split at hx
    · rename_i y hy
      cases hx
      have hfound := List.find?_some hy
      exact ⟨List.mem_of_find?_eq_some hy, eq_of_beq hfound⟩
    · cases hx
  obtain ⟨e, he, t, ht, rfl⟩ := exists_mem_of_forall₂ (m.forall₂_exportsOf h).flip hmem
  obtain ⟨type, htype, rfl⟩ := Option.map_eq_some_iff.1 ht
  subst hname
  exact ⟨e, he, rfl, type, htype, rfl⟩

/-- What is found as an entity of a kind is declared under its name. -/
lemma access_eq_ok {number : Nat} {es : Exports} (h : m.exportsOf number = .ok es) {name : String}
    {k : Kind} {entity : Entity} (hx : es.access name k = .ok entity) :
    ∃ e ∈ m.definition.exports, e.name = name ∧ ∃ t,
      m.definition.entityType? e.space e.index = some t ∧ entity = .ofType number e.index t := by
  rw [Exports.access_eq] at hx
  obtain ⟨x, hget, hx⟩ := bind_eq_ok_iff.1 hx
  obtain ⟨e, he, hname, t, ht, rfl⟩ := m.get_eq_ok h hget
  rw [Export.access_eq] at hx
  split at hx
  · cases hx
    exact ⟨e, he, hname, t, ht, rfl⟩
  · cases hx

/-- A function that is found has the type that the module declares for it. -/
theorem function_eq_ok {number : Nat} {es : Exports} (h : m.exportsOf number = .ok es)
    {name : String} {x : Handle FunctionType} (hx : es.function name = .ok x) :
    x.address.owner = number ∧ m.definition.functionType? x.address.index = some x.type := by
  have haccess : es.access name .function = .ok (.function x) := congrArg (Functor.map Entity.function) hx
  obtain ⟨e, -, -, t, ht, hentity⟩ := m.access_eq_ok h haccess
  cases t <;> cases hentity
  exact ⟨rfl, (Definition.entityType?_eq_some_iff.1 ht).2⟩

/-- A memory that is found has the type that the module declares for it. -/
theorem memory_eq_ok {number : Nat} {es : Exports} (h : m.exportsOf number = .ok es) {name : String}
    {x : Handle MemoryType} (hx : es.memory name = .ok x) :
    x.address.owner = number ∧ m.definition.memorySpace[x.address.index]? = some x.type := by
  have haccess : es.access name .memory = .ok (.memory x) := congrArg (Functor.map Entity.memory) hx
  obtain ⟨e, -, -, t, ht, hentity⟩ := m.access_eq_ok h haccess
  cases t <;> cases hentity
  exact ⟨rfl, (Definition.entityType?_eq_some_iff.1 ht).2⟩

/-- A global that is found has the type that the module declares for it. -/
theorem global_eq_ok {number : Nat} {es : Exports} (h : m.exportsOf number = .ok es) {name : String}
    {x : Handle GlobalType} (hx : es.global name = .ok x) :
    x.address.owner = number ∧ m.definition.globalSpace[x.address.index]? = some x.type := by
  have haccess : es.access name .global = .ok (.global x) := congrArg (Functor.map Entity.global) hx
  obtain ⟨e, -, -, t, ht, hentity⟩ := m.access_eq_ok h haccess
  cases t <;> cases hentity
  exact ⟨rfl, (Definition.entityType?_eq_some_iff.1 ht).2⟩

end Module

end Embedder
