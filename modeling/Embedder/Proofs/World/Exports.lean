import Embedder.Export.Function
import Embedder.Proofs.Dictionaries
import Embedder.Proofs.Linking.Spaces
import Embedder.Proofs.Modules.Compiling
import Embedder.Proofs.World.Phases

/-!
# Exports under their names

A host finds an export by its name and asks for it as an entity of one kind. The names of a module's
exports are distinct, so its list of exports and a table of places by name say the same.

* `Exports.index`: the table of places by name, `Exports.index_find?_eq_some_iff`: it is the inverse
  of the list of names, `Exports.get_eq_getByIndex`: names are looked up there or in the list alike;
* `Module.expose`, `Module.exposed_eq`: an engine's entities are paired with the descriptors by
  their names, and only a shared memory cannot be;
* `Exports.Mirrors`: exports say what the module declares;
* `World.exports_mirror_module`: those of every new instance do.
-/

namespace Embedder

open Elementwise
open Execution (Guest)

/-! ### A table of keys -/

namespace Exports

variable (es : Exports)

/-- The place of every name. Of several exports of one name the last would count. -/
def index : Dictionary String Nat :=
  Dictionary.merge [] (es.entries.zipIdx.map fun x => (x.1.name, x.2))

variable {es} {s : String} {x : Export}

lemma keys_places : Dictionary.keys (es.entries.zipIdx.map fun x => (x.1.name, x.2)) =
    es.entries.map Export.name := by
  have hkeys : Dictionary.keys (es.entries.zipIdx.map fun x => (x.1.name, x.2)) =
      (es.entries.zipIdx.map Prod.fst).map Export.name := by
    simp only [Dictionary.keys, List.map_map, Function.comp_def]
  rw [hkeys, List.zipIdx_map_fst]

/-- The table and the list of names are inverse to each other. -/
theorem index_find?_eq_some_iff (hn : (es.entries.map Export.name).Nodup) {i : Nat} :
    es.index.find? s = some i ↔ (es.entries[i]?).map Export.name = some s := by
  unfold index
  rw [Dictionary.find?_merge_eq_some_iff (keys_places ▸ hn)]
  simp [Dictionary.find?, List.mem_zipIdx_iff_getElem?]

/-- An export is found by its name, which no other one has. -/
lemma find?_eq_some_iff (hn : (es.entries.map Export.name).Nodup) :
    (es.entries.find? fun x => x.name == s) = some x ↔ x ∈ es.entries ∧ x.name = s := by
  constructor
  · intro h
    exact ⟨List.mem_of_find?_eq_some h, by simpa using List.find?_some h⟩
  · rintro ⟨hx, rfl⟩
    exact find?_eq_some_of_nodup hn hx

lemma get_eq_ok_iff (hn : (es.entries.map Export.name).Nodup) :
    es.get s = .ok x ↔ x ∈ es.entries ∧ x.name = s := by
  rw [← find?_eq_some_iff hn]
  unfold get
  cases es.entries.find? fun x => x.name == s <;> simp

/-- A name is looked up in the table. -/
def getByIndex (es : Exports) (s : String) : Except ExportError Export :=
  match (es.index.find? s).bind fun i => es.entries[i]? with
  | some x => .ok x
  | none => .error (.notFound s)

/-- **The table and the list answer alike.** -/
theorem get_eq_getByIndex (hn : (es.entries.map Export.name).Nodup) (s : String) :
    es.get s = es.getByIndex s := by
  unfold get getByIndex
  suffices h : (es.entries.find? fun x => x.name == s) =
      (es.index.find? s).bind fun i => es.entries[i]? from
    h ▸ rfl
  refine Option.ext fun x => ?_
  rw [find?_eq_some_iff hn, Option.bind_eq_some_iff]
  constructor
  · rintro ⟨hx, rfl⟩
    obtain ⟨i, hi⟩ := List.getElem?_of_mem hx
    exact ⟨i, (index_find?_eq_some_iff hn).2 (by rw [hi]; rfl), hi⟩
  · rintro ⟨i, hi, hx⟩
    have hname := (index_find?_eq_some_iff hn).1 hi
    rw [hx] at hname
    exact ⟨List.mem_of_getElem? hx, Option.some.inj hname⟩

lemma contains_iff : es.contains s = true ↔ ∃ x ∈ es.entries, x.name = s := by
  simp [contains]

/-- A name is contained if the table has a place for it. -/
theorem contains_eq_index (hn : (es.entries.map Export.name).Nodup) (s : String) :
    es.contains s = (es.index.find? s).isSome := by
  rw [Bool.eq_iff_iff, contains_iff, Option.isSome_iff_exists]
  constructor
  · rintro ⟨x, hx, rfl⟩
    obtain ⟨i, hi⟩ := List.getElem?_of_mem hx
    exact ⟨i, (index_find?_eq_some_iff hn).2 (by rw [hi]; rfl)⟩
  · rintro ⟨i, hi⟩
    obtain ⟨x, hx, hname⟩ := Option.map_eq_some_iff.1 ((index_find?_eq_some_iff hn).1 hi)
    exact ⟨x, List.mem_of_getElem? hx, hname⟩

end Exports

/-! ### What an engine exports -/

lemma Entity.kind_eq (x : Entity) : x.kind = x.type.kind := by cases x <;> rfl

@[simp] lemma Entity.type_ofType (n i : Nat) (t : EntityType) : (Entity.ofType n i t).type = t := by
  cases t <;> rfl

/-- An export by its name and its type. -/
def Export.descriptor (x : Export) : ExportType := ⟨x.name, x.entity.type⟩

/-- Why an export of an engine cannot be held. -/
inductive ExposureError where
  | missing (name : String)
  | unexposable (name : String)
  deriving DecidableEq

/-- The entity at an index, of the type that the engine has for it, as one of a declared type. The
host has no entity for a shared memory. -/
def Entity.expose? (owner index : Nat) : EntityType → EntityType → Option Entity
  | .function _, .function t => some (.function ⟨⟨owner, index⟩, t⟩)
  | .memory own, .memory t => if own.shared then none else some (.memory ⟨⟨owner, index⟩, t⟩)
  | .global _, .global t => some (.global ⟨⟨owner, index⟩, t⟩)
  | .table _, .table t => some (.table ⟨⟨owner, index⟩, t⟩)
  | _, _ => none

lemma Entity.expose?_self (owner index : Nat) (t : EntityType) :
    Entity.expose? owner index t t =
      if Module.isHidden t then none else some (.ofType owner index t) := by
  cases t <;> rfl

namespace Module

variable (m : Module) {number : Nat} {es : Exports}

/-- The index and the type of the entity that an engine has under a name. -/
def extern? (s : String) : Option (Nat × EntityType) :=
  (m.definition.exports.find? fun e => e.name == s).bind fun e =>
    (m.definition.entityType? e.space e.index).map fun t => (e.index, t)

/-- Pairs a descriptor with the entity that the engine has under its name. -/
def expose (number : Nat) (e : ExportType) : Except ExposureError Export :=
  match m.extern? e.name with
  | none => .error (.missing e.name)
  | some (index, own) =>
    match Entity.expose? number index own e.type with
    | none => .error (.unexposable e.name)
    | some entity => .ok ⟨e.name, entity⟩

/-- The exports of an instance, found by the names of the descriptors. -/
def exposed (number : Nat) : Except ExposureError Exports :=
  (m.exports.mapM (m.expose number)).map Exports.mk

/-- What the engine has under the name of a descriptor is what it describes. -/
lemma extern?_of_exportType? {e : ExportEntry} (he : e ∈ m.definition.exports) {x : ExportType}
    (hx : m.definition.exportType? e = some x) : m.extern? x.name = some (e.index, x.type) := by
  obtain ⟨t, ht, rfl⟩ := Option.map_eq_some_iff.1 hx
  simp [extern?, find?_eq_some_of_nodup m.exportNames_nodup he, ht]

lemma expose_eq {e : ExportEntry} (he : e ∈ m.definition.exports) {x : ExportType}
    (hx : m.definition.exportType? e = some x) (number : Nat) :
    m.expose number x = if isHidden x.type then .error (.unexposable x.name)
      else .ok ⟨x.name, .ofType number e.index x.type⟩ := by
  unfold expose
  rw [m.extern?_of_exportType? he hx]
  simp only [Entity.expose?_self]
  split <;> simp_all

/-- Every descriptor describes an export of the definition. -/
lemma exists_entry {x : ExportType} (hx : x ∈ m.exports) :
    ∃ e ∈ m.definition.exports, m.definition.exportType? e = some x :=
  exists_mem_of_forall₂ (mapM_eq_some_iff.1 m.exports_eq).flip hx

/-- The descriptors of an instance's exports are those of the module. -/
lemma map_descriptor (h : m.exportsOf number = .ok es) :
    es.entries.map Export.descriptor = m.exports := by
  have hpairs := forall₂_trans (mapM_eq_some_iff.1 m.exports_eq).flip (m.forall₂_exportsOf h)
  rw [← List.forall₂_eq_eq_eq, List.forall₂_map_left_iff]
  refine hpairs.flip.imp fun x t => ?_
  rintro ⟨e, ht, t', ht', rfl⟩
  obtain rfl : t' = t := Option.some.inj (ht'.symm.trans ht)
  obtain ⟨type, -, rfl⟩ := Option.map_eq_some_iff.1 ht
  simp [Export.descriptor]

/-- Where nothing is hidden, every descriptor is paired with its entity. -/
lemma mapM_expose_of_ok (h : m.exportsOf number = .ok es) :
    m.exports.mapM (m.expose number) = .ok es.entries := by
  have hshown : ∀ x ∈ m.exports, isHidden x.type = false := by
    unfold exportsOf at h
    split at h
    · cases h
    · rename_i hnone
      simpa using hnone
  have hentries : List.Forall₂ (fun e x => e ∈ m.definition.exports ∧
      m.definition.exportType? e = some x) m.definition.exports m.exports :=
    (List.forall₂_and_left _ _).2 ⟨fun _ he => he, mapM_eq_some_iff.1 m.exports_eq⟩
  have hpairs := forall₂_trans hentries.flip (m.forall₂_exportsOf h)
  rw [mapM_eq_ok_iff]
  refine ((List.forall₂_and_left _ _).2 ⟨hshown, hpairs⟩).imp fun x y => ?_
  rintro ⟨hx, e, ⟨he, hex⟩, t, ht, rfl⟩
  obtain rfl : t = x := Option.some.inj (ht.symm.trans hex)
  obtain ⟨type, -, rfl⟩ := Option.map_eq_some_iff.1 hex
  rw [m.expose_eq he hex, if_neg (by simp [hx])]

/-- The first descriptor of a shared memory is the first that cannot be paired. -/
lemma mapM_expose_of_hidden {x : ExportType}
    (h : (m.exports.find? fun e => isHidden e.type) = some x) :
    m.exports.mapM (m.expose number) = .error (.unexposable x.name) := by
  obtain ⟨hhidden, pre, post, hexports, hpre⟩ := List.find?_eq_some_iff_append.1 h
  rw [mapM_eq_error_iff]
  refine ⟨pre, x, post, hexports, fun y hy => ?_, ?_⟩
  · obtain ⟨e, he, hey⟩ := m.exists_entry (x := y) (by simp [hexports, hy])
    have hy := hpre y hy
    exact ⟨_, (m.expose_eq he hey number).trans (if_neg (by simpa using hy))⟩
  · obtain ⟨e, he, hex⟩ := m.exists_entry (x := x) (by simp [hexports])
    rw [m.expose_eq he hex, if_pos hhidden]

/-- **An engine's entities are paired with the descriptors as the module declares them.** None is
missing, and the only ones that a host cannot hold are shared memories. -/
theorem exposed_eq (number : Nat) :
    m.exposed number = (m.exportsOf number).mapError .unexposable := by
  unfold exposed
  cases h : m.exportsOf number with
  | ok es =>
    rw [m.mapM_expose_of_ok h]
    rfl
  | error name =>
    obtain ⟨x, hx, rfl⟩ := World.exportsOf_eq_error_iff.1 h
    rw [m.mapM_expose_of_hidden hx]
    rfl

/-- Exports can be held unless one is a shared memory. -/
lemma exists_exportsOf (h : ∀ e ∈ m.exports, ∀ t, e.type = .memory t → t.shared = false)
    (number : Nat) : ∃ es, m.exportsOf number = .ok es := by
  cases hes : m.exportsOf number with
  | ok es => exact ⟨es, rfl⟩
  | error name =>
    obtain ⟨⟨name, type⟩, hx, -⟩ := World.exportsOf_eq_error_iff.1 hes
    have hhidden := List.find?_some hx
    cases type with
    | memory t =>
      have hshared := h _ (List.mem_of_find?_eq_some hx) t rfl
      exact absurd hshared (by simpa [isHidden] using hhidden)
    | _ => cases hhidden

lemma entryNames_nodup (h : m.exportsOf number = .ok es) :
    (es.entries.map Export.name).Nodup := by
  have hnames : m.definition.exports.map ExportEntry.name = es.entries.map Export.name :=
    map_eq_map_of_forall₂ ((m.forall₂_exportsOf h).imp fun e x => by rintro ⟨t, -, rfl⟩; rfl)
  exact hnames ▸ m.exportNames_nodup

end Module

/-! ### Exports as the module declares them -/

/-- The exports of the instance of a number say what its module declares. -/
structure Exports.Mirrors (es : Exports) (m : Module) (number : Nat) : Prop where
  /-- They come in the order of the declarations. -/
  kinds : es.kinds = m.exports.map fun e => (e.name, e.type.kind)
  size : es.size = m.exports.length
  /-- The engine's entities were found by the names of the descriptors. -/
  exposed : m.exposed number = .ok es
  /-- Looking up in the list and in the table of places is the same. -/
  getByIndex : ∀ s, es.get s = es.getByIndex s
  containsIndex : ∀ s, es.contains s = (es.index.find? s).isSome
  contains : ∀ s, es.contains s = true ↔ ∃ e ∈ m.exports, e.name = s
  found : ∀ s, (∃ x, es.get s = .ok x) ↔ ∃ e ∈ m.exports, e.name = s
  /-- What is found is the only entry of the name. -/
  unique : ∀ s x, es.get s = .ok x → (es.entries.filter fun y => y.name == s) = [x]
  /-- It is the entity that the module exports, and it has the type of the descriptor. -/
  entity : ∀ e ∈ m.definition.exports, ∃ t, m.definition.entityType? e.space e.index = some t ∧
    ⟨e.name, t⟩ ∈ m.exports ∧ es.get e.name = .ok ⟨e.name, .ofType number e.index t⟩
  notFound : ∀ s k, es.access s k = .error (.notFound s) ↔ ¬ ∃ e ∈ m.exports, e.name = s
  accessed : ∀ s k, (∃ x, es.access s k = .ok x) ↔ ∃ e ∈ m.exports, e.name = s ∧ e.type.kind = k
  wrongKind : ∀ s k actual, es.access s k = .error (.wrongKind s k actual) ↔
    actual ≠ k ∧ ∃ e ∈ m.exports, e.name = s ∧ e.type.kind = actual
  /-- An accessor by name answers as that of the export does. -/
  handle : ∀ s k x, es.get s = .ok x → es.access s k = x.access k
  /-- Calling by name fails as the accessor of functions does, and else it calls the function. -/
  refused : ∀ (σ : Type) s arguments e,
    (es.invoke s arguments : Action σ _) = .done (.error (.exports e)) ↔ es.function s = .error e
  invoked : ∀ (σ : Type) s arguments f, es.function s = .ok f →
    (es.invoke s arguments : Action σ _) = (f.call arguments).bind fun r =>
      .done (r.mapError .call)

namespace Module

variable {m : Module} {number : Nat} {es : Exports} (h : m.exportsOf number = .ok es)

include h

/-- A property of descriptors holds of an export if it holds of what the module declares. -/
lemma exists_descriptor_iff {p : ExportType → Prop} :
    (∃ e ∈ m.exports, p e) ↔ ∃ x ∈ es.entries, p x.descriptor := by
  rw [← m.map_descriptor h]
  simp

/-- The export of a name is found as an entity of a kind, or it is clear why not. -/
lemma access_cases (s : String) (k : Kind) :
    (es.access s k = .error (.notFound s) ∧ ¬ ∃ e ∈ m.exports, e.name = s) ∨
      ∃ x ∈ es.entries, x.name = s ∧ es.get s = .ok x ∧ es.access s k = x.access k := by
  have hn := m.entryNames_nodup h
  by_cases hs : ∃ x ∈ es.entries, x.name = s
  · obtain ⟨x, hx, hname⟩ := hs
    have hget := (Exports.get_eq_ok_iff hn).2 ⟨hx, hname⟩
    exact .inr ⟨x, hx, hname, hget, by rw [Exports.access_eq, hget]; rfl⟩
  · refine .inl ⟨?_, fun he => hs ((exists_descriptor_iff h).1 he)⟩
    have hget : es.get s = .error (.notFound s) := by
      unfold Exports.get
      rw [List.find?_eq_none.2 (by simpa using hs)]
    rw [Exports.access_eq, hget]
    rfl

/-- A name has one descriptor, that of the export that is found under it. -/
lemma exists_named_iff {s : String} {x : Export} (hx : es.get s = .ok x) {p : ExportType → Prop} :
    (∃ e ∈ m.exports, e.name = s ∧ p e) ↔ p x.descriptor := by
  rw [exists_descriptor_iff h]
  have hget {y : Export} : es.get s = .ok y ↔ y ∈ es.entries ∧ y.name = s :=
    Exports.get_eq_ok_iff (m.entryNames_nodup h)
  constructor
  · rintro ⟨y, hy, hname, hp⟩
    obtain rfl : x = y := Except.ok.inj (hx.symm.trans (hget.2 ⟨hy, hname⟩))
    exact hp
  · intro hp
    obtain ⟨hmem, hname⟩ := hget.1 hx
    exact ⟨x, hmem, hname, hp⟩

lemma access_eq_notFound_iff (s : String) (k : Kind) :
    es.access s k = .error (.notFound s) ↔ ¬ ∃ e ∈ m.exports, e.name = s := by
  obtain ⟨haccess, hs⟩ | ⟨x, hx, hname, hget, haccess⟩ := access_cases h s k
  · exact iff_of_true haccess hs
  · refine iff_of_false ?_ (not_not.2 ((exists_descriptor_iff h).2 ⟨x, hx, hname⟩))
    rw [haccess, Export.access_eq]
    split <;> simp

lemma access_eq_ok_iff (s : String) (k : Kind) :
    (∃ x, es.access s k = .ok x) ↔ ∃ e ∈ m.exports, e.name = s ∧ e.type.kind = k := by
  obtain ⟨haccess, hs⟩ | ⟨x, -, -, hget, haccess⟩ := access_cases h s k
  · refine iff_of_false (by simp [haccess]) ?_
    rintro ⟨e, he, hname, -⟩
    exact hs ⟨e, he, hname⟩
  · rw [exists_named_iff h hget, haccess, Export.access_eq, Export.descriptor, ← Entity.kind_eq]
    split <;> simp_all

lemma access_eq_wrongKind_iff (s : String) (k actual : Kind) :
    es.access s k = .error (.wrongKind s k actual) ↔
      actual ≠ k ∧ ∃ e ∈ m.exports, e.name = s ∧ e.type.kind = actual := by
  obtain ⟨haccess, hs⟩ | ⟨x, -, hname, hget, haccess⟩ := access_cases h s k
  · refine iff_of_false (by simp [haccess]) ?_
    rintro ⟨-, e, he, hname, -⟩
    exact hs ⟨e, he, hname⟩
  · rw [exists_named_iff h hget, haccess, Export.access_eq, Export.descriptor, ← Entity.kind_eq]
    split
    · grind
    · simp only [Except.error.injEq, ExportError.wrongKind.injEq, hname, true_and]
      grind

end Module

/-! ### Calls by name -/

/-- A call by name fails for its name exactly if there is no such function. -/
lemma Exports.invoke_eq_refused_iff {σ : Type} (es : Exports) (s : String) (arguments : List Value)
    (e : ExportError) : (es.invoke s arguments : Action σ _) = .done (.error (.exports e)) ↔
      es.function s = .error e := by
  unfold invoke
  cases es.function s with
  | error e' => simp
  | ok f =>
    refine iff_of_false ?_ (by simp)
    simp only [Handle.call]
    split
    · intro hcall
      cases hcall
    · intro hcall
      cases hcall

/-! ### New instances -/

/-- **Exports that an instance has are those that its module declares.** -/
theorem Module.mirrors_exportsOf {m : Module} {number : Nat} {es : Exports}
    (h : m.exportsOf number = .ok es) : es.Mirrors m number := by
  have hn := m.entryNames_nodup h
  have hdescriptors := m.map_descriptor h
  have hget {s : String} {x : Export} : es.get s = .ok x ↔ x ∈ es.entries ∧ x.name = s :=
    Exports.get_eq_ok_iff hn
  have hcontains {s : String} : (∃ x ∈ es.entries, x.name = s) ↔ ∃ e ∈ m.exports, e.name = s :=
    (exists_descriptor_iff h (p := fun e => e.name = s)).symm
  refine
    { kinds := ?_, size := ?_, exposed := ?_, getByIndex := Exports.get_eq_getByIndex hn
      containsIndex := Exports.contains_eq_index hn, contains := ?_, found := ?_, unique := ?_
      entity := ?_, notFound := access_eq_notFound_iff h, accessed := access_eq_ok_iff h
      wrongKind := access_eq_wrongKind_iff h, handle := ?_
      refused := fun σ => Exports.invoke_eq_refused_iff es, invoked := ?_ }
  · rw [← hdescriptors, List.map_map]
    exact List.map_congr_left fun x _ => by simp [Export.descriptor, Entity.kind_eq]
  · rw [← hdescriptors, List.length_map, Exports.size]
  · rw [m.exposed_eq, h]
    rfl
  · intro s
    rw [Exports.contains_iff, hcontains]
  · intro s
    rw [← hcontains]
    exact exists_congr fun x => hget
  · intro s x hx
    obtain ⟨hmem, rfl⟩ := hget.1 hx
    exact filter_eq_singleton_of_nodup hn hmem
  · intro e he
    obtain ⟨t, ht, hfound⟩ := m.get_exportsOf h he
    obtain ⟨x, hx, hex⟩ := exists_mem_of_forall₂ (mapM_eq_some_iff.1 m.exports_eq) he
    obtain rfl : t = x := Option.some.inj (ht.symm.trans hex)
    obtain ⟨type, htype, rfl⟩ := Option.map_eq_some_iff.1 ht
    exact ⟨type, htype, hx, hfound⟩
  · intro s k x hx
    rw [Exports.access_eq, hx]
    rfl
  · intro σ s arguments f hf
    unfold Exports.invoke
    rw [hf]
    rfl

namespace World

variable {σ : Type} {w : World σ} {m : Module} {o : ImportObject σ}

/-- **Exports mirror the module.** If none of the exports is a shared memory, an instance whose start
function comes to its end is made, and its exports say what the module declares. -/
theorem exports_mirror_module
    (hshown : ∀ e ∈ m.exports, ∀ t, e.type = .memory t → t.shared = false)
    {c : Wasi.Context} {ps : List (Provided σ)} {g g₁ : Guest} {w₁ : World σ}
    (hp : w.Prepares m o c ps g) (hs : w.Starts m c ps g g₁ w₁) :
    ∃ es, w.instantiate m o =
        (.made ⟨w.slots.size, m, es⟩, w₁.settle w.slots.size m.boundMemory g₁) ∧
      es.Mirrors m w.slots.size := by
  obtain ⟨es, hes⟩ := m.exists_exportsOf hshown w.slots.size
  unfold Starts at hs
  refine ⟨es, ?_, Module.mirrors_exportsOf hes⟩
  simp only [instantiate_of_prepares hp, launch, hs, hes]

end World

/-- A module with names that look alike, and one that is empty. -/
def Module.lookAlikesDefinition : Definition :=
  { Definition.empty with
    memories := [⟨1, none, false, false⟩]
    globals := [⟨⟨.i32, false⟩, [.op (.const (.i32 7))]⟩]
    exports := [⟨"", .global, 0⟩, ⟨"Count", .memory, 0⟩, ⟨"count", .global, 0⟩] }

def Module.lookAlikes : Module where
  engine := .standard 0
  binary := Binary.encode lookAlikesDefinition .empty
  definition := lookAlikesDefinition
  code := []
  imports := []
  exports := [⟨"", .global ⟨.i32, false⟩⟩, ⟨"Count", .memory ⟨1, none, false, false⟩⟩,
    ⟨"count", .global ⟨.i32, false⟩⟩]
  customs := []
  name := none
  bodies_eq := by decide
  imports_eq := rfl
  exports_eq := rfl

lemma Module.compile_lookAlikes : compile (.standard 0) lookAlikes.binary = .ok lookAlikes :=
  compile_self (m := lookAlikes) (by decide +kernel) (by decide +kernel) (by decide +kernel)
    rfl rfl

/-- Names differ by the case of their letters. -/
theorem World.look_alikes_apart :
    Module.compile (.standard 0) Module.lookAlikes.binary = .ok .lookAlikes ∧
    (∀ e ∈ Module.lookAlikes.exports, ∀ t, e.type = .memory t → t.shared = false) ∧
      ∃ es w, World.instantiate (.create () (.ofFiles .empty)) .lookAlikes .empty =
          (.made ⟨0, .lookAlikes, es⟩, w) ∧
        es.Mirrors .lookAlikes 0 ∧
        es.access "Count" .global = .error (.wrongKind "Count" .global .memory) ∧
        es.access "COUNT" .global = .error (.notFound "COUNT") ∧
        ∃ x, es.access "" .global = .ok x := by
  have hshown : ∀ e ∈ Module.lookAlikes.exports, ∀ t, e.type = .memory t → t.shared = false := by
    simp [Module.lookAlikes]
  have hp : World.Prepares (.create () (.ofFiles .empty)) .lookAlikes .empty .empty []
      ⟨#[.ofType ⟨1, none, false, false⟩], #[], #[.i32 7], #[], #[]⟩ :=
    ⟨rfl, ImportObject.resolve_empty rfl, rfl⟩
  obtain ⟨es, hmade, h⟩ := exports_mirror_module hshown hp rfl
  refine ⟨Module.compile_lookAlikes, hshown, es, _, hmade, h, ?_, ?_, ?_⟩
  · exact (h.wrongKind _ _ _).2 ⟨by decide, by simp [Module.lookAlikes, EntityType.kind]⟩
  · exact (h.notFound _ _).2 (by simp [Module.lookAlikes])
  · exact (h.accessed _ _).2 ⟨_, .head _, rfl, rfl⟩

end Embedder
