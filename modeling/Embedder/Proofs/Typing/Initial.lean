import Embedder.Proofs.Linking.Spaces
import Embedder.Proofs.Typing.Machine

/-!
# Instances start with their types

A valid module has a program that is checked, and an instance of it starts with globals, tables and
segments of the types that the module declares.

* `Definition.Describes`: a context is that of a definition whose sections are checked in it;
* `constant?_typed`: constant expressions have their types;
* `Supplied.Typed`, `ImportObject.supplied_typed`: what imports are served with;
* `Guest.populate_typed`: the state before the start function;
* `Module.exists_describes`, `Module.program_checked`: the code.
-/

namespace Embedder

open Execution (Guest Machine Supplied Trap)
open Validation (Context Stack)
open Elementwise

/-- The context is what the code of a valid definition may refer to. -/
structure Definition.Describes (d : Definition) (c : Context) : Prop where
  context : Validation.context d = some c
  sections : Validation.sections d c = true

namespace Definition.Describes

variable {d : Definition} {c : Context}

lemma eq (h : d.Describes c) : ∃ functions,
    List.Forall₂ (fun t u => d.types[t]? = some u) d.functionSpace functions ∧
      c = { types := d.types, functions, tables := d.tableSpace, memories := d.memorySpace
            globals := d.globalSpace, elements := d.elements.map fun e => e.items.type
            dataCount := d.dataCount, declared := Validation.declaredFunctions d, locals := #[]
            labels := [], results := [] } := by
  obtain ⟨functions, hf, hc⟩ := Option.bind_eq_some_iff.1 h.context
  exact ⟨functions, mapM_eq_some_iff.1 hf, (Option.some.inj hc).symm⟩

lemma types_eq (h : d.Describes c) : c.types = d.types := by
  obtain ⟨_, -, rfl⟩ := h.eq
  rfl

lemma tables_eq (h : d.Describes c) : c.tables = d.tableSpace := by
  obtain ⟨_, -, rfl⟩ := h.eq
  rfl

lemma globals_eq (h : d.Describes c) : c.globals = d.globalSpace := by
  obtain ⟨_, -, rfl⟩ := h.eq
  rfl

lemma elements_eq (h : d.Describes c) : c.elements = d.elements.map fun e => e.items.type := by
  obtain ⟨_, -, rfl⟩ := h.eq
  rfl

lemma functions_getElem? (h : d.Describes c) (k : Nat) : c.functions[k]? = d.functionType? k := by
  obtain ⟨functions, hf, rfl⟩ := h.eq
  have hk := congrArg (fun l => l[k]?.join) (map_eq_map_of_forall₂ (g := some) hf)
  simp only [List.getElem?_map] at hk
  unfold Definition.functionType?
  cases ht : d.functionSpace[k]? <;> cases hu : functions[k]? <;> simp_all

lemma constant_global (h : d.Describes c) {e : GlobalEntry} (he : e ∈ d.globals) :
    Validation.constant d c e.type.value e.init = true := by
  have hs := h.sections
  simp only [Validation.sections, Bool.and_eq_true, List.all_eq_true] at hs
  tauto

lemma elementSegment (h : d.Describes c) {e : ElementSegment} (he : e ∈ d.elements) :
    Validation.elementSegment d c e = true := by
  have hs := h.sections
  simp only [Validation.sections, Bool.and_eq_true, List.all_eq_true] at hs
  tauto

/-- The start function takes and gives nothing. -/
lemma startFunction (h : d.Describes c) {f : Nat} (hf : d.start = some f) :
    c.functions[f]? = some ⟨[], []⟩ := by
  have hs := h.sections
  simp only [Validation.sections, Bool.and_eq_true, hf, Option.all_some] at hs
  obtain ⟨⟨params, results⟩, ht, hempty⟩ := (Option.any_eq_true _ _).1 hs.1.1.2
  simp only [Bool.and_eq_true, List.isEmpty_iff] at hempty
  obtain ⟨rfl, rfl⟩ := hempty
  exact ht

end Definition.Describes

/-! ### Constant expressions -/

namespace Execution

variable {c : Context} {globals : Array Cell}

/-- The first globals of a context. -/
def GlobalsTyped (c : Context) (globals : Array Cell) : Prop :=
  globals.toList.map Cell.type <+: c.globals.map GlobalType.value

lemma GlobalsTyped.of_eq (h : globals.toList.map Cell.type = c.globals.map GlobalType.value) :
    GlobalsTyped c globals := ⟨[], by rw [List.append_nil, h]⟩

lemma GlobalsTyped.type_eq (h : GlobalsTyped c globals) {i : Nat} {x : Cell} {t : GlobalType}
    (hx : globals[i]? = some x) (ht : c.globals[i]? = some t) : x.type = t.value := by
  obtain ⟨rest, hrest⟩ := h
  have hi := congrArg (fun l => l[i]?) hrest
  rw [← Array.getElem?_toList] at hx
  rw [List.getElem?_append_left (by simpa using (List.getElem?_eq_some_iff.1 hx).1)] at hi
  simpa [hx, ht] using hi

lemma constantStep_typed (hg : GlobalsTyped c globals) {stack stack' : List Cell}
    {i : Instruction} {s : Stack} (hi : c.constantStep (.known (stack.map Cell.type)) i = some s)
    (h : constantStep globals stack i = some stack') : s = .known (stack'.map Cell.type) := by
  unfold constantStep at h
  split at h
  · rename_i k
    obtain ⟨x, hx, rfl⟩ := Option.map_eq_some_iff.1 h
    obtain ⟨t, ht, hs⟩ := Option.bind_eq_some_iff.1 hi
    rw [List.map_cons, hg.type_eq hx ht]
    exact (Option.some.inj hs).symm
  · rename_i o ho
    cases hr : Machine.onStack o stack with
    | error f =>
      rw [hr] at h
      cases h
    | ok cells =>
      rw [hr] at h
      cases h
      exact Machine.onStack_typed hi hr
  · cases h

lemma foldlM_constantStep_typed (hg : GlobalsTyped c globals) {is : List Instruction}
    (stack : List Cell) {stack' : List Cell} {s : Stack}
    (hi : is.foldlM c.constantStep (.known (stack.map Cell.type)) = some s)
    (h : is.foldlM (constantStep globals) stack = some stack') :
    s = .known (stack'.map Cell.type) := by
  induction is generalizing stack with
  | nil =>
    cases hi
    cases h
    rfl
  | cons i is ih =>
    obtain ⟨s₁, hs₁, hi⟩ := Option.bind_eq_some_iff.1 hi
    obtain ⟨stack₁, h₁, h⟩ := Option.bind_eq_some_iff.1 h
    obtain rfl := constantStep_typed hg hs₁ h₁
    exact ih stack₁ hi h

/-- A constant expression has its type. -/
theorem constant?_typed (hg : GlobalsTyped c globals) {imported : Nat} {t : ValueType}
    {is : List Instruction} (hc : c.constant imported t is = true) {x : Cell}
    (h : constant? globals is = some x) : x.type = t := by
  unfold Context.constant at hc
  obtain ⟨s, hs, hends⟩ := (Option.any_eq_true _ _).1 (Bool.and_eq_true _ _ ▸ hc).2
  unfold constant? at h
  split at h
  · rename_i y rest hfold
    cases h
    obtain rfl := foldlM_constantStep_typed hg [] hs hfold
    rw [Stack.endsWith_known_iff] at hends
    exact (List.cons.inj hends).1
  · cases h

lemma constant?_getD_typed (hg : GlobalsTyped c globals) {imported : Nat} {t : ValueType}
    {is : List Instruction} (hc : c.constant imported t is = true) :
    ((constant? globals is).getD (.zero t)).type = t := by
  cases h : constant? globals is with
  | none => exact Cell.type_zero t
  | some x => exact constant?_typed hg hc h

/-! ### What is supplied and what is allocated -/

/-- What serves the imports of globals and tables has their types. -/
structure Supplied.Typed (d : Definition) (s : Supplied) : Prop where
  globals : s.globals.map Cell.type = d.importedGlobals.map GlobalType.value
  tables : List.Forall₂ (fun u t => t.Typed ∧ t.element = u.element) d.importedTables s.tables

variable {d : Definition} {s : Supplied}

lemma segmentCells_typed (hg : GlobalsTyped c globals) {items : ElementItems}
    (hi : Validation.elementItems d c items = true) :
    ∀ x ∈ segmentCells globals items, x.type = items.type := by
  intro x hx
  cases items with
  | functions fs =>
    obtain ⟨f, -, rfl⟩ := List.mem_map.1 hx
    rfl
  | expressions t es =>
    obtain ⟨e, he, rfl⟩ := List.mem_map.1 hx
    have hc := List.all_eq_true.1 hi e he
    exact constant?_getD_typed (c := { c with declared := List.range c.functions.length }) hg hc

namespace Guest

/-- Every global that is added has its type. -/
lemma addGlobals_typed {gs : List GlobalEntry}
    (hgs : ∀ e ∈ gs, Validation.constant d c e.type.value e.init = true)
    (h : globals.toList.map Cell.type ++ gs.map (fun e => e.type.value) =
      c.globals.map GlobalType.value) :
    (addGlobals globals gs).toList.map Cell.type = c.globals.map GlobalType.value := by
  induction gs generalizing globals with
  | nil =>
    rw [List.map_nil, List.append_nil] at h
    exact h
  | cons e gs ih =>
    have hbefore : GlobalsTyped c globals := ⟨_, h⟩
    have htype := constant?_getD_typed
      (c := { c with declared := List.range c.functions.length }) hbefore (hgs e (by simp))
    change (addGlobals (globals.push _) gs).toList.map Cell.type = _
    refine ih (fun e he => hgs e (by simp [he])) ?_
    rw [← h]
    simp [htype]

lemma allocate_typed (hd : d.Describes c) (hs : s.Typed d) : (allocate d s).Typed c := by
  have hglobals : (allocate d s).globals.toList.map Cell.type = c.globals.map GlobalType.value := by
    refine addGlobals_typed (fun e he => hd.constant_global he) ?_
    simp [hd.globals_eq, Definition.globalSpace, hs.globals]
  refine ⟨hglobals, fun i t u ht hu => ?_, fun i cells t hi ht => ?_⟩
  · rw [hd.tables_eq] at hu
    simp only [allocate, List.getElem?_toArray] at ht
    have hown : List.Forall₂ (fun u t => t.Typed ∧ t.element = u.element) d.tables
        (d.tables.map Table.ofType) := by
      rw [List.forall₂_map_right_iff, List.forall₂_same]
      exact fun u _ => ⟨Table.typed_ofType u, rfl⟩
    exact rel_of_forall₂ (List.rel_append hs.tables hown) hu ht
  · rw [hd.elements_eq, List.getElem?_map] at ht
    simp only [allocate, List.getElem?_toArray, List.getElem?_map] at hi
    obtain ⟨e, he, rfl⟩ := Option.map_eq_some_iff.1 ht
    rw [he] at hi
    cases hi
    unfold keptElements
    split
    · have hsegment := hd.elementSegment (List.mem_of_getElem? he)
      exact segmentCells_typed (.of_eq hglobals) (Bool.and_eq_true _ _ ▸ hsegment).1
    · simp
    · simp

/-! ### Active segments -/

lemma placeElements_typed (hd : d.Describes c) {e : ElementSegment} (he : e ∈ d.elements)
    {g g' : Guest} (h : placeElements g e = .ok g') (hg : g.Typed c) : g'.Typed c := by
  have hsegment := hd.elementSegment he
  unfold Validation.elementSegment at hsegment
  unfold placeElements at h
  rw [Bool.and_eq_true] at hsegment
  obtain ⟨hitems, hmode⟩ := hsegment
  split at h
  · rename_i table offset hactive
    simp only [hactive, Bool.and_eq_true] at hmode
    obtain ⟨u, hu, hte⟩ := (Option.any_eq_true _ _).1 hmode.1
    have hcells := segmentCells_typed (.of_eq hg.globals) hitems
    simp only at h
    split at h
    · cases h
      exact hg.writeTable hu (fun x hx => (hcells x hx).trans (eq_of_beq hte).symm) _
    · cases h
  all_goals
    cases h
    exact hg

lemma placeData_typed {e : DataSegment} {g g' : Guest} (h : placeData g e = .ok g')
    (hg : g.Typed c) : g'.Typed c := by
  unfold placeData at h
  split at h
  · simp only at h
    split at h
    · cases h
      exact hg.changeMemory _ _
    · cases h
  · cases h
    exact hg

/-- **An instance starts with the types that its module declares.** -/
theorem populate_typed (hd : d.Describes c) (hs : s.Typed d) {g : Guest}
    (h : populate d s = .ok g) : g.Typed c := by
  unfold populate at h
  cases hplaced : d.elements.foldlM placeElements (allocate d s) with
  | error t =>
    rw [hplaced] at h
    cases h
  | ok g₁ =>
    rw [hplaced] at h
    have hg₁ := foldlM_ok_keeps (fun e he _ _ => placeElements_typed hd he) hplaced
      (allocate_typed hd hs)
    exact foldlM_ok_keeps (fun e _ _ _ => placeData_typed) h hg₁

end Guest

end Execution

/-! ### What a module becomes -/

/-- What serves an import has the kind of the import and, if it is a global or a table, its type. -/
inductive Provided.Fits {σ : Type} : ImportItem → Provided σ → Prop
  | host (k : Nat) (f : HostFunction σ) : Fits (.function k) (.host f)
  | generated (k : Nat) (v : Wasi.Version) (f : Wasi.Function) : Fits (.function k) (.generated v f)
  | global {t : GlobalType} {v : Value} (h : v.type = t.value) : Fits (.global t) (.global t v)
  | memory (t required : MemoryType) : Fits (.memory required) (.memory t)
  | table {t required : TableType} (h : t.element = required.element) :
      Fits (.table required) (.table t)

lemma ImportObject.Serves.fits {σ : Type} {o : ImportObject σ} {d : Definition} {e : ImportEntry}
    {i : ImportType} {p : Provided σ} (h : o.Serves i p) (hi : d.importType? e = some i) :
    p.Fits e.item := by
  obtain ⟨ns, name, item⟩ := e
  unfold Definition.importType? at hi
  cases h with
  | item hget hserves =>
    cases item with
    | function k =>
      obtain ⟨t, ht, rfl⟩ := Option.map_eq_some_iff.1 hi
      cases hserves
      exact .host k _
    | tag k => cases hi
    | global t =>
      cases hi
      cases hserves with
      | global _ v hv => exact .global hv
    | memory t =>
      cases hi
      cases hserves with
      | memory provided => exact .memory provided t
    | table t =>
      cases hi
      cases hserves with
      | table provided _ hs => exact .table (eq_of_beq (Bool.and_eq_true _ _ ▸ hs).1)
  | generated hget hb hn hf ht =>
    cases item with
    | function k => exact .generated k _ _
    | tag k => cases hi
    | _ =>
      cases hi
      cases ht

/-- What serves the imports of globals and tables has their types. -/
lemma ImportObject.supplied_typed {σ : Type} (o : ImportObject σ) {m : Module}
    {ps : List (Provided σ)} (h : o.resolve m = .ok ps) :
    (Provided.supplied ps).Typed m.definition := by
  have hfits : List.Forall₂ (fun e p => p.Fits e.item) m.definition.imports ps :=
    (forall₂_serves o h).imp fun e p ⟨i, hi, hp⟩ => hp.fits hi
  constructor
  · refine (map_eq_map_of_forall₂ (List.rel_filterMap ?_ hfits)).symm
    rintro ⟨ns, name, item⟩ p hp
    cases hp with
    | global h => exact .some h.symm
    | _ => exact .none
  · refine List.rel_filterMap ?_ hfits
    rintro ⟨ns, name, item⟩ p hp
    cases hp with
    | table h => exact .some ⟨Table.typed_ofType _, h⟩
    | _ => exact .none

/-! ### Code -/

/-- What it means that a function has code. -/
lemma Validation.body?_eq_some_iff {d : Definition} {c : Context} {k : Nat} {b : FunctionBody}
    {is : Code} :
    body? d c k b = some is ↔ Code.ofInstructions? b.code = some is ∧ ∃ t, d.types[k]? = some t ∧
      t.params.length + localCount b ≤ maxLocals ∧
      c.body t (t.params ++ b.localTypes).toArray is = true := by
  simp only [body?, Option.bind_eq_bind, Option.bind_eq_some_iff, Option.ite_none_right_eq_some,
    Option.some.injEq]
  constructor
  · rintro ⟨t, ht, is, his, hlocals, hbody, rfl⟩
    exact ⟨his, t, ht, hlocals, hbody⟩
  · rintro ⟨his, t, ht, hlocals, hbody⟩
    exact ⟨t, ht, is, his, hlocals, hbody, rfl⟩

namespace Module

variable (m : Module)

lemma exists_describes : ∃ c, m.definition.Describes c := by
  obtain ⟨c, hc, hs⟩ := m.exists_context
  exact ⟨c, hc, hs⟩

/-- The code of every function is checked in the context of the module. -/
lemma forall₂_body {c : Context} (hd : m.definition.Describes c) :
    List.Forall₂ (fun tb is => Validation.body? m.definition c tb.1 tb.2 = some is)
      (m.definition.functions.zip m.definition.bodies) m.code := by
  have hcode := m.bodies_eq
  unfold Validation.bodies? at hcode
  simp only [hd.context, Option.bind_eq_bind, Option.bind_some, hd.sections, if_true] at hcode
  exact mapM_eq_some_iff.1 hcode

/-- Where the code of a function of the program comes from. -/
lemma exists_body {c : Context} (hd : m.definition.Describes c) {j : Nat}
    {b : Execution.FunctionCode} (hb : m.program.bodies[j]? = some b) :
    ∃ k fb, m.definition.functions[j]? = some k ∧ b.locals = fb.localTypes ∧
      Validation.body? m.definition c k fb = some b.code := by
  have hall := m.forall₂_body hd
  simp only [program, List.getElem?_toArray, List.getElem?_map] at hb
  obtain ⟨⟨fb, is⟩, hzip, rfl⟩ := Option.map_eq_some_iff.1 hb
  obtain ⟨hfb, his⟩ := List.getElem?_zip_eq_some.1 hzip
  have hj : j < (m.definition.functions.zip m.definition.bodies).length :=
    hall.length_eq ▸ (List.getElem?_eq_some_iff.1 his).1
  have hz := List.getElem?_eq_getElem hj
  obtain ⟨hk, hfb'⟩ := List.getElem?_zip_eq_some.1 hz
  have hbody := rel_of_forall₂ hall hz his
  refine ⟨_, fb, hk, rfl, ?_⟩
  rwa [← Option.some.inj (hfb.symm.trans hfb')] at hbody

/-- **The program of a valid module is checked.** -/
theorem program_checked {c : Context} (hd : m.definition.Describes c) : m.program.Checked c := by
  refine ⟨fun n => ?_, fun n => ?_, fun f t b ht hf hb => ?_⟩
  · simp [program, hd.types_eq]
  · rw [functions_program, hd.functions_getElem?]
  · obtain ⟨k, fb, hk, hlocals, hbody⟩ := m.exists_body hd hb
    have hspace : m.definition.functionSpace[f]? = some k := by
      unfold Definition.functionSpace
      rw [List.getElem?_append_right (Nat.le_of_not_lt hf)]
      exact hk
    rw [hd.functions_getElem?, Definition.functionType?, hspace, Option.bind_some] at ht
    rw [hlocals]
    obtain ⟨-, u, hu, -, hbody⟩ := Validation.body?_eq_some_iff.1 hbody
    cases ht.symm.trans hu
    exact hbody

end Module

end Embedder
