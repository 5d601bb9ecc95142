import Embedder.Binary.Encoder
import Embedder.Proofs.Typing.Initial

/-!
# A start function that is exported instead

A module with a start function is compared with the one that exports this function under a fresh name
and starts without it. The second one is valid too, and it differs in nothing else: neither in what it
imports nor in its code and in the state that its instances begin with.

* `Validation.Context.code_of_declared`: code stays valid if more functions may become references;
* `Definition.postpone`, `Module.Postponed`: the other module, as a definition and compiled;
* `Module.exists_postponed`: it is valid;
* `Module.Postponed.program_eq`, `Module.Postponed.resolve_eq`: what both have in common;
* `Module.Postponed.function_eq_ok`: its instances export the function.
-/

namespace Embedder

open Execution (Guest Supplied)
open Validation (Context Stack)
open Elementwise

variable {σ : Type}

/-! ### More functions that may become references -/

namespace Validation.Context

variable {c : Context} {ds : List Nat}

lemma op_of_declared (hd : c.declared ⊆ ds) {s s' : Stack} {o : Op} (h : c.op s o = some s') :
    ({ c with declared := ds } : Context).op s o = some s' := by
  cases o with
  | refFunc f =>
    simp only [op] at h ⊢
    split at h
    · rename_i hf
      rwa [if_pos ⟨hf.1, hd hf.2⟩]
    · cases h
  | select ts => rcases ts with _ | ⟨_ | ⟨t, _ | ⟨u, us⟩⟩⟩ <;> exact h
  | _ => exact h

/-- **Code stays valid if more functions are declared**, by induction on the code. Blocks have labels
of their own, so the induction is over all contexts. -/
theorem code_of_declared (hd : c.declared ⊆ ds) {s s' : Stack} {is : Code}
    (h : code c s is = some s') : code { c with declared := ds } s is = some s' := by
  induction is generalizing c s s' with
  | done => exact h
  | op o rest ih =>
    obtain ⟨s₁, ho, hrest⟩ := Option.bind_eq_some_iff.1 h
    exact Option.bind_eq_some_iff.2 ⟨s₁, op_of_declared hd ho, ih hd hrest⟩
  | block t body rest ihb ihr =>
    simp only [code, Option.bind_eq_bind, Option.bind_eq_some_iff,
      Option.ite_none_right_eq_some] at h ⊢
    obtain ⟨u, hu, s₁, hs₁, inner, hbody, hends, hrest⟩ := h
    have hbody := ihb (c := { c with labels := u.results :: c.labels }) hd hbody
    exact ⟨u, hu, s₁, hs₁, inner, hbody, hends, ihr hd hrest⟩
  | loop t body rest ihb ihr =>
    simp only [code, Option.bind_eq_bind, Option.bind_eq_some_iff,
      Option.ite_none_right_eq_some] at h ⊢
    obtain ⟨u, hu, s₁, hs₁, inner, hbody, hends, hrest⟩ := h
    have hbody := ihb (c := { c with labels := u.params :: c.labels }) hd hbody
    exact ⟨u, hu, s₁, hs₁, inner, hbody, hends, ihr hd hrest⟩
  | ifThen t yes rest ihy ihr =>
    simp only [code, Option.bind_eq_bind, Option.bind_eq_some_iff,
      Option.ite_none_right_eq_some] at h ⊢
    obtain ⟨u, hu, s₁, hs₁, s₂, hs₂, inner, hyes, hends, hrest⟩ := h
    have hyes := ihy (c := { c with labels := u.results :: c.labels }) hd hyes
    exact ⟨u, hu, s₁, hs₁, s₂, hs₂, inner, hyes, hends, ihr hd hrest⟩
  | ifElse t yes no rest ihy ihn ihr =>
    simp only [code, Option.bind_eq_bind, Option.bind_eq_some_iff,
      Option.ite_none_right_eq_some] at h ⊢
    obtain ⟨u, hu, s₁, hs₁, s₂, hs₂, a, hyes, b, hno, hends, hrest⟩ := h
    have hyes := ihy (c := { c with labels := u.results :: c.labels }) hd hyes
    have hno := ihn (c := { c with labels := u.results :: c.labels }) hd hno
    exact ⟨u, hu, s₁, hs₁, s₂, hs₂, a, hyes, b, hno, hends, ihr hd hrest⟩

lemma body_of_declared (hd : c.declared ⊆ ds) {t : FunctionType} {locals : Array ValueType}
    {is : Code} (h : c.body t locals is = true) :
    ({ c with declared := ds } : Context).body t locals is = true := by
  obtain ⟨s, hs, hends⟩ := (Option.any_eq_true _ _).1 h
  refine (Option.any_eq_true _ _).2 ⟨s, ?_, hends⟩
  exact code_of_declared
    (c := { c with locals, labels := [t.results], results := t.results }) hd hs

end Validation.Context

/-! ### The other module -/

/-- The definition without its start function, which is exported under a name instead. -/
def Definition.postpone (d : Definition) (f : Nat) (name : String) : Definition :=
  { d with start := none, exports := d.exports ++ [⟨name, .function, f⟩] }

/-- A module that exports the start function of another one under a name, and has none itself. -/
structure Module.Postponed (m : Module) (f : Nat) (name : String) (m' : Module) : Prop where
  start : m.definition.start = some f
  engine_eq : m'.engine = m.engine
  definition_eq : m'.definition = m.definition.postpone f name

namespace Definition

variable {d : Definition} {c : Context} {f : Nat} {name : String}

/-- The context with the functions that may become references in the other module. -/
lemma context_postpone (h : Validation.context d = some c) : Validation.context (d.postpone f name) =
    some { c with declared := Validation.declaredFunctions (d.postpone f name) } := by
  obtain ⟨functions, hf, hc⟩ := Option.bind_eq_some_iff.1 h
  cases hc
  exact Option.bind_eq_some_iff.2 ⟨functions, hf, rfl⟩

lemma declared_postpone (h : d.Describes c) :
    c.declared ⊆ Validation.declaredFunctions (d.postpone f name) := by
  obtain ⟨functions, -, rfl⟩ := h.eq
  intro k hk
  simp only [Validation.declaredFunctions, postpone, List.filter_append, List.map_append,
    List.mem_append] at hk ⊢
  tauto

/-- The sections of the other module are valid if the new name is fresh. -/
lemma sections_postpone (h : d.Describes c) (hf : d.start = some f)
    (hname : name ∉ d.exports.map ExportEntry.name) :
    Validation.sections (d.postpone f name)
      { c with declared := Validation.declaredFunctions (d.postpone f name) } = true := by
  have hlt : f < c.functions.length := (List.getElem?_eq_some_iff.1 (h.startFunction hf)).1
  have hs := h.sections
  unfold Validation.sections at hs ⊢
  simp only [Bool.and_eq_true, decide_eq_true_iff] at hs ⊢
  obtain ⟨⟨⟨⟨⟨hrest, hexports⟩, hnames⟩, -⟩, helements⟩, hdatas⟩ := hs
  refine ⟨⟨⟨⟨⟨hrest, ?_⟩, ?_⟩, rfl⟩, helements⟩, hdatas⟩
  · refine (List.all_append ..).trans (Bool.and_eq_true_iff.2 ⟨hexports, ?_⟩)
    simp [Validation.exportEntry, hlt]
  · rw [postpone, List.map_append]
    exact List.nodup_append.2 ⟨hnames, by simp, by simpa using hname⟩

end Definition

namespace Module

variable {m m' : Module} {f : Nat} {name : String}

/-- The start function takes and gives nothing. -/
lemma functionType?_start (m : Module) (hf : m.definition.start = some f) :
    m.definition.functionType? f = some ⟨[], []⟩ := by
  obtain ⟨c, hd⟩ := m.exists_describes
  rw [← hd.functions_getElem?, hd.startFunction hf]

/-- **The other module is valid**, whatever name is fresh. -/
theorem exists_postponed (m : Module) (hf : m.definition.start = some f)
    (hname : name ∉ m.definition.exports.map ExportEntry.name) : ∃ m', m.Postponed f name m' := by
  obtain ⟨c, hd⟩ := m.exists_describes
  have hbodies : Validation.bodies? (m.definition.postpone f name) = some m.code := by
    unfold Validation.bodies?
    simp only [Definition.context_postpone hd.context, Option.bind_eq_bind, Option.bind_some,
      Definition.sections_postpone hd hf hname, if_true]
    refine mapM_eq_some_iff.2 ((m.forall₂_body hd).imp fun tb is h => ?_)
    obtain ⟨his, t, ht, hlocals, hbody⟩ := Validation.body?_eq_some_iff.1 h
    exact Validation.body?_eq_some_iff.2
      ⟨his, t, ht, hlocals, Context.body_of_declared (Definition.declared_postpone hd) hbody⟩
  have hexports : (m.definition.postpone f name).exports.mapM
      (m.definition.postpone f name).exportType? =
        some (m.exports ++ [⟨name, .function ⟨[], []⟩⟩]) := by
    refine mapM_eq_some_iff.2 (List.rel_append (mapM_eq_some_iff.1 m.exports_eq) (.cons ?_ .nil))
    exact Option.map_eq_some_iff.2
      ⟨_, Option.map_eq_some_iff.2 ⟨_, m.functionType?_start hf, rfl⟩, rfl⟩
  let m' : Module :=
    { engine := m.engine, binary := Binary.encode (m.definition.postpone f name) .empty
      definition := m.definition.postpone f name, code := m.code, imports := m.imports
      exports := m.exports ++ [⟨name, .function ⟨[], []⟩⟩], customs := m.customs, name := m.name
      bodies_eq := hbodies, imports_eq := m.imports_eq, exports_eq := hexports }
  exact ⟨m', hf, rfl, rfl⟩

/-! ### What both modules have in common -/

/-- The code of a module, as it is listed. -/
lemma forall₂_code (m : Module) : List.Forall₂ (fun tb is => Code.ofInstructions? tb.2.code = some is)
    (m.definition.functions.zip m.definition.bodies) m.code := by
  obtain ⟨c, hd⟩ := m.exists_describes
  exact (m.forall₂_body hd).imp fun tb is h => (Validation.body?_eq_some_iff.1 h).1

namespace Postponed

variable (h : m.Postponed f name m')

include h

lemma code_eq : m'.code = m.code := by
  have hcode := m'.forall₂_code
  rw [h.definition_eq] at hcode
  refine List.right_unique_forall₂' (fun tb is is' h₁ h₂ => ?_) hcode m.forall₂_code
  exact Option.some.inj (h₁.symm.trans h₂)

lemma imports_eq : m'.imports = m.imports := by
  have himports := m'.imports_eq
  rw [h.definition_eq] at himports
  exact Option.some.inj (himports.symm.trans m.imports_eq)

lemma exports_eq : m'.exports = m.exports ++ [⟨name, .function ⟨[], []⟩⟩] := by
  have hexports := m'.exports_eq
  rw [h.definition_eq] at hexports
  refine Option.some.inj (hexports.symm.trans ?_)
  refine mapM_eq_some_iff.2 (List.rel_append (mapM_eq_some_iff.1 m.exports_eq) (.cons ?_ .nil))
  exact Option.map_eq_some_iff.2
    ⟨_, Option.map_eq_some_iff.2 ⟨_, m.functionType?_start h.start, rfl⟩, rfl⟩

lemma start_eq : m'.definition.start = none := by
  rw [h.definition_eq]
  rfl

/-- **Both have the same code.** -/
theorem program_eq : m'.program = m.program := by
  simp only [program, h.code_eq, h.engine_eq, h.definition_eq]
  rfl

lemma exportedMemory_eq : m'.exportedMemory = m.exportedMemory := by
  unfold exportedMemory
  rw [h.definition_eq, Definition.postpone, List.find?_append]
  cases (m.definition.exports.find? fun e => e.name == "memory" && e.space == .memory) with
  | some e => rfl
  | none => simp

lemma boundMemory_eq : m'.boundMemory = m.boundMemory := by
  unfold boundMemory
  rw [h.exportedMemory_eq, h.definition_eq]
  rfl

/-- **Both are served alike.** -/
theorem resolve_eq (o : ImportObject σ) : o.resolve m' = o.resolve m := by
  unfold ImportObject.resolve
  rw [h.engine_eq, h.imports_eq]

lemma populate_eq (s : Supplied) :
    Guest.populate m'.definition s = Guest.populate m.definition s := by
  rw [h.definition_eq]
  rfl

/-! ### Exports -/

lemma find?_hidden : (m'.exports.find? fun e => isHidden e.type) =
    m.exports.find? fun e => isHidden e.type := by
  rw [h.exports_eq, List.find?_append]
  cases (m.exports.find? fun e => isHidden e.type) with
  | some e => rfl
  | none => rfl

lemma exportsOf_eq_error_iff {number : Nat} {text : String} :
    m'.exportsOf number = .error text ↔ m.exportsOf number = .error text := by
  unfold exportsOf
  rw [h.find?_hidden]
  cases (m.exports.find? fun e => isHidden e.type) <;> simp

/-- The function is found under the new name. -/
lemma function_eq_ok {number : Nat} {es : Exports} (hes : m'.exportsOf number = .ok es) :
    es.function name = .ok ⟨⟨number, f⟩, ⟨[], []⟩⟩ := by
  have he : (⟨name, .function, f⟩ : ExportEntry) ∈ m'.definition.exports := by
    rw [h.definition_eq]
    simp [Definition.postpone]
  obtain ⟨t, ht, hget⟩ := m'.get_exportsOf hes he
  rw [h.definition_eq] at ht
  have htype : m.definition.exportType? ⟨name, .function, f⟩ = some t := ht
  simp only [Definition.exportType?, Definition.entityType?, m.functionType?_start h.start,
    Option.map_some, Option.some.injEq] at htype
  subst htype
  unfold Exports.function
  rw [hget]
  rfl

end Postponed

end Module

end Embedder
