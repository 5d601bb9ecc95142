import Embedder.Proofs.Binary.CustomSections
import Embedder.Proofs.Typing.Initial
import Embedder.Proofs.Wat.Formats

/-!
# Valid binaries compile

Of a valid definition every import and every export has a descriptor, and a binary that can be read
can be looked through for its custom sections. So nothing can fail once an engine has taken a binary.
There is one kind of valid binary that engines do not take: one with a custom section that asks for
what they have given up.

* `Definition.Describes.exists_importTypes`, `Definition.Describes.exists_exportTypes`: descriptors;
* `Module.validate_eq_true_iff`: what is valid;
* `Module.ValidCompile`, `Module.valid_binaries_compile`: which binaries are compiled.
-/

namespace Embedder

open Elementwise

/-! ### Descriptors -/

namespace Definition

variable {d : Definition} {c : Validation.Context}

lemma Describes.memories_eq (h : d.Describes c) : c.memories = d.memorySpace := by
  obtain ⟨_, -, rfl⟩ := h.eq
  rfl

/-- Every import that a valid definition may have has a descriptor. -/
lemma exists_importType {i : ImportEntry} (h : Validation.importItem d i.item = true) :
    ∃ t, d.importType? i = some t := by
  unfold importType?
  cases hitem : i.item with
  | function k =>
    rw [hitem] at h
    have hk : k < d.types.length := of_decide_eq_true h
    simp only [List.getElem?_eq_getElem hk, Option.map_some]
    exact ⟨_, rfl⟩
  | table t => exact ⟨_, rfl⟩
  | memory t => exact ⟨_, rfl⟩
  | global t => exact ⟨_, rfl⟩
  | tag k =>
    rw [hitem] at h
    cases h

lemma Describes.exists_importTypes (h : d.Describes c) :
    ∃ is, d.imports.mapM d.importType? = some is := by
  have hsections := h.sections
  simp only [Validation.sections, Bool.and_eq_true, List.all_eq_true] at hsections
  have hitems : ∀ i ∈ d.imports, Validation.importItem d i.item = true := by tauto
  obtain ⟨is, his⟩ := exists_forall₂_iff.2 fun i hi => exists_importType (hitems i hi)
  exact ⟨is, mapM_eq_some_iff.2 his⟩

/-- What is exported is there, and it has a type. -/
lemma Describes.exists_exportType (h : d.Describes c) {e : ExportEntry}
    (he : Validation.exportEntry c e = true) : ∃ t, d.exportType? e = some t := by
  have htype : ∃ t, d.entityType? e.space e.index = some t := by
    unfold Validation.exportEntry at he
    cases hspace : e.space with
    | function =>
      rw [hspace] at he
      have hfunction := h.functions_getElem? e.index
      rw [List.getElem?_eq_getElem (of_decide_eq_true he)] at hfunction
      exact ⟨_, by rw [entityType?, ← hfunction]; rfl⟩
    | table =>
      rw [hspace, h.tables_eq] at he
      exact ⟨_, by rw [entityType?, List.getElem?_eq_getElem (of_decide_eq_true he)]; rfl⟩
    | memory =>
      rw [hspace, h.memories_eq] at he
      exact ⟨_, by rw [entityType?, List.getElem?_eq_getElem (of_decide_eq_true he)]; rfl⟩
    | global =>
      rw [hspace, h.globals_eq] at he
      exact ⟨_, by rw [entityType?, List.getElem?_eq_getElem (of_decide_eq_true he)]; rfl⟩
    | tag =>
      rw [hspace] at he
      cases he
  obtain ⟨t, ht⟩ := htype
  exact ⟨⟨e.name, t⟩, by rw [exportType?, ht]; rfl⟩

lemma Describes.exists_exportTypes (h : d.Describes c) :
    ∃ es, d.exports.mapM d.exportType? = some es := by
  have hsections := h.sections
  simp only [Validation.sections, Bool.and_eq_true, List.all_eq_true] at hsections
  have hentries : ∀ e ∈ d.exports, Validation.exportEntry c e = true := by tauto
  obtain ⟨es, hes⟩ := exists_forall₂_iff.2 fun e he => h.exists_exportType (hentries e he)
  exact ⟨es, mapM_eq_some_iff.2 hes⟩

end Definition

/-! ### Which binaries compile -/

namespace Module

variable {e : Engine} {bytes : List UInt8} {d : Definition} {code : List Code} {m : Module}

/-- The bytes can be read as a module, and its code is checked. -/
def Accepted (bytes : List UInt8) (d : Definition) (code : List Code) : Prop :=
  Binary.decode bytes = .ok d ∧ Validation.bodies? d = some code

lemma validate_eq_true_iff : validate bytes = true ↔ ∃ d code, Accepted bytes d code := by
  unfold validate Accepted
  cases Binary.decode bytes with
  | error f => simp
  | ok d => simp [Option.isSome_iff_exists]

/-- There is a custom section of a name that engines do not compile modules with. -/
def AsksForWithdrawn (bytes : List UInt8) : Prop :=
  ∃ found, Binary.customSections bytes = .ok found ∧ ∃ s ∈ found, s.1 ∈ withdrawnSections

lemma asksForWithdrawn_iff (h : Binary.decode bytes = .ok d) :
    AsksForWithdrawn bytes ↔ ∃ s ∈ d.customs, s.name ∈ withdrawnSections := by
  unfold AsksForWithdrawn
  rw [Binary.customSections_of_decode h]
  simp [Binary.held]

/-- What an engine has taken can be looked through for its custom sections, and has descriptors. -/
lemma Accepted.complete (h : Accepted bytes d code) :
    Binary.customSections bytes = .ok (d.customs.map Binary.held) ∧
      (∃ is, d.imports.mapM d.importType? = some is) ∧
      ∃ es, d.exports.mapM d.exportType? = some es := by
  obtain ⟨hdecode, hcode⟩ := h
  obtain ⟨c, hcontext, hsections⟩ := Validation.exists_context hcode
  have hd : d.Describes c := ⟨hcontext, hsections⟩
  exact ⟨Binary.customSections_of_decode hdecode, hd.exists_importTypes, hd.exists_exportTypes⟩

lemma exists_ofBinary_iff :
    (∃ m, ofBinary e bytes = .ok m) ↔ validate bytes = true ∧ ¬ AsksForWithdrawn bytes := by
  rw [validate_eq_true_iff]
  constructor
  · rintro ⟨m, hm⟩
    obtain ⟨-, -, hdecode, hkept, -, -⟩ := ofBinary_eq_ok_iff.1 hm
    refine ⟨⟨m.definition, m.code, hdecode, m.bodies_eq⟩, ?_⟩
    rw [asksForWithdrawn_iff hdecode]
    rintro ⟨s, hs, hasks⟩
    exact hkept s hs hasks
  · rintro ⟨⟨d, code, haccepted⟩, hasks⟩
    obtain ⟨hcustoms, ⟨is, himports⟩, es, hexports⟩ := haccepted.complete
    obtain ⟨hdecode, hcode⟩ := haccepted
    rw [asksForWithdrawn_iff hdecode] at hasks
    let m : Module :=
      { engine := e, binary := bytes, definition := d, code, imports := is, exports := es
        customs := d.customs.map Binary.held, name := givenName d, bodies_eq := hcode
        imports_eq := himports, exports_eq := hexports }
    have hm : m.CompiledFrom e bytes :=
      ⟨rfl, rfl, hdecode, fun s hs hname => hasks ⟨s, hs, hname⟩, hcustoms, rfl⟩
    exact ⟨m, ofBinary_eq_ok_iff.2 hm⟩

/-- Validation takes the same bytes as compilation, but for what is withdrawn. -/
structure ValidCompile (e : Engine) (bytes : List UInt8) : Prop where
  /-- A binary compiles exactly if it is valid and asks for nothing that is withdrawn. -/
  compiles (h : Binary.isBinary bytes = true) :
    (∃ m, compile e bytes = .ok m) ↔ validate bytes = true ∧ ¬ AsksForWithdrawn bytes
  /-- Any other binary is refused as not valid. -/
  refused (h : Binary.isBinary bytes = true)
    (hbad : validate bytes = false ∨ AsksForWithdrawn bytes) : compile e bytes = .error .invalid
  /-- Behind the engine nothing fails: the custom sections are those that the engine has read, and
  every import and every export has a descriptor. -/
  complete (d : Definition) (code : List Code) (h : Accepted bytes d code) :
    Binary.customSections bytes = .ok (d.customs.map Binary.held) ∧
      (∃ is, d.imports.mapM d.importType? = some is) ∧
      ∃ es, d.exports.mapM d.exportType? = some es
  /-- What is no binary is not valid. -/
  text (h : Binary.isBinary bytes = false) : validate bytes = false

/-- **Valid binaries compile**, unless they ask for what is withdrawn, and no others do. -/
theorem valid_binaries_compile (e : Engine) (bytes : List UInt8) : ValidCompile e bytes where
  compiles h := by
    rw [compile_of_isBinary h]
    exact exists_ofBinary_iff
  refused h hbad := by
    rw [compile_of_isBinary h]
    cases hm : ofBinary e bytes with
    | error r => rw [ofBinary_eq_error hm]
    | ok m =>
      obtain ⟨hvalid, hasks⟩ := exists_ofBinary_iff.1 ⟨m, hm⟩
      rcases hbad with hbad | hbad
      · rw [hbad] at hvalid
        cases hvalid
      · exact absurd hbad hasks
  complete d code h := h.complete
  text h := by
    unfold validate
    rw [Binary.decode_of_not_isBinary h]

/-- An empty section that asks for what is withdrawn. -/
def bindingsSection : CustomSection := ⟨"webidl-bindings", [], none⟩

/-- A module with nothing else. -/
def bindings : List UInt8 := Binary.header ++ Binary.customBytes bindingsSection

lemma isBinary_bindings : Binary.isBinary bindings = true := by decide +kernel

lemma compile_bindings : compile (.standard 0) bindings = .error .invalid := by
  have hfound : Binary.customSections bindings = .ok [("webidl-bindings", [])] := by decide +kernel
  have hasks : AsksForWithdrawn bindings :=
    ⟨_, hfound, ("webidl-bindings", []), List.mem_singleton_self _, by decide⟩
  rw [compile_of_isBinary isBinary_bindings]
  cases hm : ofBinary (.standard 0) bindings with
  | error r => rw [ofBinary_eq_error hm]
  | ok m => exact absurd hasks (exists_ofBinary_iff.1 ⟨m, hm⟩).2

/-- It is valid, but no engine compiles it. -/
theorem bindings_are_valid_but_withdrawn :
    Binary.isBinary bindings = true ∧ validate bindings = true ∧
      compile (.standard 0) bindings = .error .invalid :=
  ⟨isBinary_bindings, by decide +kernel, compile_bindings⟩

end Module

end Embedder
