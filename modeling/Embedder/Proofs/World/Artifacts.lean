import Embedder.Proofs.Modules.Compiling
import Embedder.Proofs.World.Deeds

/-!
# Modules that come back from artifacts

An artifact holds the binary of a module. What comes back is compiled from it again, so it has the
same code and the same descriptors, but no custom sections and the name that the binary gives it.
Instances of both run the same code, up to the same trap where an instruction has no meaning here.

* `Module.SameCode`: modules that differ at most in what instances of them do not use;
* `World.instantiate_of_sameCode`, `World.follow_of_alike`: a step and a run with such modules;
* `Module.ofBinary_of_compile`, `Module.artifactBinary?_serialize`: what is in an artifact;
* `Module.comes_back`: what comes back of a module, and that no host tells it from the module by
  instances.
-/

namespace Embedder

open Execution (Guest)

variable {σ : Type}

/-! ### Modules with the same code -/

namespace Module

/-- The modules may have other names, other custom sections, and come from other binaries. -/
structure SameCode (m r : Module) : Prop where
  engine : m.engine = r.engine
  definition : m.definition = r.definition
  code : m.code = r.code
  imports : m.imports = r.imports
  exports : m.exports = r.exports

variable {m r : Module}

lemma SameCode.refl (m : Module) : m.SameCode m := ⟨rfl, rfl, rfl, rfl, rfl⟩

lemma SameCode.trans {m₁ : Module} (h : m.SameCode r) (h' : r.SameCode m₁) : m.SameCode m₁ :=
  ⟨h.engine.trans h'.engine, h.definition.trans h'.definition, h.code.trans h'.code,
    h.imports.trans h'.imports, h.exports.trans h'.exports⟩

lemma sameCode_setName (m : Module) (name : String) : (m.setName name).SameCode m :=
  ⟨rfl, rfl, rfl, rfl, rfl⟩

lemma SameCode.program_eq (h : m.SameCode r) : m.program = r.program := by
  simp only [program, h.engine, h.definition, h.code]

lemma SameCode.exportedMemory_eq (h : m.SameCode r) : m.exportedMemory = r.exportedMemory := by
  simp only [exportedMemory, h.definition]

lemma SameCode.boundMemory_eq (h : m.SameCode r) : m.boundMemory = r.boundMemory := by
  simp only [boundMemory, h.exportedMemory_eq, h.definition]

lemma SameCode.exportsOf_eq (h : m.SameCode r) (number : Nat) :
    m.exportsOf number = r.exportsOf number := by
  simp only [exportsOf, h.definition, h.exports]

lemma SameCode.resolve_eq (h : m.SameCode r) (o : ImportObject σ) : o.resolve m = o.resolve r := by
  simp only [ImportObject.resolve, h.engine, h.imports]

end Module

/-! ### What a host does with them -/

/-- The attempts have the same outcome: an instance with the same number and the same exports, or
the same error. -/
inductive Instantiated.Alike : Instantiated → Instantiated → Prop
  | made (number : Nat) (exports : Exports) {m r : Module} (h : m.SameCode r) :
      Alike (.made ⟨number, m, exports⟩) (.made ⟨number, r, exports⟩)
  | refused (e : InstantiationError) : Alike (.refused e) (.refused e)
  | panicked : Alike .panicked .panicked

lemma Instantiated.Alike.refl (i : Instantiated) : i.Alike i := by
  cases i with
  | made i => exact .made i.number i.exports (.refl i.module)
  | refused e => exact .refused e
  | panicked => exact .panicked

/-- The deeds are the same, but instances are made of modules with the same code. -/
inductive Deed.Alike : Deed σ → Deed σ → Prop
  | use (u : Use) : Alike (.use u) (.use u)
  | create {m r : Module} (h : m.SameCode r) (o : ImportObject σ) :
      Alike (.create m o) (.create r o)

namespace World

variable {m r : Module}

lemma start_of_sameCode (h : m.SameCode r) (w : World σ) (number : Nat) (g : Guest) :
    w.start m number g = w.start r number g := by
  simp only [start, h.definition, h.program_eq]

lemma addSlot_of_sameCode (h : m.SameCode r) (w : World σ) (ps : List (Provided σ))
    (c : Wasi.Context) : w.addSlot m ps c = w.addSlot r ps c := by
  simp only [addSlot, h.program_eq, h.exportedMemory_eq]

lemma launch_of_sameCode (h : m.SameCode r) (w : World σ) (ps : List (Provided σ))
    (c : Wasi.Context) (g : Guest) :
    (w.launch m ps c g).1.Alike (w.launch r ps c g).1 ∧
      (w.launch m ps c g).2 = (w.launch r ps c g).2 := by
  unfold launch
  simp only [addSlot_of_sameCode h, start_of_sameCode h, h.exportsOf_eq, h.boundMemory_eq]
  split
  · exact ⟨.refl _, rfl⟩
  · split
    · exact ⟨.refl _, rfl⟩
    · exact ⟨.made _ _ h, rfl⟩

/-- **Modules with the same code make the same instances** of a world. -/
theorem instantiate_of_sameCode (h : m.SameCode r) (w : World σ) (o : ImportObject σ) :
    (w.instantiate m o).1.Alike (w.instantiate r o).1 ∧
      (w.instantiate m o).2 = (w.instantiate r o).2 := by
  unfold instantiate
  rw [h.resolve_eq, h.definition]
  split
  · exact ⟨.refl _, rfl⟩
  · split
    · exact ⟨.refl _, rfl⟩
    · exact ⟨.refl _, rfl⟩
    · split
      · exact ⟨.refl _, rfl⟩
      · exact launch_of_sameCode h w _ _ _

/-- **Alike deeds get the same answers** and leave the same world. -/
theorem follow_of_alike {deeds deeds' : List (Deed σ)} (h : List.Forall₂ Deed.Alike deeds deeds')
    (b : Nat) (w : World σ) : follow b deeds w = follow b deeds' w := by
  induction h generalizing w with
  | nil => rfl
  | cons hd _ ih =>
    cases hd with
    | use u => simp only [follow, ih]
    | create hm o => rw [follow, follow, (instantiate_of_sameCode hm w o).2, ih]

end World

/-! ### Artifacts -/

namespace Module

variable {e : Engine} {source : List UInt8} {m r : Module}

/-- A module keeps what it was compiled from. -/
lemma ofBinary_eq_ok (h : ofBinary e source = .ok m) :
    m.binary = source ∧ m.engine = e ∧ m.name = givenName m.definition := by
  have hm := ofBinary_eq_ok_iff.1 h
  exact ⟨hm.binary, hm.engine, hm.name⟩

/-- So the same module is compiled from its binary, and it need not have been the source. -/
lemma ofBinary_of_compile (h : compile e source = .ok m) : ofBinary e m.binary = .ok m := by
  unfold compile compileWith at h
  -- text has been made a binary before, and only the binary is kept
  split at h
  · rw [(ofBinary_eq_ok h).1]
    exact h
  · cases h

/-- An engine takes the artifacts of its own modules, and finds the binary in them. -/
lemma artifactBinary?_serialize (m : Module) :
    artifactBinary? m.engine m.serialize = some m.binary := by
  have hdrop : m.serialize.drop artifactMark.length = artifactSettings m.engine :: m.binary :=
    List.drop_left ..
  have hmark : artifactMark.isPrefixOf m.serialize = true :=
    List.isPrefixOf_iff_prefix.2 (List.prefix_append ..)
  rw [artifactBinary?, hdrop]
  simp [hmark]

/-- Names that are given to a module later are neither code nor in its artifact. -/
lemma sameCode_foldl_setName (m : Module) (names : List String) :
    (names.foldl setName m).SameCode m ∧ (names.foldl setName m).serialize = m.serialize := by
  induction names generalizing m with
  | nil => exact ⟨.refl m, rfl⟩
  | cons name names ih =>
    obtain ⟨hcode, hartifact⟩ := ih (m.setName name)
    exact ⟨hcode.trans (sameCode_setName m name), hartifact⟩

/-- What is known of a module that comes back. -/
structure ComesBackAs (m r : Module) : Prop where
  imports : r.imports = m.imports
  exports : r.exports = m.exports
  /-- The name is that of the name section, which the module was given when it was compiled. -/
  name : r.name = m.name ∧ m.name = givenName m.definition
  customs : ∀ name, r.customSections name = []

/-- No host tells the modules apart by instances of them. Where one of them makes an instance the
other makes it too, and what is done then gets the same answers. -/
def Interchangeable (m r : Module) : Prop :=
  ∀ (σ : Type) (w : World σ) (o : ImportObject σ),
    (w.instantiate m o).1.Alike (w.instantiate r o).1 ∧
    (w.instantiate m o).2 = (w.instantiate r o).2 ∧
    ∀ (b : Nat) (deeds deeds' : List (Deed σ)), List.Forall₂ Deed.Alike deeds deeds' →
      World.follow b deeds (w.instantiate m o).2 = World.follow b deeds' (w.instantiate r o).2

lemma SameCode.interchangeable (h : m.SameCode r) : m.Interchangeable r := by
  intro σ w o
  obtain ⟨halike, hworld⟩ := World.instantiate_of_sameCode h w o
  refine ⟨halike, hworld, fun b deeds deeds' hdeeds => ?_⟩
  rw [hworld]
  exact World.follow_of_alike hdeeds b _

/-- **A module comes back from its artifact** with all that its instances use, whatever names it was
given. -/
theorem comes_back (h : compile e source = .ok m) (names : List String) :
    ∃ r, deserialize e (names.foldl setName m).serialize = .ok r ∧ m.ComesBackAs r ∧
      (names.foldl setName m).Interchangeable r := by
  have hbinary := ofBinary_of_compile h
  obtain ⟨-, hengine, hname⟩ := ofBinary_eq_ok hbinary
  obtain ⟨hcode, hartifact⟩ := sameCode_foldl_setName m names
  have hfound : artifactBinary? e m.serialize = some m.binary := by
    rw [← hengine]
    exact artifactBinary?_serialize m
  refine ⟨{ m with customs := [] }, ?_, ⟨rfl, rfl, ⟨rfl, hname⟩, fun _ => rfl⟩, ?_⟩
  · simp only [deserialize, hartifact, hfound, hbinary]
  · have hback : (names.foldl setName m).SameCode { m with customs := [] } :=
      ⟨hcode.engine, hcode.definition, hcode.code, hcode.imports, hcode.exports⟩
    exact hback.interchangeable

/-- A module without code, with a name section and a custom section `x`. -/
def marked : List UInt8 :=
  [0x00, 0x61, 0x73, 0x6D, 1, 0, 0, 0] ++ [0, 9, 4, 0x6E, 0x61, 0x6D, 0x65, 0, 2, 1, 0x61] ++
    [0, 3, 1, 0x78, 7]

/-- It loses its section and the name that it was given later. -/
theorem marked_comes_back :
    ∃ m r, compile (.standard 0) marked = .ok m ∧ m.customSections "x" = [[7]] ∧
      deserialize (.standard 0) (["b"].foldl setName m).serialize = .ok r ∧
      r.name = some "a" ∧ r.customSections "x" = [] ∧
      (["b"].foldl setName m).Interchangeable r := by
  have hread : (compile (.standard 0) marked).toOption.map (fun m => (m.name, m.customs)) =
      some (some "a", [("name", [0, 2, 1, 0x61]), ("x", [7])]) := by
    decide +kernel
  cases hm : compile (.standard 0) marked with
  | error e =>
    rw [hm] at hread
    cases hread
  | ok m =>
    rw [hm] at hread
    obtain ⟨hname, hcustoms⟩ := Prod.mk.inj (Option.some.inj hread)
    obtain ⟨r, hr, hback, hsame⟩ := comes_back hm ["b"]
    refine ⟨m, r, rfl, ?_, hr, hback.name.1.trans hname, hback.customs "x", hsame⟩
    rw [customSections, hcustoms]
    decide

end Module

end Embedder
