import Embedder.Module
import Mathlib.Tactic.Lemma

/-!
# What a binary is compiled to

* `Module.CompiledFrom`, `Module.ofBinary_eq_ok_iff`: the module that comes from a binary;
* `Module.ofBinary_eq_error`: the one error that a binary can lead to;
* `Module.compile_of_isBinary`, `Module.compile_self`: a binary is compiled as it is.
-/

namespace Embedder.Module

variable {c : Wat.ComponentFormat} {e : Engine} {bytes : List UInt8} {m : Module}

/-- A module is what its definition describes, but for a name that it is given later. -/
lemma ofDefinition?_self (m : Module) :
    ofDefinition? m.engine m.binary m.customs m.definition =
      some { m with name := givenName m.definition } := by
  unfold ofDefinition?
  split
  · rename_i hcode himports hexports
    obtain rfl := Option.some.inj (hcode.symm.trans m.bodies_eq)
    obtain rfl := Option.some.inj (himports.symm.trans m.imports_eq)
    obtain rfl := Option.some.inj (hexports.symm.trans m.exports_eq)
    rfl
  · rename_i h
    exact absurd m.exports_eq (h _ _ _ m.bodies_eq m.imports_eq)

/-- The module is what the engine makes of the bytes. -/
structure CompiledFrom (m : Module) (e : Engine) (bytes : List UInt8) : Prop where
  engine : m.engine = e
  binary : m.binary = bytes
  decoded : Binary.decode bytes = .ok m.definition
  kept : ∀ s ∈ m.definition.customs, s.name ∉ withdrawnSections
  customs : Binary.customSections bytes = .ok m.customs
  name : m.name = givenName m.definition

theorem ofBinary_eq_ok_iff : ofBinary e bytes = .ok m ↔ m.CompiledFrom e bytes := by
  constructor
  · intro h
    unfold ofBinary at h
    split at h
    · cases h
    · rename_i d hdecode
      split at h
      · cases h
      · rename_i hkept
        split at h
        · cases h
        · rename_i customs hcustoms
          unfold ofDefinition? at h
          split at h
          · rename_i hm
            cases h
            split at hm
            · cases hm
              exact ⟨rfl, rfl, hdecode, by simpa using hkept, hcustoms, rfl⟩
            · cases hm
          · cases h
  · rintro ⟨rfl, rfl, hdecode, hkept, hcustoms, hname⟩
    have hany : m.definition.customs.any (fun s => withdrawnSections.contains s.name) = false := by
      simpa using hkept
    unfold ofBinary
    rw [hdecode]
    simp only [hany, Bool.false_eq_true, if_false, hcustoms, ofDefinition?_self, ← hname]

lemma ofBinary_eq_error {r : CompileError} (h : ofBinary e bytes = .error r) : r = .invalid := by
  unfold ofBinary at h
  split at h
  · cases h
    rfl
  · split at h
    · cases h
      rfl
    · split at h
      · cases h
        rfl
      · split at h
        · cases h
        · cases h
          rfl

lemma compileWith_of_isBinary (h : Binary.isBinary bytes = true) :
    compileWith c e bytes = ofBinary e bytes := by
  unfold compileWith Wat.toBinaryWith
  rw [if_pos h]

lemma compile_of_isBinary (h : Binary.isBinary bytes = true) :
    compile e bytes = ofBinary e bytes := compileWith_of_isBinary h

/-- A module without a name comes from its binary, if this says what the module holds. -/
lemma compile_self {m : Module} (hbinary : Binary.isBinary m.binary = true)
    (hdecode : (Binary.decode m.binary).toOption = some m.definition)
    (hcustoms : (Binary.customSections m.binary).toOption = some m.customs)
    (hnone : m.definition.customs = []) (hname : m.name = givenName m.definition) :
    compile m.engine m.binary = .ok m := by
  have hok {ε α : Type} {r : Except ε α} {a : α} (h : r.toOption = some a) : r = .ok a := by
    cases r with
    | ok b => exact congrArg Except.ok (Option.some.inj h)
    | error => cases h
  rw [compile_of_isBinary hbinary, ofBinary_eq_ok_iff]
  exact ⟨rfl, rfl, hok hdecode, by simp [hnone], hok hcustoms, hname⟩

end Embedder.Module
