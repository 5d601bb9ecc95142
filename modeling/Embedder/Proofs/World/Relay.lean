import Embedder.Proofs.Linking.Rules
import Embedder.Proofs.World.History

/-!
# The smallest modules that use the host

* `Module.relay`: a module that exports the function that it imports;
* `Module.handover`: a module whose code hands a null reference to the function that it imports;
* `World.instantiate_relay`, `World.instantiate_handover`: their instances for a function of the host.
-/

namespace Embedder

open Execution (Guest)

variable {σ : Type}

namespace Module

/-! ### The modules -/

def relayDefinition (t : FunctionType) : Definition :=
  { Definition.empty with
    types := [t], imports := [⟨"host", "f", .function 0⟩], exports := [⟨"f", .function, 0⟩] }

def relay (t : FunctionType) (ht : Validation.functionType t = true) : Module where
  engine := .standard 0
  binary := Binary.encode (relayDefinition t) .empty
  definition := relayDefinition t
  code := []
  imports := [⟨"host", "f", .function t⟩]
  exports := [⟨"f", .function t⟩]
  customs := []
  name := none
  bodies_eq := by
    simp [Validation.bodies?, Validation.context, Validation.sections, relayDefinition,
      Definition.empty, Definition.functionSpace, Definition.importedFunctions, ht,
      Validation.importItem, Validation.exportEntry]
  imports_eq := rfl
  exports_eq := rfl

def handoverDefinition : Definition :=
  { Definition.empty with
    types := [⟨[.funcref], []⟩, ⟨[], []⟩], imports := [⟨"host", "f", .function 0⟩], functions := [1]
    exports := [⟨"g", .function, 1⟩], bodies := [⟨[], [.op (.refNull .funcref), .op (.call 0)]⟩] }

def handover : Module where
  engine := .standard 0
  binary := Binary.encode handoverDefinition .empty
  definition := handoverDefinition
  code := [.op (.refNull .funcref) (.op (.call 0) .done)]
  imports := [⟨"host", "f", .function ⟨[.funcref], []⟩⟩]
  exports := [⟨"g", .function ⟨[], []⟩⟩]
  customs := []
  name := none
  bodies_eq := by decide
  imports_eq := rfl
  exports_eq := rfl

end Module

/-! ### Their instances -/

/-- The host's function under the name that the modules ask for. -/
def HostFunction.offer (f : HostFunction σ) : ImportObject σ :=
  ImportObject.empty.define "host" "f" (.function f)

/-- The function serves a module that asks for nothing else. -/
lemma HostFunction.resolve_offer (f : HostFunction σ) {m : Module}
    (hm : m.imports = [⟨"host", "f", .function f.type⟩]) : f.offer.resolve m = .ok [.host f] := by
  have hget : f.offer.get? "host" "f" = some (.function f) := Dictionary.find?_insert_self ..
  rw [ImportObject.resolve_eq_ok_iff, hm]
  refine ⟨fun b hb => ?_, .cons (.item hget (.function f)) .nil, fun hs => ?_⟩
  · cases hb
  · cases hs

namespace World

theorem instantiate_relay (w : World σ) (f : HostFunction σ)
    (ht : Validation.functionType f.type = true) :
    w.instantiate (.relay f.type ht) f.offer =
      (.made ⟨w.slots.size, .relay f.type ht, ⟨[⟨"f", .function ⟨⟨w.slots.size, 0⟩, f.type⟩⟩]⟩⟩,
        { w with
          slots := w.slots.push
            { program := (Module.relay f.type ht).program, imported := #[.host f]
              boundMemory := none, exportedMemory := none, context := .empty
              guest := some ⟨#[], #[], #[], #[], #[]⟩ } }) :=
  instantiate_eq_made rfl (f.resolve_offer rfl) rfl rfl rfl

theorem instantiate_handover (w : World σ) (body : List Value → Action σ (List Value)) :
    w.instantiate .handover (HostFunction.offer ⟨⟨[.funcref], []⟩, false, body⟩) =
      (.made ⟨w.slots.size, .handover, ⟨[⟨"g", .function ⟨⟨w.slots.size, 1⟩, ⟨[], []⟩⟩⟩]⟩⟩,
        { w with
          slots := w.slots.push
            { program := Module.handover.program
              imported := #[.host ⟨⟨[.funcref], []⟩, false, body⟩], boundMemory := none
              exportedMemory := none, context := .empty
              guest := some ⟨#[], #[], #[], #[], #[]⟩ } }) :=
  instantiate_eq_made rfl (HostFunction.resolve_offer _ rfl) rfl rfl rfl

end World

end Embedder
