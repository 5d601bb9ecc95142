import Embedder.Execution.Initial
import Embedder.Export.Function
import Embedder.World

/-!
Making instances.

* `World.instantiate`: an instance of a module with what an import object offers;
* `InstantiationError`: an import cannot be served, the guest stops in a segment or in its start
  function, or the engine refuses.

An instance comes to be in five steps, and the first that fails decides: the context of the system
interface, the imports, the segments, the start function, the exports.
-/

namespace Embedder

open Execution (Guest Program Stop Supplied)

inductive InstantiationError where
  | link (e : LinkError)
  | trap (message : String)
  | engine (message : String)
  deriving DecidableEq

def InstantiationError.message : InstantiationError → String
  | .link e => e.message
  | .trap message => "start function trapped: " ++ message
  | .engine message => "instantiation failed: " ++ message

/-- A host's view of an instance. -/
structure Instance where
  number : Nat
  module : Module
  exports : Exports

/-- How an attempt ends. -/
inductive Instantiated where
  | made (i : Instance)
  | refused (e : InstantiationError)
  | panicked

namespace Provided

variable {σ : Type}

/-! ### What serves the imports, by kind -/

def functions (ps : List (Provided σ)) : List (Imported σ) :=
  ps.filterMap fun
    | .host f => some (.host f)
    | .generated v f => some (.generated v f)
    | _ => none

def memories (ps : List (Provided σ)) : List Memory :=
  ps.filterMap fun
    | .memory t => some (.ofType t)
    | _ => none

def tables (ps : List (Provided σ)) : List Table :=
  ps.filterMap fun
    | .table t => some (.ofType t)
    | _ => none

def globals (ps : List (Provided σ)) : List Cell :=
  ps.filterMap fun
    | .global _ v => some (.ofValue v)
    | _ => none

/-- Every import gets a memory, table or global of its own. -/
def supplied (ps : List (Provided σ)) : Supplied := ⟨memories ps, tables ps, globals ps⟩

end Provided

namespace Module

/-! ### What an engine makes of a module -/

/-- The functions of an instance of the module. -/
def program (m : Module) : Program :=
  let d := m.definition
  { types := d.types.toArray
    functions := (d.functionSpace.map fun t => (d.types[t]?).getD ⟨[], []⟩).toArray
    imported := d.importedFunctions.length
    bodies := ((d.bodies.zip m.code).map fun (b, c) => ⟨b.localTypes, c⟩).toArray
    depth := m.engine.callDepth
    steps := m.engine.patience
    two_le_steps := m.engine.two_le_patience }

/-- The memory that is exported under the name that guests of the system interface use. -/
def exportedMemory (m : Module) : Option Nat :=
  (m.definition.exports.find? fun e => e.name == "memory" && e.space == .memory).map
    ExportEntry.index

/-- The memory that functions of the host may use: the one of that name unless it is shared. -/
def boundMemory (m : Module) : Option Nat :=
  m.exportedMemory.filter fun i => (m.definition.memorySpace[i]?).any fun t => !t.shared

/-- An export cannot be held by the host. -/
def isHidden : EntityType → Bool
  | .memory t => t.shared
  | _ => false

/-- The exports of an instance, or the name of the first one that the host cannot hold. -/
def exportsOf (m : Module) (number : Nat) : Except String Exports :=
  match m.exports.find? fun e => isHidden e.type with
  | some e => .error e.name
  | none =>
    .ok ⟨(m.definition.exports.zip m.exports).map fun (entry, e) =>
      ⟨e.name, .ofType number entry.index e.type⟩⟩

end Module

namespace World

variable {σ : Type} (w : World σ)

/-! ### Steps -/

/-- The context of the system interface for an instance. -/
def contextFor (o : ImportObject σ) : Except FileError Wasi.Context :=
  match o.wasi with
  | some b => Wasi.Context.ofEnvironment w.system.files b.environment
  | none => .ok .empty

/-- Adds an instance that is running. -/
def addSlot (m : Module) (ps : List (Provided σ)) (c : Wasi.Context) : World σ :=
  let slot : Slot σ :=
    { program := m.program, imported := (Provided.functions ps).toArray, boundMemory := none
      exportedMemory := m.exportedMemory, context := c, guest := none }
  { w with slots := w.slots.push slot }

/-- Takes the last instance away again. -/
def dropSlot : World σ := { w with slots := w.slots.pop }

/-- Rests an instance for the first time, with its memory bound. -/
def settle (number : Nat) (memory : Option Nat) (g : Guest) : World σ :=
  { w with
    slots := w.slots.modify number fun s => { s with boundMemory := memory, guest := some g } }

/-- What an instantiation ends with when the start function stops. -/
def startError : Stop → Instantiated
  | .exited code =>
    .refused (.trap ("start function exited with code " ++ toString code))
  | .engine message => .refused (.engine message)
  | .panicked => .panicked
  | s => .refused (.trap s.message)

/-- Runs the start function, if there is one, of the instance added last. -/
def start (m : Module) (number : Nat) (g : Guest) : Except Stop Unit × Guest × World σ :=
  match m.definition.start with
  | none => (.ok (), g, w)
  | some f =>
    let calls := callWithin w.resting
    let o := Execution.invoke m.program (hostCall calls number false) f [] g w
    (o.result.map fun _ => (), o.guest, o.world)

/-! ### Instantiation -/

/-- The last two steps, for a module whose segments are in place. -/
def launch (m : Module) (ps : List (Provided σ)) (c : Wasi.Context) (g : Guest) :
    Instantiated × World σ :=
  let number := w.slots.size
  match (w.addSlot m ps c).start m number g with
  | (.error s, _, w) => (startError s, w.dropSlot)
  | (.ok (), g, w) =>
    match m.exportsOf number with
    | .error name =>
      (.refused (.engine ("export '" ++ name ++ "' has a kind that cannot be exposed to the host")),
        w.dropSlot)
    | .ok exports => (.made ⟨number, m, exports⟩, w.settle number m.boundMemory g)

/-- Makes an instance of a module. -/
def instantiate (m : Module) (o : ImportObject σ) : Instantiated × World σ :=
  match w.contextFor o with
  | .error e => (.refused (.engine e.message), w)
  | .ok c =>
    match o.resolve m with
    | .error .panic => (.panicked, w)
    | .error (.link e) => (.refused (.link e), w)
    | .ok ps =>
      match Guest.populate m.definition (Provided.supplied ps) with
      | .error t => (.refused (.trap t.message), w)
      | .ok g => w.launch m ps c g

end World

end Embedder
