import Embedder.ImportObject.Resolution
import Embedder.Wasi.Function.Call

/-!
All the instances of a host, and what actions do to them.

* `World`: the host's own state, its instances and what they share;
* `World.callWithin`: a call to a function of an instance, which may call the host, which may call
  other instances;
* `World.perform`: an action of the host.

An instance is at rest or it is running. While it runs its state is with the call, so nobody else
reaches it: an operation on it gets no answer. A call rests an instance again however it ends.
-/

namespace Embedder

open Execution (Program Guest Stop Outcome HostCall)

/-! ### Instances and their world -/

/-- A function that an instance imports. -/
inductive Imported (σ : Type) where
  | host (f : HostFunction σ)
  | generated (v : Wasi.Version) (f : Wasi.Function)

/-- An instance. `boundMemory` is lent to functions of the host and `exportedMemory` to those of
the system interface. `guest` is the state of an instance at rest. -/
structure Slot (σ : Type) where
  program : Program
  imported : Array (Imported σ)
  boundMemory : Option Nat
  exportedMemory : Option Nat
  context : Wasi.Context
  guest : Option Guest

structure World (σ : Type) where
  host : σ
  slots : Array (Slot σ)
  system : Wasi.System

namespace World

variable {σ α : Type}

/-- A world without instances. -/
def create (host : σ) (system : Wasi.System) : World σ := ⟨host, #[], system⟩

def guest? (w : World σ) (owner : Nat) : Option Guest := (w.slots[owner]?).bind Slot.guest

def setGuest (w : World σ) (owner : Nat) (g : Option Guest) : World σ :=
  { w with slots := w.slots.modify owner fun s => { s with guest := g } }

def setContext (w : World σ) (owner : Nat) (c : Wasi.Context) : World σ :=
  { w with slots := w.slots.modify owner fun s => { s with context := c } }

/-- The number of instances at rest. -/
def resting (w : World σ) : Nat := (w.slots.toList.filter fun s => s.guest.isSome).length

/-! ### Operations -/

/-- An operation on an instance; a running one does not answer. -/
def operate (w : World σ) (owner : Nat) (o : Operation) : Option o.Result × World σ :=
  match w.guest? owner with
  | none => (none, w)
  | some g =>
    let w := w.setGuest owner none
    let (a, g) := o.perform g
    (some a, w.setGuest owner (some g))

/-- The answer to a request for the memory of a caller. Without one the memory is empty. -/
def request (memory : Option Nat) (r : MemoryRequest) (g : Guest) : r.Result × Guest :=
  match r, memory with
  | .size, some i => (((g.memories[i]?).elim 0 Memory.byteSize), g)
  | .size, none => (0, g)
  | .read start length, some i => (Operation.memoryRead i start length).perform g
  | .read _ _, none => (none, g)
  | .write start bytes, some i => (Operation.memoryWrite i start bytes).perform g
  | .write _ _, none => (false, g)

/-! ### Actions -/

/-- How an action ends. -/
inductive Ended (α : Type) where
  | done (a : α)
  | failed (message : String)
  | panicked
  deriving DecidableEq

/-- How a call ends for the host: there is no answer if the instance is running, and none ever if
a function of the host broke off on the way. -/
inductive CallAnswer where
  | busy
  | panicked
  | ended (result : Except Stop (List Cell))

/-- Calls to functions of instances. -/
abbrev Calls (σ : Type) := Address → List Value → World σ → CallAnswer × World σ

/-- Runs an action. `memory` is that of the instance whose state is `g`. -/
def run (calls : Calls σ) (memory : Option Nat) :
    Action σ α → Guest → World σ → Ended α × Guest × World σ
  | .done a, g, w => (.done a, g, w)
  | .fail message, g, w => (.failed message, g, w)
  | .panic, g, w => (.panicked, g, w)
  | .update change next, g, w =>
    let host := change w.host
    run calls memory (next host) g { w with host }
  | .memory r next, g, w =>
    let (a, g) := request memory r g
    run calls memory (next a) g w
  | .operate owner o next, g, w =>
    let (a, w) := w.operate owner o
    run calls memory (next a) g w
  | .call f arguments next, g, w =>
    match calls f arguments w with
    | (.busy, w) => run calls memory (next none) g w
    | (.panicked, w) => (.panicked, g, w)
    | (.ended r, w) => run calls memory (next (some r)) g w

/-! ### Functions of the host -/

/-- The results of a function of the host, or what is wrong with them. -/
def checkResults (expected : List ValueType) (values : List Value) : Except Stop (List Cell) :=
  if values.length = expected.length then
    match (values.zip expected).find? fun (v, t) => v.type != t with
    | some (v, t) =>
      .error (.failed ("host function returned a " ++ v.type.text ++ " where a " ++ t.text ++
        " was expected"))
    | none => .ok (values.map Cell.ofValue)
  else
    .error (.failed ("host function returned " ++ toString values.length ++
      " value(s), expected " ++ toString expected.length))

/-- Calls a function of the host for an instance. References do not reach it, and the memory is lent
only to a function that uses it. -/
def callHost (calls : Calls σ) (memory : Option Nat) (f : HostFunction σ) (arguments : List Cell)
    (g : Guest) (w : World σ) : Outcome (World σ) :=
  match arguments.mapM Cell.toValue? with
  | none => ⟨.error (.failed "reference arguments cannot reach host functions"), g, w⟩
  | some values =>
    if f.usesMemory && memory.isNone then
      ⟨.error (.failed "host function called before the instance memory was bound"), g, w⟩
    else
      match run calls (if f.usesMemory then memory else none) (f.body values) g w with
      | (.panicked, g, w) => ⟨.error .panicked, g, w⟩
      | (.failed message, g, w) => ⟨.error (.failed message), g, w⟩
      | (.done results, g, w) => ⟨checkResults f.type.results results, g, w⟩

/-- Calls a function of the system interface for the instance `owner` on one of its memories. -/
def callGenerated (owner : Nat) (context : Wasi.Context) (memory : Option Nat) (v : Wasi.Version)
    (f : Wasi.Function) (arguments : List Cell) (g : Guest) (w : World σ) : Outcome (World σ) :=
  match memory.bind fun i => (g.memories[i]?).map fun m => (i, m) with
  | none => ⟨.error Wasi.Function.noMemory, g, w⟩
  | some (i, m) =>
    let (result, s) := f.call v arguments ⟨m, context, w.system⟩
    let w := { w with system := s.system }
    ⟨result, { g with memories := g.memories.setIfInBounds i s.memory },
      w.setContext owner s.context⟩

/-- The functions that the instance `owner` imports. Those of the system interface look for a
memory at the code that calls them, so a direct call from the host finds them without one. -/
def hostCall (calls : Calls σ) (owner : Nat) (direct : Bool) : HostCall (World σ) :=
  fun k arguments g w =>
    match (w.slots[owner]?).bind fun s => (s.imported[k]?).map fun f => (s, f) with
    | none => ⟨.error (.fault .stuck), g, w⟩
    | some (s, .host f) => callHost calls s.boundMemory f arguments g w
    | some (s, .generated v f) =>
      let memory := if direct then none else s.exportedMemory
      callGenerated owner s.context memory v f arguments g w

/-! ### Calls to instances -/

/-- Runs a function of an instance whose state is `g`. An engine takes no arguments of other types
than the function's. -/
def enter (calls : Calls σ) (f : Address) (p : Program) (arguments : List Value) (g : Guest)
    (w : World σ) : Outcome (World σ) :=
  let cells := arguments.map Cell.ofValue
  if p.takes f.index cells then
    if f.index < p.imported then hostCall calls f.owner true f.index cells g w
    else Execution.invoke p (hostCall calls f.owner false) f.index cells g w
  else ⟨.error (.engine "argument type mismatch"), g, w⟩

/-- What a call that ended tells the host. -/
def answerOf : Except Stop (List Cell) → CallAnswer
  | .error .panicked => .panicked
  | r => .ended r

/-- Calls a function of an instance at rest. Every call that is open in another one has an
instance of its own, so no more can be open than there are instances at rest at first. -/
def callWithin : (depth : Nat) → Calls σ
  | 0, _, _, w => (.busy, w)
  | depth + 1, f, arguments, w =>
    match (w.slots[f.owner]?).bind fun s => s.guest.map fun g => (s.program, g) with
    | none => (.busy, w)
    | some (p, g) =>
      let o := enter (callWithin depth) f p arguments g (w.setGuest f.owner none)
      (answerOf o.result, o.world.setGuest f.owner (some o.guest))

/-- Runs an action of the host itself. -/
def perform (w : World σ) (a : Action σ α) : Ended α × World σ :=
  let (ended, _, w) := run (callWithin w.resting) none a ⟨#[], #[], #[], #[], #[]⟩ w
  (ended, w)

end World

end Embedder
