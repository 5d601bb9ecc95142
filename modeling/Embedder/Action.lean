import Embedder.Execution.Run
import Embedder.Export

/-!
What a host does with instances, step by step.

* `Operation`: what can be done to an instance that is at rest without running its code;
* `Action`: a program of the host, which sees the answer to each step before it chooses the next.
  A function that a host gives to guests is such a program of its arguments.

An action only says what is done. What it does to instances is said where they are kept.
-/

namespace Embedder

open Execution (Guest Stop)

/-! ### Operations on an instance -/

/-- An operation on a memory, a global or a table by its index. -/
inductive Operation where
  | memorySize (index : Nat)
  | memoryGrow (index delta : Nat)
  | memoryRead (index start length : Nat)
  | memoryWrite (index start : Nat) (bytes : List UInt8)
  | globalGet (index : Nat)
  | globalSet (index : Nat) (v : Value)
  | tableSize (index : Nat)
  deriving DecidableEq

namespace Operation

/-- Growing answers with the size before; growing and reading may be refused, and writing tells
whether it was not. A global keeps its type. -/
abbrev Result : Operation → Type
  | .memorySize _ => Nat
  | .memoryGrow _ _ => Option Nat
  | .memoryRead _ _ _ => Option (List UInt8)
  | .memoryWrite _ _ _ => Bool
  | .globalGet _ => Cell
  | .globalSet _ _ => Unit
  | .tableSize _ => Nat

/-- The answer to an operation and the state it leaves. -/
def perform (o : Operation) (g : Guest) : o.Result × Guest :=
  match o with
  | .memorySize i => ((g.memories[i]?).elim 0 Memory.size, g)
  | .memoryGrow i delta =>
    match (g.memories[i]?).map fun m => (m.size, m.canGrow delta) with
    | some (size, true) => (some size, Execution.Machine.changeMemory g i fun m => m.grow delta)
    | _ => (none, g)
  | .memoryRead i start length => ((g.memories[i]?).bind fun m => m.read? start length, g)
  | .memoryWrite i start bytes =>
    if Execution.Machine.inMemory g i start bytes.length then
      (true, Execution.Machine.changeMemory g i fun m => m.write start bytes)
    else (false, g)
  | .globalGet i => (g.globals.getD i .nullExternal, g)
  | .globalSet i v =>
    if (g.globals[i]?).any fun c => c.type == v.type then
      ((), { g with globals := g.globals.setIfInBounds i (.ofValue v) })
    else ((), g)
  | .tableSize i => ((g.tables[i]?).elim 0 Table.size, g)

end Operation

/-! ### Actions -/

/-- A request for the memory of the instance that calls a function of the host. -/
inductive MemoryRequest where
  | size
  | read (start length : Nat)
  | write (start : Nat) (bytes : List UInt8)
  deriving DecidableEq

namespace MemoryRequest

/-- The size is in bytes. -/
abbrev Result : MemoryRequest → Type
  | .size => Nat
  | .read _ _ => Option (List UInt8)
  | .write _ _ => Bool

end MemoryRequest

/-- A program of a host with a state `σ`. It ends with an answer or a failure, or it breaks off.
An operation or a call gets no answer while the instance is running. -/
inductive Action (σ : Type) (α : Type) where
  | done (a : α)
  | fail (message : String)
  | panic
  | update (change : σ → σ) (next : σ → Action σ α)
  | memory (r : MemoryRequest) (next : r.Result → Action σ α)
  | operate (owner : Nat) (o : Operation) (next : Option o.Result → Action σ α)
  | call (function : Address) (arguments : List Value)
      (next : Option (Except Stop (List Cell)) → Action σ α)

namespace Action

variable {σ α β : Type}

/-- Goes on with the answer of another program. -/
def bind : Action σ α → (α → Action σ β) → Action σ β
  | .done a, f => f a
  | .fail message, _ => .fail message
  | .panic, _ => .panic
  | .update change next, f => .update change fun s => bind (next s) f
  | .memory r next, f => .memory r fun a => bind (next a) f
  | .operate owner o next, f => .operate owner o fun a => bind (next a) f
  | .call function arguments next, f => .call function arguments fun a => bind (next a) f

instance : Monad (Action σ) where
  pure := .done
  bind := bind

/-- The state of the host. -/
def state : Action σ σ := .update id .done

/-- Changes the state of the host, and answers with the new one. -/
def modifyState (change : σ → σ) : Action σ σ := .update change .done

end Action

end Embedder
