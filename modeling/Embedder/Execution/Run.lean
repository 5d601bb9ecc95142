import Embedder.Execution.Machine

/-!
Running a call to its end, with a host that provides functions and keeps a state of its own.

* `Stop`: why a call ends without results;
* `HostCall`, `Outcome`: a call to a function of the host, and what any call leaves;
* `run`, `invoke`: calls to functions of the guest.

The host is a function of the guest's state and its own, so a run is one too. Fuel bounds the
number of steps.
-/

namespace Embedder.Execution

/-- Why a call ends without results: a fault of the guest, a failure that a host function reports,
an exit that the guest asks for, a failure of a generated function, a host function that breaks
off, or the end of the fuel. -/
inductive Stop where
  | fault (f : Fault)
  | failed (message : String)
  | exited (code : Nat)
  | engine (message : String)
  | panicked
  | outOfFuel
  deriving DecidableEq

/-- What a call leaves: its results or why there are none, and both states. -/
structure Outcome (World : Type) where
  result : Except Stop (List Cell)
  guest : Guest
  world : World

/-- The functions that the host provides, by number. -/
abbrev HostCall (World : Type) := Nat → List Cell → Guest → World → Outcome World

variable {World : Type}

/-- Runs a machine until its call ends. -/
def run (p : Program) (host : HostCall World) : (fuel : Nat) → Machine → Guest → World →
    Outcome World
  | 0, _, g, w => ⟨.error .outOfFuel, g, w⟩
  | fuel + 1, m, g, w =>
    match m.step p g with
    | .next m g => run p host fuel m g w
    | .finished results g => ⟨.ok results, g, w⟩
    | .fault f g => ⟨.error (.fault f), g, w⟩
    | .host function arguments m g =>
      match host function arguments g w with
      | ⟨.ok results, g, w⟩ => run p host fuel (m.resume results) g w
      | ⟨.error s, g, w⟩ => ⟨.error s, g, w⟩

/-- Calls a function with arguments of its type. -/
def invoke (p : Program) (host : HostCall World) (function : Nat) (arguments : List Cell)
    (g : Guest) (w : World) : Outcome World :=
  let arity := (p.functions[function]?).elim 0 fun t => t.results.length
  run p host p.steps (.ofCall function arity arguments) g w

end Embedder.Execution
