import Embedder.Config.Reader

/-!
Engines: what modules are compiled by.

* `Engine`: its settings, and the number that tells it from others with the same settings;
* `ConfigError`: why there is no engine;
* `Engine.ofJson`: the engine that a configuration text asks for.
-/

namespace Embedder

/-- Why a configuration leads to no engine: it cannot be read, it is not a configuration, or the
engine does not accept it. -/
inductive ConfigError where
  | unreadable (reason : String)
  | malformed (r : Config.Rejection)
  | noStack
  deriving DecidableEq

namespace ConfigError

/-- What is behind the error. -/
def reason : ConfigError → String
  | .unreadable reason => reason
  | .malformed r => r.text
  | .noStack => "max_wasm_stack size cannot be zero"

def message (e : ConfigError) : String :=
  match e with
  | .unreadable _ => "failed to read configuration: " ++ e.reason
  | .malformed _ => "failed to parse configuration: " ++ e.reason
  | .noStack => "engine rejected configuration: " ++ e.reason

end ConfigError

/-- `patience` is the number of steps after which a call is given up. No call takes less than two. -/
structure Engine where
  number : Nat
  config : Config
  patience : Nat
  two_le_patience : 2 ≤ patience
  deriving DecidableEq

namespace Engine

/-- More steps than any call takes that is waited for. -/
def standardPatience : Nat := 2 ^ 60

/-- The engine with the standard settings. -/
def standard (number : Nat) : Engine := ⟨number, .standard, standardPatience, by decide⟩

def create (number : Nat) (c : Config) : Except ConfigError Engine :=
  if c.IsRunnable then .ok { standard number with config := c } else .error .noStack

def ofJson (number : Nat) (text : String) : Except ConfigError Engine :=
  match Config.ofJson text with
  | .error r => .error (.malformed r)
  | .ok c => create number c

/-- The size of a guest's stack, in bytes, unless the configuration gives another. -/
def standardStack : Nat := 524288

/-- The bytes of stack that a call takes. -/
def frameSize : Nat := 32

/-- The number of calls of guest code that may be open at once. -/
def callDepth (e : Engine) : Nat := e.config.maxWasmStack.getD standardStack / frameSize

end Engine

end Embedder
