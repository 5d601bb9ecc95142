/-!
The settings of an engine.
-/

namespace Embedder

/-- What the compiler of guest code aims for. -/
inductive Optimization where
  | none
  | speed
  | speedAndSize
  deriving DecidableEq, Inhabited

namespace Optimization

def text : Optimization → String
  | .none => "none"
  | .speed => "speed"
  | .speedAndSize => "speed_and_size"

def ofText? (s : String) : Option Optimization :=
  [Optimization.none, .speed, .speedAndSize].find? fun o => o.text == s

end Optimization

/-- Without `maxWasmStack` the guest's stack has the engine's own limit, in bytes. -/
structure Config where
  optimization : Optimization
  debugInfo : Bool
  parallelCompilation : Bool
  maxWasmStack : Option Nat
  deriving DecidableEq, Inhabited

namespace Config

def standard : Config :=
  { optimization := .speed, debugInfo := false, parallelCompilation := true, maxWasmStack := none }

/-- An engine needs some stack. -/
def IsRunnable (c : Config) : Prop := c.maxWasmStack ≠ some 0

instance (c : Config) : Decidable c.IsRunnable := by unfold IsRunnable; infer_instance

end Config

end Embedder
