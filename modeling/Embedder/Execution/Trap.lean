import Embedder.Types

/-!
Why guest code stops by itself.

* `Trap`, `Trap.message`: the faults that the format defines;
* `Fault`: a trap, or code that cannot go on because it is not valid or not executed here.
-/

namespace Embedder.Execution

inductive Trap where
  | unreachable
  | divisionByZero
  | integerOverflow
  | invalidConversion
  | memoryOutOfBounds
  | tableOutOfBounds
  | uninitializedElement
  | typeMismatch
  | stackExhausted
  deriving DecidableEq

namespace Trap

/-- A grave accent, which quotes in messages. -/
def quoteMark : String := "\x60"

def text : Trap → String
  | .unreachable => "wasm " ++ quoteMark ++ "unreachable" ++ quoteMark ++ " instruction executed"
  | .divisionByZero => "integer divide by zero"
  | .integerOverflow => "integer overflow"
  | .invalidConversion => "invalid conversion to integer"
  | .memoryOutOfBounds => "out of bounds memory access"
  | .tableOutOfBounds => "undefined element: out of bounds table access"
  | .uninitializedElement => "uninitialized element"
  | .typeMismatch => "indirect call type mismatch"
  | .stackExhausted => "call stack exhausted"

def message (t : Trap) : String := "wasm trap: " ++ t.text

end Trap

/-- Valid code is never stuck unless it computes with vectors or uses atomic accesses. -/
inductive Fault where
  | trap (t : Trap)
  | stuck
  deriving DecidableEq

end Embedder.Execution
