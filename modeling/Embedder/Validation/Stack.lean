import Embedder.Types

/-!
The stack of operand types with which code is checked. Behind an instruction that does not return,
the code that follows is never reached, and below what it pushes itself the stack holds whatever
it takes.

* `Validation.Stack`, `Validation.Stack.pop`, `Validation.Stack.push`;
* `Validation.Stack.endsWith`: nothing but the given types is left.
-/

namespace Embedder.Validation

/-- The types of the operands, the one on top first; `none` is an operand of any type. In a stack
that is `endless` any number of such operands lies below. -/
structure Stack where
  operands : List (Option ValueType)
  endless : Bool
  deriving DecidableEq

namespace Stack

/-- The stack at the start of code that takes values of the given types. -/
def ofTypes (ts : List ValueType) : Stack := ⟨(ts.map some).reverse, false⟩

/-- The stack behind an instruction that does not return. -/
def unreachable : Stack := ⟨[], true⟩

def push (s : Stack) (t : ValueType) : Stack := { s with operands := some t :: s.operands }

/-- Pushes values, the last one on top. -/
def pushAll (s : Stack) (ts : List ValueType) : Stack := ts.foldl push s

/-- Takes an operand of whatever type. -/
def popAny (s : Stack) : Option (Option ValueType × Stack) :=
  match s.operands with
  | t :: ts => some (t, { s with operands := ts })
  | [] => if s.endless then some (none, s) else none

/-- Takes an operand of the given type. -/
def pop (s : Stack) (t : ValueType) : Option Stack :=
  match s.popAny with
  | some (none, s) => some s
  | some (some u, s) => if u = t then some s else none
  | none => none

/-- Takes operands of the given types, the last one from the top. -/
def popAll (s : Stack) (ts : List ValueType) : Option Stack := ts.reverse.foldlM pop s

/-- Takes operands and pushes results. -/
def step (s : Stack) (operands results : List ValueType) : Option Stack :=
  (s.popAll operands).map fun s => s.pushAll results

/-- Operands of the given types are all that is left. -/
def endsWith (s : Stack) (ts : List ValueType) : Bool :=
  match s.popAll ts with
  | some rest => rest.operands.isEmpty
  | none => false

/-- Takes an operand that is a reference. -/
def popReference (s : Stack) : Option Stack :=
  match s.popAny with
  | some (none, s) => some s
  | some (some t, s) => if t.isReference then some s else none
  | none => none

end Stack

end Embedder.Validation
