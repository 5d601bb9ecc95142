import Embedder.Definition
import Embedder.Validation.Stack

/-!
Checking code against the types it runs with.

* `Validation.Context`: what the code of a function may refer to;
* `Validation.Context.op`: the stack behind one instruction;
* `Validation.Context.code`: the stack behind a sequence;
* `Validation.Context.constant`: whether a constant expression has the given type.
-/

namespace Embedder.Validation

/-- What code may refer to. `declared` holds the functions that may become references, `labels`
the types that branches carry, the innermost block first. -/
structure Context where
  types : List FunctionType
  functions : List FunctionType
  tables : List TableType
  memories : List MemoryType
  globals : List GlobalType
  elements : List ValueType
  dataCount : Option Nat
  declared : List Nat
  locals : Array ValueType
  labels : List (List ValueType)
  results : List ValueType

namespace Context

variable (c : Context)

def blockType : BlockType → Option FunctionType
  | .empty => some ⟨[], []⟩
  | .value t => some ⟨[], [t]⟩
  | .index n => c.types[n]?

/-- The operand and result types of an access to memory whose alignment is at most natural. -/
def access (arg : MemArg) (naturalAlign : Nat) : Bool :=
  (c.memories[arg.memory]?).isSome && decide (arg.align ≤ naturalAlign)

/-- What follows the number of an extended instruction is in range; an atomic access is aligned
exactly. -/
def immediate (family : Extended.Family) (shape : Extended.Shape) (i : Immediate) : Bool :=
  match shape, i with
  | .plain, .none | .fence, .none => true
  | .memory align, .memory arg =>
    c.access arg align && (family != .atomic || arg.align == align)
  | .lane count, .lane n => decide (n < count)
  | .memoryLane align count, .memoryLane arg n => c.access arg align && decide (n < count)
  | .shuffle, .lanes ns => ns.all fun n => decide (n < 32)
  | _, _ => false

/-- `select` without a type chooses between numbers or vectors of one type. -/
def select (s : Stack) : Option Stack := do
  let s ← s.pop .i32
  let (a, s) ← s.popAny
  let (b, s) ← s.popAny
  let t := a <|> b
  if t.any ValueType.isReference then none
  else if a.isSome && b.isSome && a != b then none
  else some { s with operands := t :: s.operands }

/-- A table of branches carries as many values to every label, of types that fit each. -/
def branchTable (s : Stack) (labels : List Nat) (other : Nat) : Option Stack := do
  let s ← s.pop .i32
  let last ← c.labels[other]?
  let fits := fun l => (c.labels[l]?).any fun ts =>
    ts.length == last.length && (s.popAll ts).isSome
  let _ ← s.popAll last
  if labels.all fits then some .unreachable else none

/-- A tail call gives back what the function gives back. -/
def tailCall (s : Stack) (t : FunctionType) : Option Stack := do
  let _ ← s.popAll t.params
  if t.results = c.results then some .unreachable else none

/-- The type of a call through a table of functions. -/
def indirectType (table type : Nat) : Option FunctionType := do
  let t ← c.tables[table]?
  if t.element = .funcref then c.types[type]? else none

/-- The stack behind an instruction. -/
def op (s : Stack) : Op → Option Stack
  | .unreachable => some .unreachable
  | .nop => some s
  | .drop => s.popAny.map Prod.snd
  | .select none => select s
  | .select (some [t]) => s.step [t, t, .i32] [t]
  | .select (some _) => none
  | .br l => do
    let ts ← c.labels[l]?
    let _ ← s.popAll ts
    some .unreachable
  | .brIf l => do
    let ts ← c.labels[l]?
    let s ← s.pop .i32
    s.step ts ts
  | .brTable ls other => c.branchTable s ls other
  | .ret => (s.popAll c.results).map fun _ => .unreachable
  | .call f => do
    let t ← c.functions[f]?
    s.step t.params t.results
  | .callIndirect table type => do
    let t ← c.indirectType table type
    let s ← s.pop .i32
    s.step t.params t.results
  | .returnCall f => do
    let t ← c.functions[f]?
    c.tailCall s t
  | .returnCallIndirect table type => do
    let t ← c.indirectType table type
    let s ← s.pop .i32
    c.tailCall s t
  | .localGet i => (c.locals[i]?).map s.push
  | .localSet i => do s.pop (← c.locals[i]?)
  | .localTee i => do
    let t ← c.locals[i]?
    s.step [t] [t]
  | .globalGet i => do
    let g ← c.globals[i]?
    some (s.push g.value)
  | .globalSet i => do
    let g ← c.globals[i]?
    if g.mutable then s.pop g.value else none
  | .tableGet t => do
    let t ← c.tables[t]?
    s.step [.i32] [t.element]
  | .tableSet t => do
    let t ← c.tables[t]?
    s.step [.i32, t.element] []
  | .tableInit e t => do
    let e ← c.elements[e]?
    let t ← c.tables[t]?
    if e = t.element then s.step [.i32, .i32, .i32] [] else none
  | .elemDrop e => (c.elements[e]?).map fun _ => s
  | .tableCopy t u => do
    let t ← c.tables[t]?
    let u ← c.tables[u]?
    if t.element = u.element then s.step [.i32, .i32, .i32] [] else none
  | .tableGrow t => do
    let t ← c.tables[t]?
    s.step [t.element, .i32] [.i32]
  | .tableSize t => do
    let _ ← c.tables[t]?
    some (s.push .i32)
  | .tableFill t => do
    let t ← c.tables[t]?
    s.step [.i32, t.element, .i32] []
  | .load a arg => if c.access arg a.naturalAlign then s.step [.i32] [a.type] else none
  | .store a arg => if c.access arg a.naturalAlign then s.step [.i32, a.type] [] else none
  | .memorySize m => do
    let _ ← c.memories[m]?
    some (s.push .i32)
  | .memoryGrow m => do
    let _ ← c.memories[m]?
    s.step [.i32] [.i32]
  | .memoryInit d m => do
    let _ ← c.memories[m]?
    if (c.dataCount.any fun n => decide (d < n)) then s.step [.i32, .i32, .i32] [] else none
  | .dataDrop d => if (c.dataCount.any fun n => decide (d < n)) then some s else none
  | .memoryCopy m n => do
    let _ ← c.memories[m]?
    let _ ← c.memories[n]?
    s.step [.i32, .i32, .i32] []
  | .memoryFill m => do
    let _ ← c.memories[m]?
    s.step [.i32, .i32, .i32] []
  | .refNull t => some (s.push t)
  | .refIsNull => (s.popReference).map fun s => s.push .i32
  | .refFunc f => if f < c.functions.length ∧ f ∈ c.declared then some (s.push .funcref) else none
  | .const v => some (s.push v.type)
  | .numeric n => s.step n.operands [n.result]
  | .extended family row i =>
    if c.immediate family row.shape i then s.step row.operands row.results else none

/-- The stack behind a sequence. -/
def code (c : Context) (s : Stack) : Code → Option Stack
  | .done => some s
  | .op o rest => do code c (← c.op s o) rest
  | .block type body rest => do
    let t ← c.blockType type
    let s ← s.popAll t.params
    let inner ← code { c with labels := t.results :: c.labels } (.ofTypes t.params) body
    if inner.endsWith t.results then code c (s.pushAll t.results) rest else none
  | .loop type body rest => do
    let t ← c.blockType type
    let s ← s.popAll t.params
    let inner ← code { c with labels := t.params :: c.labels } (.ofTypes t.params) body
    if inner.endsWith t.results then code c (s.pushAll t.results) rest else none
  | .ifThen type yes rest => do
    let t ← c.blockType type
    let s ← s.pop .i32
    let s ← s.popAll t.params
    let inner ← code { c with labels := t.results :: c.labels } (.ofTypes t.params) yes
    if inner.endsWith t.results && (Stack.ofTypes t.params).endsWith t.results then
      code c (s.pushAll t.results) rest
    else none
  | .ifElse type yes no rest => do
    let t ← c.blockType type
    let s ← s.pop .i32
    let s ← s.popAll t.params
    let inner := { c with labels := t.results :: c.labels }
    let a ← code inner (.ofTypes t.params) yes
    let b ← code inner (.ofTypes t.params) no
    if a.endsWith t.results && b.endsWith t.results then code c (s.pushAll t.results) rest else none

/-- The stack holds the results of the function when its code ends or returns. -/
def body (t : FunctionType) (locals : Array ValueType) (is : Code) : Bool :=
  let c := { c with locals, labels := [t.results], results := t.results }
  (code c ⟨[], false⟩ is).any fun s => s.endsWith t.results

/-! ### Constant expressions -/

/-- The instructions of constant expressions. They read imported globals that never change. -/
def isConstant (imported : Nat) : Instruction → Bool
  | .op (.const _) | .op (.refNull _) | .op (.refFunc _) => true
  | .op (.globalGet i) => decide (i < imported) && (c.globals[i]?).any fun g => !g.mutable
  | .op (.numeric (.intBinary _ .add)) | .op (.numeric (.intBinary _ .sub))
  | .op (.numeric (.intBinary _ .mul)) => true
  | _ => false

/-- The stack behind an instruction of a constant expression. -/
def constantStep (s : Stack) : Instruction → Option Stack
  | .op o => c.op s o
  | _ => none

/-- A constant expression of type `t`, in a module with `imported` imported globals. -/
def constant (imported : Nat) (t : ValueType) (is : List Instruction) : Bool :=
  is.all (c.isConstant imported) &&
    (is.foldlM c.constantStep ⟨[], false⟩).any fun s => s.endsWith [t]

end Context

end Embedder.Validation
