import Embedder.Code
import Embedder.Execution.Arithmetic
import Embedder.Execution.Memory
import Embedder.Execution.Table

/-!
Running code one instruction at a time.

* `Program`: the functions of an instance;
* `Guest`: what the instance owns and its code changes;
* `Machine`: where a call stands;
* `Machine.step`: the next instruction.

A call to a function that the host provides ends a step: the machine that waits for its results is
part of the answer.

Vectors are constants, locals, globals, arguments and results. The instructions that compute with them
and the atomic ones, the rows of `Extended.vectors` and `Extended.atomics`, are read, checked and
written, but they have no meaning here: code that comes to one of them stops with `Fault.stuck`, and its
host is told of a trap. What is proved of every run is proved of such code up to that place.
-/

namespace Embedder.Execution

/-! ### Programs and their state -/

/-- A function with code: the values its locals start with behind the parameters, and its code. -/
structure FunctionCode where
  locals : List ValueType
  code : Code

/-- The functions of an instance by number; the first `imported` of them belong to the host. At
most `depth` calls are open at once, and a call from outside takes at most `steps` steps. The shortest
ones take two. -/
structure Program where
  types : Array FunctionType
  functions : Array FunctionType
  imported : Nat
  bodies : Array FunctionCode
  depth : Nat
  steps : Nat
  two_le_steps : 2 ≤ steps

/-- The arguments are of the types that a function takes. -/
def Program.takes (p : Program) (function : Nat) (arguments : List Cell) : Bool :=
  (p.functions[function]?).any fun t => arguments.map Cell.type == t.params

/-- What an instance owns. A segment that is dropped is empty. -/
structure Guest where
  memories : Array Memory
  tables : Array Table
  globals : Array Cell
  elements : Array (List Cell)
  datas : Array (List UInt8)

/-! ### Machines -/

/-- An open block. A branch to it keeps `arity` operands, puts them on the `outer` ones and goes on
at `target`; reaching its end goes on at `rest`. -/
structure Label where
  arity : Nat
  outer : List Cell
  target : Code
  rest : Code

/-- A function that is being executed; the operand on top comes first. -/
structure Activation where
  locals : Array Cell
  stack : List Cell
  code : Code
  labels : List Label
  arity : Nat

structure Machine where
  current : Activation
  callers : List Activation
  depth : Nat

/-- What one step leads to. -/
inductive Step where
  | next (m : Machine) (g : Guest)
  | host (function : Nat) (arguments : List Cell) (m : Machine) (g : Guest)
  | finished (results : List Cell) (g : Guest)
  | fault (f : Fault) (g : Guest)

namespace Activation

/-- Pushes values, the last one on top. -/
def pushAll (a : Activation) (cs : List Cell) : Activation :=
  { a with stack := cs.reverse ++ a.stack }

end Activation

namespace Machine

/-- The machine that calls a function with arguments of its type. -/
def ofCall (function arity : Nat) (arguments : List Cell) : Machine :=
  ⟨⟨#[], arguments.reverse, .op (.call function) .done, [], arity⟩, [], 0⟩

/-- The machine once the host has given the results of a call. -/
def resume (m : Machine) (results : List Cell) : Machine :=
  { m with current := m.current.pushAll results }

/-! ### Control -/

/-- The numbers of operands and results of a block. -/
def blockArity (p : Program) : BlockType → Option (Nat × Nat)
  | .empty => some (0, 0)
  | .value _ => some (0, 1)
  | .index n => (p.types[n]?).map fun t => (t.params.length, t.results.length)

/-- Leaves the function with the results on top of the stack. -/
def leave (m : Machine) (g : Guest) : Step :=
  let results := (m.current.stack.take m.current.arity).reverse
  match m.callers with
  | [] => .finished results g
  | a :: rest => .next ⟨a.pushAll results, rest, m.depth - 1⟩ g

/-- Goes to a label; the one behind the outermost block is the function itself. -/
def branch (m : Machine) (g : Guest) (n : Nat) : Step :=
  match m.current.labels.drop n with
  | l :: outer =>
    let stack := m.current.stack.take l.arity ++ l.outer
    .next { m with current := { m.current with stack, code := l.target, labels := outer } } g
  | [] => m.leave g

/-- Enters a block behind whose body `rest` stands. -/
def enter (p : Program) (m : Machine) (g : Guest) (type : BlockType) (body rest : Code) : Step :=
  match blockArity p type with
  | none => .fault .stuck g
  | some (params, results) =>
    let l : Label := ⟨results, m.current.stack.drop params, rest, rest⟩
    .next
      { m with
        current :=
          { m.current with
            stack := m.current.stack.take params, code := body, labels := l :: m.current.labels } }
      g

/-- Enters a loop; a branch to it starts it again. -/
def enterLoop (p : Program) (m : Machine) (g : Guest) (type : BlockType) (body rest : Code) :
    Step :=
  match blockArity p type with
  | none => .fault .stuck g
  | some (params, _) =>
    let l : Label := ⟨params, m.current.stack.drop params, .loop type body rest, rest⟩
    .next
      { m with
        current :=
          { m.current with
            stack := m.current.stack.take params, code := body, labels := l :: m.current.labels } }
      g

/-- Reaches the end of the innermost block or of the function. -/
def close (m : Machine) (g : Guest) : Step :=
  match m.current.labels with
  | l :: outer =>
    let stack := m.current.stack ++ l.outer
    .next { m with current := { m.current with stack, code := l.rest, labels := outer } } g
  | [] => m.leave g

/-! ### Calls -/

/-- The activation of a function with code. -/
def activation (t : FunctionType) (f : FunctionCode) (arguments : List Cell) : Activation :=
  ⟨(arguments ++ f.locals.map Cell.zero).toArray, [], f.code, [], t.results.length⟩

/-- Calls a function with the arguments on top of the stack. -/
def call (p : Program) (m : Machine) (g : Guest) (function : Nat) : Step :=
  match p.functions[function]? with
  | none => .fault .stuck g
  | some t =>
    let arguments := (m.current.stack.take t.params.length).reverse
    let m := { m with
      current := { m.current with stack := m.current.stack.drop t.params.length } }
    if function < p.imported then .host function arguments m g
    else
      match p.bodies[function - p.imported]? with
      | none => .fault .stuck g
      | some f =>
        if p.depth ≤ m.depth then .fault (.trap .stackExhausted) g
        else .next ⟨activation t f arguments, m.current :: m.callers, m.depth + 1⟩ g

/-- Calls a function in place of the one that is being executed. -/
def tailCall (p : Program) (m : Machine) (g : Guest) (function : Nat) : Step :=
  match p.functions[function]? with
  | none => .fault .stuck g
  | some t =>
    let arguments := (m.current.stack.take t.params.length).reverse
    if function < p.imported then
      let current := { m.current with stack := [], code := .done, labels := [] }
      .host function arguments { m with current } g
    else
      match p.bodies[function - p.imported]? with
      | none => .fault .stuck g
      | some f => .next { m with current := activation t f arguments } g

/-- The function that a call through a table means. -/
def indirect (p : Program) (g : Guest) (table type i : Nat) : Except Fault Nat :=
  match g.tables[table]? with
  | none => .error .stuck
  | some t =>
    match t.get? i with
    | none => .error (.trap .tableOutOfBounds)
    | some (.funcref f) =>
      match p.functions[f]?, p.types[type]? with
      | some actual, some expected =>
        if actual = expected then .ok f else .error (.trap .typeMismatch)
      | _, _ => .error .stuck
    | some _ => .error (.trap .uninitializedElement)

/-! ### Operands alone -/

/-- Instructions that use nothing but the stack. -/
def onStack (o : Op) (stack : List Cell) : Except Fault (List Cell) :=
  match o, stack with
  | .nop, s => .ok s
  | .drop, _ :: s => .ok s
  | .select _, .value (.i32 c) :: b :: a :: s => .ok ((if c = 0 then b else a) :: s)
  | .const v, s => .ok (.value v :: s)
  | .refNull t, s => .ok (Cell.zero t :: s)
  | .refFunc f, s => .ok (.funcref f :: s)
  | .refIsNull, r :: s => .ok (.value (ofBool r.isNull) :: s)
  | .numeric n, .value b :: s =>
    if n.isBinary then
      match s with
      | .value a :: s => (n.evalBinary a b).map fun v => .value v :: s
      | _ => .error .stuck
    else (n.evalUnary b).map fun v => .value v :: s
  | _, _ => .error .stuck

/-! ### Memories -/

/-- The value of the bytes that a load reads. -/
def loaded (a : Access) (n : Nat) : Option Value :=
  match a.type with
  | .i32 =>
    some (.i32 (.ofBitVec
      (if a.signed then (BitVec.ofNat a.bits n).signExtend 32 else BitVec.ofNat 32 n)))
  | .i64 =>
    some (.i64 (.ofBitVec
      (if a.signed then (BitVec.ofNat a.bits n).signExtend 64 else BitVec.ofNat 64 n)))
  | .f32 => some (.f32 (.ofNat n))
  | .f64 => some (.f64 (.ofNat n))
  | _ => none

/-- The bits that a store writes. -/
def storedBits : Value → Nat
  | .i32 b => b.toNat
  | .i64 b => b.toNat
  | .f32 b => b.toNat
  | .f64 b => b.toNat
  | .v128 b => b.toNat

/-- A memory access by the instruction that follows, if it is in bounds. -/
def inMemory (g : Guest) (memory start length : Nat) : Bool :=
  (g.memories[memory]?).any fun m => m.inBounds start length

/-- The guest with one of its memories changed. -/
def changeMemory (g : Guest) (memory : Nat) (f : Memory → Memory) : Guest :=
  { g with memories := g.memories.modify memory f }

/-- The guest with one of its tables changed. -/
def changeTable (g : Guest) (table : Nat) (f : Table → Table) : Guest :=
  { g with tables := g.tables.modify table f }

/-- What an instruction leaves: the stack or why there is none, and the guest. -/
abbrev Effect := Except Fault (List Cell) × Guest

def stuck (g : Guest) : Effect := (.error .stuck, g)

def outOfMemory (g : Guest) : Effect := (.error (.trap .memoryOutOfBounds), g)

def outOfTable (g : Guest) : Effect := (.error (.trap .tableOutOfBounds), g)

/-- The size of a memory or table in a value. -/
def sizeCell (n : Nat) : Cell := .i32 (.ofNat n)

/-- The answer to a growth that is refused. -/
def refused : Cell := .i32 (-1)

/-- Instructions on memories and data segments. -/
def onMemory (o : Op) (stack : List Cell) (g : Guest) : Effect :=
  match o, stack with
  | .load a arg, .value (.i32 base) :: s =>
    let start := base.toNat + arg.offset
    match g.memories[arg.memory]? with
    | none => stuck g
    | some m =>
      if m.inBounds start (a.bits / 8) then
        match loaded a (m.number start (a.bits / 8)) with
        | some v => (.ok (.value v :: s), g)
        | none => stuck g
      else outOfMemory g
  | .store a arg, .value v :: .value (.i32 base) :: s =>
    let start := base.toNat + arg.offset
    if inMemory g arg.memory start (a.bits / 8) then
      let bytes := littleEndianBytes (a.bits / 8) (storedBits v)
      (.ok s, changeMemory g arg.memory fun m => m.write start bytes)
    else outOfMemory g
  | .memorySize i, s =>
    match g.memories[i]? with
    | some m => (.ok (sizeCell m.size :: s), g)
    | none => stuck g
  | .memoryGrow i, .value (.i32 delta) :: s =>
    match (g.memories[i]?).map fun m => (m.size, m.canGrow delta.toNat) with
    | some (size, true) =>
      (.ok (sizeCell size :: s), changeMemory g i fun m => m.grow delta.toNat)
    | some (_, false) => (.ok (refused :: s), g)
    | none => stuck g
  | .memoryFill i, .value (.i32 n) :: .value (.i32 b) :: .value (.i32 start) :: s =>
    if inMemory g i start.toNat n.toNat then
      (.ok s, changeMemory g i fun m => m.fill start.toNat (.ofNat b.toNat) n.toNat)
    else outOfMemory g
  | .memoryCopy target source, .value (.i32 n) :: .value (.i32 start) :: .value (.i32 dest) :: s =>
    match (g.memories[source]?).bind fun m => m.read? start.toNat n.toNat with
    | some bytes =>
      if inMemory g target dest.toNat n.toNat then
        (.ok s, changeMemory g target fun m => m.write dest.toNat bytes)
      else outOfMemory g
    | none => outOfMemory g
  | .memoryInit d i, .value (.i32 n) :: .value (.i32 start) :: .value (.i32 dest) :: s =>
    let bytes := g.datas.getD d []
    if start.toNat + n.toNat ≤ bytes.length ∧ inMemory g i dest.toNat n.toNat then
      let part := (bytes.drop start.toNat).take n.toNat
      (.ok s, changeMemory g i fun m => m.write dest.toNat part)
    else outOfMemory g
  | .dataDrop d, s => (.ok s, { g with datas := g.datas.setIfInBounds d [] })
  | _, _ => stuck g

/-! ### Tables and globals -/

/-- A table access by the instruction that follows, if it is in bounds. -/
def inTable (g : Guest) (table start length : Nat) : Bool :=
  (g.tables[table]?).any fun t => t.inBounds start length

/-- Instructions on tables, element segments and globals. -/
def onTable (o : Op) (stack : List Cell) (g : Guest) : Effect :=
  match o, stack with
  | .tableGet i, .value (.i32 n) :: s =>
    match (g.tables[i]?).bind fun t => t.get? n.toNat with
    | some c => (.ok (c :: s), g)
    | none => outOfTable g
  | .tableSet i, c :: .value (.i32 n) :: s =>
    if inTable g i n.toNat 1 then (.ok s, changeTable g i fun t => t.set n.toNat c) else outOfTable g
  | .tableSize i, s =>
    match g.tables[i]? with
    | some t => (.ok (sizeCell t.size :: s), g)
    | none => stuck g
  | .tableGrow i, .value (.i32 delta) :: c :: s =>
    match (g.tables[i]?).map fun t => (t.size, t.canGrow delta.toNat) with
    | some (size, true) => (.ok (sizeCell size :: s), changeTable g i fun t => t.grow delta.toNat c)
    | some (_, false) => (.ok (refused :: s), g)
    | none => stuck g
  | .tableFill i, .value (.i32 n) :: c :: .value (.i32 start) :: s =>
    if inTable g i start.toNat n.toNat then
      (.ok s, changeTable g i fun t => t.write start.toNat (List.replicate n.toNat c))
    else outOfTable g
  | .tableCopy target source, .value (.i32 n) :: .value (.i32 start) :: .value (.i32 dest) :: s =>
    if inTable g source start.toNat n.toNat ∧ inTable g target dest.toNat n.toNat then
      let cells := (g.tables[source]?).elim [] fun t => t.slice start.toNat n.toNat
      (.ok s, changeTable g target fun t => t.write dest.toNat cells)
    else outOfTable g
  | .tableInit e i, .value (.i32 n) :: .value (.i32 start) :: .value (.i32 dest) :: s =>
    let cells := g.elements.getD e []
    if start.toNat + n.toNat ≤ cells.length ∧ inTable g i dest.toNat n.toNat then
      let part := (cells.drop start.toNat).take n.toNat
      (.ok s, changeTable g i fun t => t.write dest.toNat part)
    else outOfTable g
  | .elemDrop e, s => (.ok s, { g with elements := g.elements.setIfInBounds e [] })
  | .globalGet i, s =>
    match g.globals[i]? with
    | some c => (.ok (c :: s), g)
    | none => stuck g
  | .globalSet i, c :: s => (.ok s, { g with globals := g.globals.setIfInBounds i c })
  | _, _ => stuck g

/-! ### One step -/

/-- The step that follows an instruction which changes the stack and the guest. -/
def after (m : Machine) (rest : Code) : Effect → Step
  | (.ok stack, g) => .next { m with current := { m.current with stack, code := rest } } g
  | (.error f, g) => .fault f g

/-- Instructions on locals. -/
def onLocal (m : Machine) (g : Guest) (rest : Code) (o : Op) : Step :=
  let a := m.current
  match o, a.stack with
  | .localGet i, s =>
    match a.locals[i]? with
    | some c => .next { m with current := { a with stack := c :: s, code := rest } } g
    | none => .fault .stuck g
  | .localSet i, c :: s =>
    .next { m with
      current := { a with locals := a.locals.setIfInBounds i c, stack := s, code := rest } } g
  | .localTee i, c :: s =>
    .next { m with
      current := { a with locals := a.locals.setIfInBounds i c, stack := c :: s, code := rest } } g
  | _, _ => .fault .stuck g

/-- Instructions that go somewhere else. -/
def onControl (p : Program) (m : Machine) (g : Guest) (o : Op) : Step :=
  match o, m.current.stack with
  | .unreachable, _ => .fault (.trap .unreachable) g
  | .br l, _ => m.branch g l
  | .brIf l, .value (.i32 c) :: s =>
    let m := { m with current := { m.current with stack := s } }
    if c = 0 then .next m g else m.branch g l
  | .brTable ls other, .value (.i32 i) :: s =>
    let m := { m with current := { m.current with stack := s } }
    m.branch g (ls.getD i.toNat other)
  | .ret, _ => m.leave g
  | .call f, _ => m.call p g f
  | .callIndirect table type, .value (.i32 i) :: s =>
    let m := { m with current := { m.current with stack := s } }
    match indirect p g table type i.toNat with
    | .ok f => m.call p g f
    | .error e => .fault e g
  | .returnCall f, _ => m.tailCall p g f
  | .returnCallIndirect table type, .value (.i32 i) :: s =>
    let m := { m with current := { m.current with stack := s } }
    match indirect p g table type i.toNat with
    | .ok f => m.tailCall p g f
    | .error e => .fault e g
  | _, _ => .fault .stuck g

/-- An instruction in front of `rest`. -/
def stepOp (p : Program) (m : Machine) (g : Guest) (o : Op) (rest : Code) : Step :=
  match o with
  | .unreachable | .br _ | .brIf _ | .brTable _ _ | .ret | .call _ | .callIndirect _ _
  | .returnCall _ | .returnCallIndirect _ _ =>
    onControl p { m with current := { m.current with code := rest } } g o
  | .localGet _ | .localSet _ | .localTee _ => onLocal m g rest o
  | .load _ _ | .store _ _ | .memorySize _ | .memoryGrow _ | .memoryFill _ | .memoryCopy _ _
  | .memoryInit _ _ | .dataDrop _ => after m rest (onMemory o m.current.stack g)
  | .tableGet _ | .tableSet _ | .tableSize _ | .tableGrow _ | .tableFill _ | .tableCopy _ _
  | .tableInit _ _ | .elemDrop _ | .globalGet _ | .globalSet _ =>
    after m rest (onTable o m.current.stack g)
  | o => after m rest (onStack o m.current.stack, g)

/-- The next step. -/
def step (p : Program) (m : Machine) (g : Guest) : Step :=
  match m.current.code with
  | .done => m.close g
  | .op o rest => stepOp p m g o rest
  | .block type body rest => enter p m g type body rest
  | .loop type body rest => enterLoop p m g type body rest
  | .ifThen type yes rest =>
    match m.current.stack with
    | .value (.i32 c) :: s =>
      let m := { m with current := { m.current with stack := s } }
      if c = 0 then enter p m g type .done rest else enter p m g type yes rest
    | _ => .fault .stuck g
  | .ifElse type yes no rest =>
    match m.current.stack with
    | .value (.i32 c) :: s =>
      let m := { m with current := { m.current with stack := s } }
      if c = 0 then enter p m g type no rest else enter p m g type yes rest
    | _ => .fault .stuck g

end Machine

end Embedder.Execution
