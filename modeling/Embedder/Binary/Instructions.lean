import Embedder.Binary.Decoder

/-!
The binary form of instructions.

* `Binary.operation`, `Binary.instruction`: the instruction of an opcode;
* `Binary.expression`: the instructions up to the `end` that closes the sequence.
-/

namespace Embedder.Binary

/-- Bit 6 of the first number says that the number of a memory follows. -/
def memArg : Decoder MemArg := do
  let flags ← u32
  let other := flags / 64 % 2 = 1
  let memory ← if other then u32 else pure 0
  let align := if other then flags - 64 else flags
  if 64 ≤ align then fail .unsupported
  else
    let offset ← u32
    pure ⟨align, offset, memory⟩

def blockType : Decoder BlockType := do
  let b ← peek
  if b = 0x40 then
    let _ ← byte
    pure .empty
  else if b &&& 0xC0 = 0x40 then
    let t ← valueType
    pure (.value t)
  else
    let n ← signed 33
    if n < 0 then fail .unknownType else pure (.index n.toNat)

def immediate (shape : Extended.Shape) : Decoder Immediate := do
  match shape with
  | .plain => pure .none
  | .memory _ => pure (.memory (← memArg))
  | .lane _ => pure (.lane (← byte).toNat)
  | .memoryLane _ _ =>
    let arg ← memArg
    let n ← byte
    pure (.memoryLane arg n.toNat)
  | .shuffle =>
    let lanes ← take 16
    pure (.lanes (lanes.map UInt8.toNat))
  | .fence =>
    match ← byte with
    | 0 => pure .none
    | _ => fail .unknownOpcode

def extended (family : Extended.Family) : Decoder Op := do
  let number ← u32
  if family = .vector ∧ number = 12 then
    let bytes ← take 16
    pure (.const (.v128 (BitVec.ofNat 128 (littleEndian bytes))))
  else
    match Extended.row? family number with
    | none => fail .unknownOpcode
    | some row =>
      let i ← immediate row.shape
      pure (.extended family row i)

/-- The instructions behind the opcode `0xFC`. -/
def prefixed : Decoder Op := do
  let number ← u32
  match number with
  | 8 =>
    let data ← u32
    let memory ← u32
    pure (.memoryInit data memory)
  | 9 => pure (.dataDrop (← u32))
  | 10 =>
    let target ← u32
    let source ← u32
    pure (.memoryCopy target source)
  | 11 => pure (.memoryFill (← u32))
  | 12 =>
    let elem ← u32
    let table ← u32
    pure (.tableInit elem table)
  | 13 => pure (.elemDrop (← u32))
  | 14 =>
    let target ← u32
    let source ← u32
    pure (.tableCopy target source)
  | 15 => pure (.tableGrow (← u32))
  | 16 => pure (.tableSize (← u32))
  | 17 => pure (.tableFill (← u32))
  | n =>
    match Numeric.saturating[n]? with
    | some op => pure (.numeric op)
    | none => fail .unknownOpcode

/-- Loads, stores and computations, whose opcodes are consecutive. -/
def tabulated (opcode : UInt8) : Decoder Op :=
  let n := opcode.toNat
  if 0x28 ≤ n ∧ n < 0x36 then
    match Access.loads[n - 0x28]? with
    | some a => do pure (.load a (← memArg))
    | none => fail .unknownOpcode
  else if 0x36 ≤ n ∧ n < 0x3F then
    match Access.stores[n - 0x36]? with
    | some a => do pure (.store a (← memArg))
    | none => fail .unknownOpcode
  else if 0x45 ≤ n then
    match Numeric.table[n - 0x45]? with
    | some op => pure (.numeric op)
    | none => fail .unknownOpcode
  else fail .unknownOpcode

/-- The instruction of an opcode other than those of blocks. -/
def operation (opcode : UInt8) : Decoder Op := do
  match opcode with
  | 0x00 => pure .unreachable
  | 0x01 => pure .nop
  | 0x0C => pure (.br (← u32))
  | 0x0D => pure (.brIf (← u32))
  | 0x0E =>
    let labels ← vector u32
    let other ← u32
    pure (.brTable labels other)
  | 0x0F => pure .ret
  | 0x10 => pure (.call (← u32))
  | 0x11 =>
    let type ← u32
    let table ← u32
    pure (.callIndirect table type)
  | 0x12 => pure (.returnCall (← u32))
  | 0x13 =>
    let type ← u32
    let table ← u32
    pure (.returnCallIndirect table type)
  | 0x1A => pure .drop
  | 0x1B => pure (.select none)
  | 0x1C =>
    let types ← vector valueType
    pure (.select (some types))
  | 0x20 => pure (.localGet (← u32))
  | 0x21 => pure (.localSet (← u32))
  | 0x22 => pure (.localTee (← u32))
  | 0x23 => pure (.globalGet (← u32))
  | 0x24 => pure (.globalSet (← u32))
  | 0x25 => pure (.tableGet (← u32))
  | 0x26 => pure (.tableSet (← u32))
  | 0x3F => pure (.memorySize (← u32))
  | 0x40 => pure (.memoryGrow (← u32))
  | 0x41 =>
    let n ← signed 32
    pure (.const (.i32 (UInt32.ofInt n)))
  | 0x42 =>
    let n ← signed 64
    pure (.const (.i64 (UInt64.ofInt n)))
  | 0x43 =>
    let bytes ← take 4
    pure (.const (.f32 (UInt32.ofNat (littleEndian bytes))))
  | 0x44 =>
    let bytes ← take 8
    pure (.const (.f64 (UInt64.ofNat (littleEndian bytes))))
  | 0xD0 => pure (.refNull (← heapType))
  | 0xD1 => pure .refIsNull
  | 0xD2 => pure (.refFunc (← u32))
  | 0xFC => prefixed
  | 0xFD => extended .vector
  | 0xFE => extended .atomic
  | opcode => tabulated opcode

/-- The instruction of any opcode. -/
def instruction (opcode : UInt8) : Decoder Instruction := do
  match opcode with
  | 0x02 => pure (.block (← blockType))
  | 0x03 => pure (.loop (← blockType))
  | 0x04 => pure (.ifThen (← blockType))
  | 0x05 => pure .otherwise
  | 0x0B => pure .ends
  | opcode => pure (.op (← operation opcode))

/-- How many blocks are open after an instruction; `none` if it closes the whole sequence. -/
def depthAfter : Instruction → Nat → Option Nat
  | .block _, n | .loop _, n | .ifThen _, n => some (n + 1)
  | .ends, 0 => none
  | .ends, n + 1 => some n
  | .op _, n | .otherwise, n => some n

/-- The instructions up to the `end` that closes the sequence; `before` holds those that are read,
the last one first. Every round takes a byte at least, so the number of bytes left bounds the
number of rounds. -/
def expressionWithin (rounds depth : Nat) (before : List Instruction) :
    Decoder (List Instruction) :=
  match rounds with
  | 0 => fail .endOfInput
  | rounds + 1 => do
    let i ← instruction (← byte)
    match depthAfter i depth with
    | none => pure before.reverse
    | some depth => expressionWithin rounds depth (i :: before)

/-- The instructions of a sequence without the `end` that closes it. -/
def expression : Decoder (List Instruction) := fun bytes =>
  expressionWithin (bytes.length + 1) 0 [] bytes

end Embedder.Binary
