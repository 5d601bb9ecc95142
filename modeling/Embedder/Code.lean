import Embedder.Value
import Embedder.Code.Numeric
import Embedder.Code.Extended

/-!
The code of functions and of constant expressions.

* `Op`: an instruction that opens and closes no block;
* `Instruction`: what a file lists one after another, blocks being opened and closed;
* `Code`: a sequence of instructions, in which blocks hold sequences of their own;
* `Code.ofInstructions?`: the nesting of a list whose blocks are closed properly.

A sequence is one inductive type, not a list of trees: each constructor holds the rest of the
sequence, so functions on code recurse on it directly.
-/

namespace Embedder

/-- The place of an access to memory: `align` is the exponent of the promised alignment. -/
structure MemArg where
  align : Nat
  offset : Nat
  memory : Nat
  deriving DecidableEq

/-- A load or store of `bits` bits of a value of type `type`; a load of fewer bits than the type
has extends them with or without the sign. -/
structure Access where
  type : ValueType
  bits : Nat
  signed : Bool
  deriving DecidableEq

/-- The type of a block: no operands and at most one result, or a type of the module by its
number. -/
inductive BlockType where
  | empty
  | value (t : ValueType)
  | index (n : Nat)
  deriving DecidableEq

/-- The immediate operands of an extended instruction. -/
inductive Immediate where
  | none
  | memory (arg : MemArg)
  | lane (n : Nat)
  | memoryLane (arg : MemArg) (n : Nat)
  | lanes (ns : List Nat)
  deriving DecidableEq

inductive Op where
  | unreachable
  | nop
  | drop
  | select (types : Option (List ValueType))
  | br (label : Nat)
  | brIf (label : Nat)
  | brTable (labels : List Nat) (other : Nat)
  | ret
  | call (function : Nat)
  | callIndirect (table : Nat) (type : Nat)
  | returnCall (function : Nat)
  | returnCallIndirect (table : Nat) (type : Nat)
  | localGet (i : Nat)
  | localSet (i : Nat)
  | localTee (i : Nat)
  | globalGet (i : Nat)
  | globalSet (i : Nat)
  | tableGet (table : Nat)
  | tableSet (table : Nat)
  | tableInit (elem : Nat) (table : Nat)
  | elemDrop (elem : Nat)
  | tableCopy (target : Nat) (source : Nat)
  | tableGrow (table : Nat)
  | tableSize (table : Nat)
  | tableFill (table : Nat)
  | load (a : Access) (arg : MemArg)
  | store (a : Access) (arg : MemArg)
  | memorySize (memory : Nat)
  | memoryGrow (memory : Nat)
  | memoryInit (data : Nat) (memory : Nat)
  | dataDrop (data : Nat)
  | memoryCopy (target : Nat) (source : Nat)
  | memoryFill (memory : Nat)
  | refNull (type : ValueType)
  | refIsNull
  | refFunc (function : Nat)
  | const (v : Value)
  | numeric (n : Numeric)
  | extended (family : Extended.Family) (row : Extended.Row) (immediate : Immediate)
  deriving DecidableEq

/-- An instruction as a file lists it. -/
inductive Instruction where
  | op (o : Op)
  | block (type : BlockType)
  | loop (type : BlockType)
  | ifThen (type : BlockType)
  | otherwise
  | ends
  deriving DecidableEq

/-- A sequence of instructions. -/
inductive Code where
  | done
  | op (o : Op) (rest : Code)
  | block (type : BlockType) (body rest : Code)
  | loop (type : BlockType) (body rest : Code)
  | ifThen (type : BlockType) (yes rest : Code)
  | ifElse (type : BlockType) (yes no rest : Code)
  deriving DecidableEq

namespace Code

/-- A sequence without blocks. -/
def ofOps : List Op → Code
  | [] => .done
  | o :: os => .op o (ofOps os)

/-- One sequence after another. -/
def append : Code → Code → Code
  | .done, d => d
  | .op o c, d => .op o (append c d)
  | .block t b c, d => .block t b (append c d)
  | .loop t b c, d => .loop t b (append c d)
  | .ifThen t y c, d => .ifThen t y (append c d)
  | .ifElse t y n c, d => .ifElse t y n (append c d)

/-! ### Nesting -/

/-- A part of a sequence that is read from its end: the code up to the next opening of a block, or
the code of an `else`. -/
inductive Piece where
  | body (c : Code)
  | branch (c : Code)
  deriving DecidableEq

/-- Puts an instruction in front of what follows it. The first piece is the code that it stands
before; the others are what follows the blocks that are still to be opened. -/
def prepend : Instruction → List Piece → Option (List Piece)
  | .op o, .body c :: ps => some (.body (.op o c) :: ps)
  | .block t, .body b :: .body c :: ps => some (.body (.block t b c) :: ps)
  | .loop t, .body b :: .body c :: ps => some (.body (.loop t b c) :: ps)
  | .ifThen t, .body y :: .body c :: ps => some (.body (.ifThen t y c) :: ps)
  | .ifThen t, .body y :: .branch n :: .body c :: ps => some (.body (.ifElse t y n c) :: ps)
  | .otherwise, .body n :: ps => some (.body .done :: .branch n :: ps)
  | .ends, ps => some (.body .done :: ps)
  | _, _ => none

/-- The nesting of a list; `none` if its blocks are not closed properly. -/
def ofInstructions? (is : List Instruction) : Option Code :=
  match is.foldr (fun i (ps : Option (List Piece)) => ps.bind (prepend i)) (some [.body .done]) with
  | some [.body c] => some c
  | _ => none

/-- The instructions of a sequence one after another. -/
def instructions : Code → List Instruction
  | .done => []
  | .op o c => .op o :: instructions c
  | .block t b c => .block t :: (instructions b ++ .ends :: instructions c)
  | .loop t b c => .loop t :: (instructions b ++ .ends :: instructions c)
  | .ifThen t y c => .ifThen t :: (instructions y ++ .ends :: instructions c)
  | .ifElse t y n c =>
    .ifThen t :: (instructions y ++ .otherwise :: (instructions n ++ .ends :: instructions c))

end Code

namespace Access

/-- The loads with consecutive opcodes from `0x28` on. -/
def loads : List Access :=
  [⟨.i32, 32, false⟩, ⟨.i64, 64, false⟩, ⟨.f32, 32, false⟩, ⟨.f64, 64, false⟩, ⟨.i32, 8, true⟩,
    ⟨.i32, 8, false⟩, ⟨.i32, 16, true⟩, ⟨.i32, 16, false⟩, ⟨.i64, 8, true⟩, ⟨.i64, 8, false⟩,
    ⟨.i64, 16, true⟩, ⟨.i64, 16, false⟩, ⟨.i64, 32, true⟩, ⟨.i64, 32, false⟩]

/-- The stores with consecutive opcodes from `0x36` on. -/
def stores : List Access :=
  [⟨.i32, 32, false⟩, ⟨.i64, 64, false⟩, ⟨.f32, 32, false⟩, ⟨.f64, 64, false⟩, ⟨.i32, 8, false⟩,
    ⟨.i32, 16, false⟩, ⟨.i64, 8, false⟩, ⟨.i64, 16, false⟩, ⟨.i64, 32, false⟩]

/-- The access touches fewer bits than the type has. -/
def isPartial (a : Access) : Bool :=
  match a.type with
  | .i32 | .f32 => decide (a.bits < 32)
  | _ => decide (a.bits < 64)

/-- The exponent of the natural alignment. -/
def naturalAlign (a : Access) : Nat := (a.bits / 8).log2

end Access

end Embedder
