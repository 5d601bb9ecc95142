import Embedder.Code.Spelling
import Embedder.Wat.Reader.Types

/-!
Reading instructions, flat or folded. A folded instruction stands behind its operands in the
result; a folded block is closed where its bracket is.

* `Wat.instr`: one instruction without the operands that are folded into it;
* `Wat.code`: instructions up to the end of the list that is being read;
* `Wat.foldedInstr`: one folded instruction.
-/

namespace Embedder.Wat

open Binary (opBytes unsignedBytes)

/-! ### Parts of instructions -/

def Instr.ofOp (o : Op) : Instr := .op [.bytes (opBytes o)]

/-- The number of an entity, as it stands in most instructions. -/
def number (scope : Scope) (r : Ref) : Part := .entity scope r unsignedBytes

def refOrZero : Reading Ref := do return (← ref?).getD .zero

/-- One use, which may be left out. -/
def optionalUse (scope : Scope) (make : Nat → Op) : Reading Instr := do
  return .op [.entity scope (← refOrZero) fun n => opBytes (make n)]

def use (scope : Scope) (make : Nat → Op) : Reading Instr := do
  return .op [.entity scope (← ref) fun n => opBytes (make n)]

/-- Two uses, of which the first one is written in front. -/
def Instr.pair (first second : Scope × Ref) (make : Nat → Nat → Op) : Instr :=
  .op [.pair first second fun m n => opBytes (make m n)]

/-- A segment behind an entity that may be left out. -/
def segmentUse (segments entities : Scope) (make : Nat → Nat → Op) : Reading Instr := do
  let first ← ref
  match ← ref? with
  | some second => return .pair (segments, second) (entities, first) make
  | none => return .pair (segments, first) (entities, .zero) make

/-- Two entities of one scope, or neither. -/
def copyUse (scope : Scope) (make : Nat → Nat → Op) : Reading Instr := do
  match ← ref? with
  | some target => return .pair (scope, target) (scope, ← ref) make
  | none => return .pair (scope, .zero) (scope, .zero) make

/-- The number of a keyword such as `offset=8`. -/
def keywordNumber? (key w : String) : Option (Option Nat) :=
  let front := key ++ "="
  if w.startsWith front then
    match Number.ofChars? (w.toList.drop front.length) with
    | some (.integer false n) => some (some n)
    | _ => some none
  else none

/-- The value of such a keyword, if it is next. -/
def keywordNumber (key : String) (width : Nat) : Reading (Option Nat) := do
  match ← peek with
  | .keyword w =>
    match keywordNumber? key w with
    | none => return none
    | some (some n) =>
      if n < 2 ^ width then
        advance
        return some n
      else fail
    | some none => fail
  | _ => return none

/-- The place of an access: a memory, an offset and an alignment, each of which may be left out. -/
def memArg (naturalAlign : Nat) : Reading (Ref × (Nat → MemArg)) := do
  let memory ← refOrZero
  let offset := (← keywordNumber "offset" 64).getD 0
  match ← keywordNumber "align" 32 with
  | none => return (memory, fun m => ⟨naturalAlign, offset, m⟩)
  | some n =>
    if isPowerOfTwo n then return (memory, fun m => ⟨n.log2, offset, m⟩) else fail

def access (naturalAlign : Nat) (make : MemArg → Op) : Reading Instr := do
  let (memory, arg) ← memArg naturalAlign
  return .op [.entity .memory memory fun m => opBytes (make (arg m))]

/-- The number in front of a lane is that of a memory when another number follows it. -/
def hasMemArg : Reading Bool := do
  if ← isInteger then
    match ← ahead with
    | .number (.integer _ _) => return true
    | .keyword w => return w.startsWith "offset=" || w.startsWith "align="
    | _ => return false
  else return true

def extendedUse (family : Extended.Family) (row : Extended.Row) : Reading Instr := do
  match row.shape with
  | .plain | .fence => return .ofOp (.extended family row .none)
  | .memory align => access align fun arg => .extended family row (.memory arg)
  | .lane _ => return .ofOp (.extended family row (.lane (← natural 8)))
  | .memoryLane align _ =>
    let (memory, arg) ← if ← hasMemArg then memArg align
      else pure (Ref.zero, fun m => ⟨align, 0, m⟩)
    let lane ← natural 8
    return .op [.entity .memory memory fun m =>
      opBytes (.extended family row (.memoryLane (arg m) lane))]
  | .shuffle =>
    let lanes ← (List.replicate 16 ()).mapM fun _ => natural 8
    return .ofOp (.extended family row (.lanes lanes))

/-- The number whose digits of `width` bits are given, the lowest first. -/
def joinLanes (width : Nat) (lanes : List Nat) : Nat :=
  lanes.foldr (fun lane n => lane + 2 ^ width * n) 0

def lanes (count width : Nat) (p : Reading Nat) : Reading Instr := do
  advance
  let ns ← (List.replicate count ()).mapM fun _ => p
  return .ofOp (.const (.v128 (BitVec.ofNat 128 (joinLanes width ns))))

/-- A vector by its lanes. -/
def vector : Reading Instr := do
  match ← peek with
  | .keyword "i8x16" => lanes 16 8 (integer 8)
  | .keyword "i16x8" => lanes 8 16 (integer 16)
  | .keyword "i32x4" => lanes 4 32 (integer 32)
  | .keyword "i64x2" => lanes 2 64 (integer 64)
  | .keyword "f32x4" => lanes 4 32 (float .binary32)
  | .keyword "f64x2" => lanes 2 64 (float .binary64)
  | _ => fail

def selectTypes : Reading (List (ValueType Ref)) := do
  let parts ← repeatWhile (aheadIs ["result"]) <| parens do
    expectKeyword "result"
    untilClosing valueType
  return parts.flatten

def select : Reading Instr := do
  if ← aheadIs ["result"] then return .op [.bytes [0x1C], .values (← selectTypes)]
  else return .ofOp (.select none)

/-- The table may stand on either side of the type. -/
def indirect (make : Nat → Nat → Op) : Reading Instr := do
  let before ← ref?
  let type ← typeUse false
  let table ← match before with
    | some r => pure r
    | none => refOrZero
  return .op [.indirect table type fun m n => opBytes (make m n)]

def branchTable : Reading Instr := do
  let first ← ref
  let more ← repeatWhile isRef ref
  let all := first :: more
  return .op [.branchTable all.dropLast (all.getLast?.getD first)]

def block (form : BlockForm) : Reading Instr := do
  let l ← label
  return .block form l (← typeUse false) []

/-! ### Instructions that no accepted module has -/

/-- What stands behind the opcode of such an instruction. -/
inductive Operands where
  | uses (scopes : List Scope)
  | optional (scope : Scope)
  | field

def Operands.read : Operands → Reading (List Part)
  | .uses scopes => scopes.mapM fun scope => return number scope (← ref)
  | .optional scope => return [number scope (← refOrZero)]
  | .field => return [.field (← ref) (← ref)]

structure Proposed where
  name : String
  opcode : List UInt8
  operands : Operands

def Proposed.all : List Proposed := [
  ⟨"catch", [0x07], .uses [.tag]⟩,
  ⟨"throw", [0x08], .uses [.tag]⟩,
  ⟨"rethrow", [0x09], .uses [.label]⟩,
  ⟨"throw_ref", [0x0A], .uses []⟩,
  ⟨"catch_all", [0x19], .uses []⟩,
  ⟨"call_ref", [0x14], .uses [.type]⟩,
  ⟨"return_call_ref", [0x15], .uses [.type]⟩,
  ⟨"ref.eq", [0xD3], .uses []⟩,
  ⟨"ref.as_non_null", [0xD4], .uses []⟩,
  ⟨"br_on_null", [0xD5], .uses [.label]⟩,
  ⟨"br_on_non_null", [0xD6], .uses [.label]⟩,
  ⟨"cont.new", [0xE0], .uses [.type]⟩,
  ⟨"cont.bind", [0xE1], .uses [.type, .type]⟩,
  ⟨"suspend", [0xE2], .uses [.tag]⟩,
  ⟨"switch", [0xE5], .uses [.type, .tag]⟩,
  ⟨"struct.new", [0xFB, 0x00], .uses [.type]⟩,
  ⟨"struct.new_default", [0xFB, 0x01], .uses [.type]⟩,
  ⟨"struct.get", [0xFB, 0x02], .field⟩,
  ⟨"struct.get_s", [0xFB, 0x03], .field⟩,
  ⟨"struct.get_u", [0xFB, 0x04], .field⟩,
  ⟨"struct.set", [0xFB, 0x05], .field⟩,
  ⟨"array.new", [0xFB, 0x06], .uses [.type]⟩,
  ⟨"array.new_default", [0xFB, 0x07], .uses [.type]⟩,
  ⟨"array.new_data", [0xFB, 0x09], .uses [.type, .data]⟩,
  ⟨"array.new_elem", [0xFB, 0x0A], .uses [.type, .element]⟩,
  ⟨"array.get", [0xFB, 0x0B], .uses [.type]⟩,
  ⟨"array.get_s", [0xFB, 0x0C], .uses [.type]⟩,
  ⟨"array.get_u", [0xFB, 0x0D], .uses [.type]⟩,
  ⟨"array.set", [0xFB, 0x0E], .uses [.type]⟩,
  ⟨"array.len", [0xFB, 0x0F], .uses []⟩,
  ⟨"array.fill", [0xFB, 0x10], .uses [.type]⟩,
  ⟨"array.copy", [0xFB, 0x11], .uses [.type, .type]⟩,
  ⟨"array.init_data", [0xFB, 0x12], .uses [.type, .data]⟩,
  ⟨"array.init_elem", [0xFB, 0x13], .uses [.type, .element]⟩,
  ⟨"any.convert_extern", [0xFB, 0x1A], .uses []⟩,
  ⟨"extern.convert_any", [0xFB, 0x1B], .uses []⟩,
  ⟨"ref.i31", [0xFB, 0x1C], .uses []⟩,
  ⟨"i31.get_s", [0xFB, 0x1D], .uses []⟩,
  ⟨"i31.get_u", [0xFB, 0x1E], .uses []⟩,
  ⟨"memory.discard", [0xFC, 0x12], .optional .memory⟩,
  ⟨"i64.add128", [0xFC, 0x13], .uses []⟩,
  ⟨"i64.sub128", [0xFC, 0x14], .uses []⟩,
  ⟨"i64.mul_wide_s", [0xFC, 0x15], .uses []⟩,
  ⟨"i64.mul_wide_u", [0xFC, 0x16], .uses []⟩,
  ⟨"ref.i31_shared", [0xFE, 0x72], .uses []⟩]

/-- Atomic instructions with consecutive opcodes behind `0xFE`. -/
def Proposed.atomics (first : Nat) (operands : Operands) (entity : String) (accesses : List String) :
    List Proposed :=
  accesses.zipIdx.map fun (access, i) =>
    ⟨entity ++ ".atomic." ++ access, [0xFE, UInt8.ofNat (first + i)], operands⟩

def updates : List String :=
  ["rmw.add", "rmw.sub", "rmw.and", "rmw.or", "rmw.xor", "rmw.xchg", "rmw.cmpxchg"]

/-- Atomic instructions that say in front of their operands how they are ordered. -/
def Proposed.ordered : List Proposed :=
  atomics 0x4F (.uses [.global]) "global" (["get", "set"] ++ updates) ++
    atomics 0x58 (.optional .table) "table" ["get", "set", "rmw.xchg", "rmw.cmpxchg"] ++
    atomics 0x5C .field "struct" (["get", "get_s", "get_u", "set"] ++ updates) ++
    atomics 0x67 (.uses [.type]) "array" (["get", "get_s", "get_u", "set"] ++ updates)

def ordering : Reading UInt8 := do
  if ← takeKeyword "seq_cst" then return 0
  else if ← takeKeyword "acq_rel" then return 1
  else fail

def Proposed.find? (all : List Proposed) (name : String) : Option Proposed :=
  all.find? fun p => p.name == name

def Proposed.read (p : Proposed) : Reading Instr := do
  return .op (.bytes p.opcode :: (← p.operands.read))

def Proposed.readOrdered (p : Proposed) : Reading Instr := do
  let order ← ordering
  return .op (.bytes (p.opcode ++ [order]) :: (← p.operands.read))

/-- A test or a cast; the next opcode is that for references with null among them. -/
def cast (opcode : UInt8) : Reading Instr := do
  let t ← referenceType
  return .op [.bytes [0xFB, if t.nullable then opcode + 1 else opcode], .heap t.heap]

/-- A branch that casts from one type to another. -/
def branchOnCast (opcode : UInt8) : Reading Instr := do
  let l ← ref
  let source ← referenceType
  let target ← referenceType
  let flags : UInt8 := (if source.nullable then 1 else 0) ||| (if target.nullable then 2 else 0)
  return .op [.bytes [0xFB, opcode, flags], number .label l, .heap source.heap, .heap target.heap]

def arrayOfSize : Reading Instr := do
  let type ← ref
  let size ← natural 32
  return .op [.bytes [0xFB, 0x08], number .type type, .bytes (unsignedBytes size)]

/-- Parts behind their number. -/
def counted (pss : List (List Part)) : List Part :=
  .bytes (unsignedBytes pss.length) :: pss.flatten

/-- Where a suspended computation goes on. -/
def resumption : Reading (List Part) :=
  parens do
    expectKeyword "on"
    let tag ← ref
    if ← takeKeyword "switch" then return [.bytes [1], number .tag tag]
    else return [.bytes [0], number .tag tag, number .label (← ref)]

def resume (opcode : UInt8) (scopes : List Scope) : Reading Instr := do
  let uses ← (Operands.uses scopes).read
  let clauses ← repeatWhile (opens (.keyword "on")) resumption
  return .op (.bytes [opcode] :: uses ++ counted clauses)

/-- Where an exception goes: those of a tag or all, with or without a reference to it. -/
def catchClause : Reading (List Part) :=
  parens do
    if ← takeKeyword "catch" then
      return [.bytes [0], number .tag (← ref), number .label (← ref)]
    else if ← takeKeyword "catch_ref" then
      return [.bytes [1], number .tag (← ref), number .label (← ref)]
    else if ← takeKeyword "catch_all" then return [.bytes [2], number .label (← ref)]
    else if ← takeKeyword "catch_all_ref" then return [.bytes [3], number .label (← ref)]
    else fail

def attemptTable : Reading Instr := do
  let l ← label
  let type ← typeUse false
  let clauses ←
    repeatWhile (aheadIs ["catch", "catch_ref", "catch_all", "catch_all_ref"]) catchClause
  return .block .attemptTable l type (counted clauses)

/-! ### Instructions -/

/-- The operands of an instruction that the tables of computations, loads and stores hold. -/
def tabulated (w : String) : Option (Reading Instr) :=
  match Numeric.ofName? w, Access.loadOfName? w, Access.storeOfName? w, Extended.ofName? w with
  | some n, _, _, _ => some (return .ofOp (.numeric n))
  | _, some a, _, _ => some (access a.naturalAlign (.load a))
  | _, _, some a, _ => some (access a.naturalAlign (.store a))
  | _, _, _, some (family, row) => some (extendedUse family row)
  | _, _, _, _ =>
    match Proposed.find? Proposed.all w, Proposed.find? Proposed.ordered w with
    | some p, _ => some p.read
    | none, some p => some p.readOrdered
    | none, none => none

/-- How the operands of the instruction with the given name are read. -/
def instrNamed (w : String) : Option (Reading Instr) :=
  match w with
  | "block" => some (block .block)
  | "loop" => some (block .loop)
  | "if" => some (block .ifThen)
  | "try" => some (block .attempt)
  | "try_table" => some attemptTable
  | "else" => some (.otherwise <$> name?)
  | "end" => some (.ends <$> name?)
  | "delegate" => some (.delegate <$> ref)
  | "unreachable" => some (return .ofOp .unreachable)
  | "nop" => some (return .ofOp .nop)
  | "drop" => some (return .ofOp .drop)
  | "return" => some (return .ofOp .ret)
  | "ref.is_null" => some (return .ofOp .refIsNull)
  | "select" => some select
  | "br" => some (use .label .br)
  | "br_if" => some (use .label .brIf)
  | "br_table" => some branchTable
  | "call" => some (use .function .call)
  | "return_call" => some (use .function .returnCall)
  | "call_indirect" => some (indirect .callIndirect)
  | "return_call_indirect" => some (indirect .returnCallIndirect)
  | "local.get" => some (use .local .localGet)
  | "local.set" => some (use .local .localSet)
  | "local.tee" => some (use .local .localTee)
  | "global.get" => some (use .global .globalGet)
  | "global.set" => some (use .global .globalSet)
  | "ref.func" => some (use .function .refFunc)
  | "ref.null" => some (return .op [.bytes [0xD0], .heap (← heapType)])
  | "table.get" => some (optionalUse .table .tableGet)
  | "table.set" => some (optionalUse .table .tableSet)
  | "table.grow" => some (optionalUse .table .tableGrow)
  | "table.size" => some (optionalUse .table .tableSize)
  | "table.fill" => some (optionalUse .table .tableFill)
  | "table.copy" => some (copyUse .table .tableCopy)
  | "table.init" => some (segmentUse .element .table .tableInit)
  | "elem.drop" => some (use .element .elemDrop)
  | "memory.size" => some (optionalUse .memory .memorySize)
  | "memory.grow" => some (optionalUse .memory .memoryGrow)
  | "memory.fill" => some (optionalUse .memory .memoryFill)
  | "memory.copy" => some (copyUse .memory .memoryCopy)
  | "memory.init" => some (segmentUse .data .memory .memoryInit)
  | "data.drop" => some (use .data .dataDrop)
  | "i32.const" => some (return .ofOp (.const (.i32 (UInt32.ofNat (← integer 32)))))
  | "i64.const" => some (return .ofOp (.const (.i64 (UInt64.ofNat (← integer 64)))))
  | "f32.const" => some (return .ofOp (.const (.f32 (UInt32.ofNat (← float .binary32)))))
  | "f64.const" => some (return .ofOp (.const (.f64 (UInt64.ofNat (← float .binary64)))))
  | "v128.const" => some vector
  | "ref.test" => some (cast 0x14)
  | "ref.cast" => some (cast 0x16)
  | "br_on_cast" => some (branchOnCast 0x18)
  | "br_on_cast_fail" => some (branchOnCast 0x19)
  | "array.new_fixed" => some arrayOfSize
  | "resume" => some (resume 0xE3 [.type])
  | "resume_throw" => some (resume 0xE4 [.type, .tag])
  | w => tabulated w

/-- One instruction without the operands that are folded into it. -/
def instr : Reading Instr := do
  match ← peek with
  | .keyword w =>
    match instrNamed w with
    | some p =>
      advance
      p
    | none => fail
  | _ => fail

/-! ### Sequences -/

/-- What an open bracket waits for: its end, where an instruction is to be written; the condition
of an `if` or the arms behind it; the body of a `try`, its handlers or further ones, or nothing more
of it; the end of an arm. -/
inductive Level where
  | endsWith (i : Instr)
  | condition (i : Instr)
  | thenDone
  | elseDone
  | attempt (i : Instr)
  | handlers
  | moreHandlers
  | allCaught
  | delegated
  | arm

/-- The level has only lists in it. -/
def Level.isListed : Level → Bool
  | .endsWith _ | .arm => false
  | _ => true

/-- A handler of a `try` behind its bracket: the new levels, and the instruction to write. -/
def openHandler (outer : List Level) (first : Bool) : Reading (List Level × List Instr) := do
  if ← takeKeyword "catch" then
    return (.arm :: .moreHandlers :: outer, [.op [.bytes [0x07], number .tag (← ref)]])
  else if ← takeKeyword "catch_all" then
    return (.arm :: .allCaught :: outer, [.op [.bytes [0x19]]])
  else if first && (← isKeyword "delegate") then
    advance
    return (.arm :: .delegated :: outer, [.delegate (← ref)])
  else fail

def isHint : Reading Bool := return (← peek) = .note "metadata.code.branch_hint"

/-- What is said of the branch behind: whether it is likely. -/
def hint : Reading Instr := do
  expect (.note "metadata.code.branch_hint")
  match ← bytes with
  | [0] => return .hint 0
  | [1] => return .hint 1
  | _ => fail

/-- What a bracket opens: the new levels, and the instructions to write. -/
def openLevel (levels : List Level) : Reading (List Level × List Instr) := do
  match levels with
  | .thenDone :: outer =>
    expectKeyword "else"
    return (.arm :: .elseDone :: outer, [.otherwise none])
  | .handlers :: outer => openHandler outer true
  | .moreHandlers :: outer => openHandler outer false
  | .elseDone :: _ | .allCaught :: _ | .delegated :: _ => fail
  | levels =>
    match levels, ← isKeyword "then", ← isKeyword "do" with
    | .condition i :: outer, true, _ =>
      advance
      return (.arm :: .thenDone :: outer, [i])
    | .attempt i :: outer, _, true =>
      advance
      return (.arm :: .handlers :: outer, [i])
    | levels, _, _ =>
      if ← isHint then return (.arm :: levels, [← hint])
      else
        match ← instr with
        | .block .ifThen l t ps => return (.condition (.block .ifThen l t ps) :: levels, [])
        | .block .attempt l t ps => return (.attempt (.block .attempt l t ps) :: levels, [])
        | .block form l t ps => return (.endsWith (.ends none) :: levels, [.block form l t ps])
        | i => return (.endsWith i :: levels, [])

/-- What the end of a level writes. -/
def closeLevel : Level → Reading (List Instr)
  | .endsWith i => return [i]
  | .arm | .delegated => return []
  | .condition _ | .attempt _ | .handlers => fail
  | .thenDone | .elseDone | .moreHandlers | .allCaught => return [.ends none]

/-- Reads on to the end of the list that is being read. Every round takes a token or fails;
`found` holds what is read, the last one first. -/
def codeWithin : (rounds : Nat) → List Level → (found : List Instr) → Reading (List Instr)
  | 0, _, _ => fail
  | rounds + 1, levels, found => do
    if levels.isEmpty && (← isEmpty) then return found.reverse
    else if levels.head?.any Level.isListed && !(← isEmpty) && (← peek) ≠ .opening then fail
    else
      match ← peek, levels with
      | .opening, levels =>
        advance
        let (levels, is) ← openLevel levels
        codeWithin rounds levels (is.reverse ++ found)
      | .closing, level :: outer =>
        advance
        let is ← closeLevel level
        codeWithin rounds outer (is.reverse ++ found)
      | _, levels =>
        let i ← instr
        codeWithin rounds levels (i :: found)

/-- Instructions up to the end of the list that is being read. -/
def code : Reading (List Instr) := fun s => codeWithin (s.tokens.length + 1) [] [] s

/-- One folded instruction. -/
def foldedInstr : Reading (List Instr) :=
  parens do
    let (levels, is) ← openLevel []
    let operands ← code
    match levels with
    | level :: _ => return is ++ operands ++ (← closeLevel level)
    | [] => return is ++ operands

end Embedder.Wat
