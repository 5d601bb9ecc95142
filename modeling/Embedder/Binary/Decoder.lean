import Embedder.Definition
import Embedder.Bytes

/-!
Taking a binary apart from its first byte on.

* `Binary.Fault`: why bytes are not a module;
* `Binary.Decoder`: a step that takes bytes off the front or fails;
* `Binary.unsigned`, `Binary.signed`: integers in groups of seven bits, the lowest first;
* `Binary.vector`, `Binary.text`, `Binary.name`, `Binary.sized`.
-/

namespace Embedder.Binary

/-- Why bytes are not a module. -/
inductive Fault where
  | endOfInput
  | notBinary
  | unknownVersion
  | integerTooLong
  | integerTooLarge
  | notText
  | nameTooLong
  | unknownType
  | unknownOpcode
  | unknownSection
  | unknownKind
  | unsupported
  | sectionOrder
  | trailingBytes
  | misplacedElse
  | countMismatch
  deriving DecidableEq

abbrev Decoder := StateT (List UInt8) (Except Fault)

def fail {α : Type} (f : Fault) : Decoder α := fun _ => .error f

def byte : Decoder UInt8 := fun bytes =>
  match bytes with
  | [] => .error .endOfInput
  | b :: rest => .ok (b, rest)

/-- The next byte, which stays in the input. -/
def peek : Decoder UInt8 := fun bytes =>
  match bytes with
  | [] => .error .endOfInput
  | b :: _ => .ok (b, bytes)

/-- The next `n` bytes. -/
def take (n : Nat) : Decoder (List UInt8) := fun bytes =>
  let taken := bytes.take n
  if taken.length = n then .ok (taken, bytes.drop n) else .error .endOfInput

/-- Everything that is left. -/
def remaining : Decoder (List UInt8) := fun bytes => .ok (bytes, [])

def atEnd : Decoder Bool := fun bytes => .ok (bytes.isEmpty, bytes)

/-! ### Integers -/

/-- An unsigned integer below `2 ^ bits` in as few groups as `bits` needs, or fewer. -/
def unsigned (bits : Nat) : Decoder Nat := do
  let b ← byte
  if b < 0x80 then
    if bits < 7 ∧ 2 ^ bits ≤ b.toNat then fail .integerTooLarge else pure b.toNat
  else if h : bits ≤ 7 then fail .integerTooLong
  else
    let high ← unsigned (bits - 7)
    pure (b.toNat - 128 + 128 * high)
termination_by bits
decreasing_by omega

/-- A group of seven bits whose highest bit is the sign. -/
def signedGroup (b : UInt8) : Int := if b < 0x40 then (b.toNat : Int) else (b.toNat : Int) - 128

/-- A signed integer of `bits` bits in as few groups as `bits` needs, or fewer. -/
def signed (bits : Nat) : Decoder Int := do
  let b ← byte
  if b < 0x80 then
    let n := signedGroup b
    let bound : Int := 2 ^ (bits - 1)
    if bits < 7 ∧ (n < -bound ∨ bound ≤ n) then fail .integerTooLarge else pure n
  else if h : bits ≤ 7 then fail .integerTooLong
  else
    let high ← signed (bits - 7)
    pure ((b.toNat : Int) - 128 + 128 * high)
termination_by bits
decreasing_by omega

def u32 : Decoder Nat := unsigned 32

def u64 : Decoder Nat := unsigned 64

/-! ### Composite forms -/

def repeated {α : Type} (p : Decoder α) : Nat → Decoder (List α)
  | 0 => pure []
  | n + 1 => do
    let a ← p
    let as ← repeated p n
    pure (a :: as)

/-- A count and as many items. -/
def vector {α : Type} (p : Decoder α) : Decoder (List α) := do
  let n ← u32
  repeated p n

/-- A count and as many bytes. -/
def byteVector : Decoder (List UInt8) := do
  let n ← u32
  take n

/-- Text in UTF-8 behind its length. -/
def text : Decoder String := do
  let bytes ← byteVector
  match String.fromUTF8? ⟨bytes.toArray⟩ with
  | some s => pure s
  | none => fail .notText

/-- The number of bytes that a name may have. -/
def maxNameSize : Nat := 100000

def name : Decoder String := do
  let s ← text
  if s.utf8ByteSize ≤ maxNameSize then pure s else fail .nameTooLong

/-- Runs a decoder on the whole of the given bytes. -/
def whole {α : Type} (p : Decoder α) (bytes : List UInt8) : Decoder α :=
  match p.run bytes with
  | .error f => fail f
  | .ok (a, []) => pure a
  | .ok (_, _ :: _) => fail .trailingBytes

/-- A size in bytes and a part that fills them. -/
def sized {α : Type} (p : Decoder α) : Decoder α := do
  let bytes ← byteVector
  whole p bytes

/-! ### Types -/

/-- The type of a reference by its heap type. -/
def heapType : Decoder ValueType := do
  match ← byte with
  | 0x70 => pure .funcref
  | 0x6F => pure .externref
  | _ => fail .unknownType

def valueType : Decoder ValueType := do
  match ← byte with
  | 0x7F => pure .i32
  | 0x7E => pure .i64
  | 0x7D => pure .f32
  | 0x7C => pure .f64
  | 0x7B => pure .v128
  | 0x70 => pure .funcref
  | 0x6F => pure .externref
  | 0x63 => heapType
  | _ => fail .unknownType

def referenceType : Decoder ValueType := do
  let t ← valueType
  if t.isReference then pure t else fail .unknownType

def signature : Decoder FunctionType := do
  let params ← vector valueType
  let results ← vector valueType
  pure ⟨params, results⟩

/-- A type may say that it is final and has no supertypes, as a function type is anyway. -/
def functionType : Decoder FunctionType := do
  match ← byte with
  | 0x60 => signature
  | 0x4F =>
    match ← u32, ← byte with
    | 0, 0x60 => signature
    | _, _ => fail .unknownType
  | _ => fail .unknownType

def memoryType : Decoder MemoryType := do
  let flags ← byte
  if 8 ≤ flags then fail .unsupported
  else
    let wide := flags &&& 4 != 0
    let size := if wide then u64 else u32
    let minimum ← size
    let maximum ← if flags &&& 1 != 0 then some <$> size else pure none
    pure ⟨minimum, maximum, flags &&& 2 != 0, wide⟩

def tableType : Decoder TableType := do
  let element ← referenceType
  let flags ← byte
  if 2 ≤ flags then fail .unsupported
  else
    let minimum ← u32
    let maximum ← if flags = 1 then some <$> u32 else pure none
    pure ⟨element, minimum, maximum⟩

def globalType : Decoder GlobalType := do
  let value ← valueType
  match ← byte with
  | 0 => pure ⟨value, false⟩
  | 1 => pure ⟨value, true⟩
  | _ => fail .unknownKind

end Embedder.Binary
