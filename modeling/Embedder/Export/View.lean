import Embedder.Bytes
import Embedder.Export.Memory

/-!
Views of a memory as a sequence of integers, the lowest byte first.

* `ViewElement`: the integers that a view can consist of;
* `View.length`, `View.get`, `View.set`, `View.toList`: the sequence from an offset to the end of
  the memory. An element that the memory ends within does not belong to it.
-/

namespace Embedder

inductive ViewElement where
  | u8
  | i8
  | u16
  | i16
  | u32
  | i32
  deriving DecidableEq, Inhabited

namespace ViewElement

def text : ViewElement → String
  | .u8 => "u8"
  | .i8 => "i8"
  | .u16 => "u16"
  | .i16 => "i16"
  | .u32 => "u32"
  | .i32 => "i32"

def ofText? (s : String) : Option ViewElement :=
  [ViewElement.u8, .i8, .u16, .i16, .u32, .i32].find? fun e => e.text == s

/-- The bytes of an element. -/
def width : ViewElement → Nat
  | .u8 | .i8 => 1
  | .u16 | .i16 => 2
  | .u32 | .i32 => 4

def isSigned : ViewElement → Bool
  | .i8 | .i16 | .i32 => true
  | .u8 | .u16 | .u32 => false

theorem width_pos (e : ViewElement) : 0 < e.width := by cases e <;> decide

/-- The integer that bytes stand for. -/
def decode (e : ViewElement) (bytes : List UInt8) : Int :=
  let n := BitVec.ofNat (8 * e.width) (littleEndian bytes)
  if e.isSigned then n.toInt else n.toNat

/-- The bytes of an integer, which counts modulo the number of elements there are. -/
def encode (e : ViewElement) (n : Int) : List UInt8 :=
  littleEndianBytes e.width (BitVec.ofInt (8 * e.width) n).toNat

theorem length_encode (e : ViewElement) (n : Int) : (e.encode n).length = e.width :=
  length_littleEndianBytes _ _

/-- The integers that whole groups of bytes stand for. -/
def decodeAll (e : ViewElement) (bytes : List UInt8) : List Int :=
  let cells := bytes.toArray
  (List.range (bytes.length / e.width)).map fun i =>
    e.decode (cells.extract (i * e.width) ((i + 1) * e.width)).toList

end ViewElement

/-- A view starts at an offset in bytes. -/
structure View where
  memory : Handle MemoryType
  element : ViewElement
  offset : Nat
  deriving DecidableEq

namespace View

variable {σ : Type} (v : View)

/-- Addresses are below this number. -/
def addressLimit : Nat := 2 ^ 64

/-- The number of elements in a memory of so many bytes. -/
def lengthWithin (byteSize : Nat) : Nat := (byteSize - v.offset) / v.element.width

def length : Action σ (Except MemoryError Nat) := do
  return (← v.memory.byteSize).map v.lengthWithin

def isEmpty : Action σ (Except MemoryError Bool) := do
  return (← v.length).map fun n => n == 0

/-- The address of an element; there is none past the last address. -/
def address (index : Nat) : Except MemoryError Nat :=
  let start := index * v.element.width + v.offset
  if start < addressLimit then .ok start else .error (.outOfBounds v.offset v.element.width)

def get (index : Nat) : Action σ (Except MemoryError Int) :=
  match v.address index with
  | .error e => .done (.error e)
  | .ok start => do return (← v.memory.read start v.element.width).map v.element.decode

def set (index : Nat) (n : Int) : Action σ (Except MemoryError Unit) :=
  match v.address index with
  | .error e => .done (.error e)
  | .ok start => v.memory.write start (v.element.encode n)

/-- All the elements. -/
def toList : Action σ (Except MemoryError (List Int)) := do
  match ← v.memory.byteSize with
  | .error e => return .error e
  | .ok size =>
    if size < v.offset then return .ok []
    else return (← v.memory.read v.offset (size - v.offset)).map v.element.decodeAll

end View

end Embedder
