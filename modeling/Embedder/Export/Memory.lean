import Embedder.Export.Function

/-!
Exported memories, and the memory that an instance lends to the functions it calls.

* `Handle.size`, `Handle.byteSize`, `Handle.grow`, `Handle.read`, `Handle.write`;
* `CallerMemory.size`, `CallerMemory.range`: from within a call, where a range ends if it exists;
* `CallerMemory.slice`, `CallerMemory.read`, `CallerMemory.write`, `CallerMemory.edit`: accesses to a
  range that is looked for before;
* `MemoryError`: the bytes do not exist, the memory does not grow, or the instance is running.
-/

namespace Embedder

inductive MemoryError where
  | outOfBounds (start length : Nat)
  | growth (delta : Nat)
  | reentrant
  deriving DecidableEq

def MemoryError.message : MemoryError → String
  | .outOfBounds start length =>
    "access of " ++ toString length ++ " bytes at offset " ++ toString start ++ " is out of bounds"
  | .growth delta =>
    "failed to grow memory by " ++ toString delta ++ " pages: failed to grow memory by `" ++
      toString delta ++ "`"
  | .reentrant => reentrantMessage

namespace Handle

variable {σ : Type} (h : Handle MemoryType)

/-- The size in pages. -/
def size : Action σ (Except MemoryError Nat) :=
  .operate h.address.owner (.memorySize h.address.index) fun
    | none => .done (.error .reentrant)
    | some n => .done (.ok n)

/-- The size in bytes. -/
def byteSize : Action σ (Except MemoryError Nat) := do
  return (← h.size).map fun n => n * pageSize

/-- Adds pages of zeros, and answers with the number of pages before. -/
def grow (delta : Nat) : Action σ (Except MemoryError Nat) :=
  .operate h.address.owner (.memoryGrow h.address.index delta) fun
    | none => .done (.error .reentrant)
    | some none => .done (.error (.growth delta))
    | some (some n) => .done (.ok n)

def read (start length : Nat) : Action σ (Except MemoryError (List UInt8)) :=
  .operate h.address.owner (.memoryRead h.address.index start length) fun
    | none => .done (.error .reentrant)
    | some none => .done (.error (.outOfBounds start length))
    | some (some bytes) => .done (.ok bytes)

/-- Writes all the bytes or none. -/
def write (start : Nat) (bytes : List UInt8) : Action σ (Except MemoryError Unit) :=
  .operate h.address.owner (.memoryWrite h.address.index start bytes) fun
    | none => .done (.error .reentrant)
    | some false => .done (.error (.outOfBounds start bytes.length))
    | some true => .done (.ok ())

end Handle

namespace CallerMemory

variable {σ : Type}

/-- The size in bytes. -/
def size : Action σ Nat := .memory .size .done

/-- The sum of two numbers of 64 bits, if it is one. -/
def checkedAdd (a b : Nat) : Option Nat := if a + b < 2 ^ 64 then some (a + b) else none

/-- Where a range of a memory of so many bytes ends. -/
def rangeEnd? (size start length : Nat) : Option Nat :=
  (checkedAdd start length).filter fun stop => decide (stop ≤ size)

/-- Where a range ends, if all of it is in the memory. -/
def range (start length : Nat) : Action σ (Except MemoryError Nat) := do
  match rangeEnd? (← size) start length with
  | none => return .error (.outOfBounds start length)
  | some stop => return .ok stop

/-- The bytes of a range that has been looked for; there is no other way to ask for them. -/
def fetch (start stop : Nat) : Action σ (List UInt8) :=
  .memory (.read start (stop - start)) fun
    | some bytes => .done bytes
    | none => .panic

/-- Puts bytes where a range has been looked for. -/
def store (start : Nat) (bytes : List UInt8) : Action σ Unit :=
  .memory (.write start bytes) fun
    | true => .done ()
    | false => .panic

/-- The bytes of a range. -/
def slice (start length : Nat) : Action σ (Except MemoryError (List UInt8)) := do
  match ← range start length with
  | .error e => return .error e
  | .ok stop => return .ok (← fetch start stop)

/-- Reading copies a slice. -/
def read (start length : Nat) : Action σ (Except MemoryError (List UInt8)) := slice start length

/-- Writes all the bytes or none: it copies them over a slice. -/
def write (start : Nat) (bytes : List UInt8) : Action σ (Except MemoryError Unit) := do
  match ← range start bytes.length with
  | .error e => return .error e
  | .ok _ => return .ok (← store start bytes)

/-- Changes the bytes of a slice in place; a change keeps their number. -/
def edit (start length : Nat) (change : List UInt8 → List UInt8) :
    Action σ (Except MemoryError Unit) := do
  match ← slice start length with
  | .error e => return .error e
  | .ok bytes => write start (change bytes)

end CallerMemory

end Embedder
