import Embedder.Bytes
import Embedder.Types

/-!
Linear memories.

* `Memory.get`, `Memory.read?`: the bytes of a memory;
* `Memory.set`, `Memory.write`, `Memory.fill`: changing them;
* `Memory.canGrow`, `Memory.grow`: more pages, of zeros.

A memory is seen through its size and through `get`. A range of bytes is there as a whole, or an
access to it is refused and changes nothing.
-/

namespace Embedder

abbrev Page := Vector UInt8 pageSize

def Page.zero : Page := Vector.replicate pageSize 0

structure Memory where
  pages : Array Page
  maximum : Option Nat

namespace Memory

def ofType (t : MemoryType) : Memory := ⟨Array.replicate t.minimum .zero, t.maximum⟩

/-- The size in pages. -/
def size (m : Memory) : Nat := m.pages.size

/-- The size in bytes. -/
def byteSize (m : Memory) : Nat := m.size * pageSize

/-- The bytes of the access exist. -/
def inBounds (m : Memory) (start length : Nat) : Bool := decide (start + length ≤ m.byteSize)

/-! ### Single bytes -/

theorem mod_pageSize_lt (n : Nat) : n % pageSize < pageSize := Nat.mod_lt n (by decide)

/-- The byte at an address; outside of the memory it is zero. -/
def get (m : Memory) (address : Nat) : UInt8 :=
  match m.pages[address / pageSize]? with
  | some page =>
    have := mod_pageSize_lt address
    page[address % pageSize]
  | none => 0

/-- Changes the byte at an address; outside of the memory nothing changes. -/
def set (m : Memory) (address : Nat) (b : UInt8) : Memory :=
  { m with
    pages := m.pages.modify (address / pageSize) fun page =>
      page.set (address % pageSize) b (mod_pageSize_lt address) }

/-! ### Ranges -/

/-- The bytes of a range. -/
def slice (m : Memory) (start length : Nat) : List UInt8 :=
  (List.range length).map fun i => m.get (start + i)

def write (m : Memory) (start : Nat) : List UInt8 → Memory
  | [] => m
  | b :: bs => (m.set start b).write (start + 1) bs

def fill (m : Memory) (start : Nat) (b : UInt8) : (length : Nat) → Memory
  | 0 => m
  | length + 1 => (m.set start b).fill (start + 1) b length

def read? (m : Memory) (start length : Nat) : Option (List UInt8) :=
  if m.inBounds start length then some (m.slice start length) else none

/-- The number in a range of bytes. -/
def number (m : Memory) (start length : Nat) : Nat := littleEndian (m.slice start length)

/-! ### Growth -/

/-- The size that a memory cannot grow past. -/
def limit (m : Memory) : Nat := min (m.maximum.getD maxPages) maxPages

def canGrow (m : Memory) (delta : Nat) : Bool := decide (m.size + delta ≤ m.limit)

def grow (m : Memory) (delta : Nat) : Memory :=
  { m with pages := m.pages ++ Array.replicate delta .zero }

/-! ### Size and bytes after each operation -/

@[simp] theorem size_set (m : Memory) (address : Nat) (b : UInt8) :
    (m.set address b).size = m.size := by
  simp [size, set]

theorem size_write (m : Memory) (start : Nat) (bs : List UInt8) :
    (m.write start bs).size = m.size := by
  induction bs generalizing m start with
  | nil => rfl
  | cons b bs ih => simp [write, ih]

theorem size_fill (m : Memory) (start : Nat) (b : UInt8) (length : Nat) :
    (m.fill start b length).size = m.size := by
  induction length generalizing m start with
  | zero => rfl
  | succ length ih => simp [fill, ih]

@[simp] theorem size_grow (m : Memory) (delta : Nat) : (m.grow delta).size = m.size + delta := by
  simp [size, grow]

theorem get_set_self (m : Memory) (address : Nat) (b : UInt8) (h : address < m.byteSize) :
    (m.set address b).get address = b := by
  have page : address / pageSize < m.pages.size :=
    Nat.div_lt_of_lt_mul (by rw [Nat.mul_comm]; exact h)
  simp [get, set, Array.getElem_modify, page]

theorem get_set_of_ne (m : Memory) (address other : Nat) (b : UInt8) (h : address ≠ other) :
    (m.set address b).get other = m.get other := by
  by_cases page : address / pageSize = other / pageSize
  · have place : address % pageSize ≠ other % pageSize := by
      intro same
      apply h
      rw [← Nat.div_add_mod address pageSize, ← Nat.div_add_mod other pageSize, page, same]
    unfold get set
    simp only [Array.getElem?_modify, page, if_true]
    cases m.pages[other / pageSize]? with
    | none => rfl
    | some p => simp [place]
  · simp [get, set, Array.getElem?_modify, page]

end Memory

end Embedder
