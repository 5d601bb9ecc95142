import Embedder.Value

/-!
Tables of references.

* `Table.get?`, `Table.set`: the elements of a table;
* `Table.canGrow`, `Table.grow`: more elements.

The elements at the end that were never set are not stored.
-/

namespace Embedder

structure Table where
  element : ValueType
  size : Nat
  cells : Array Cell
  maximum : Option Nat

namespace Table

def ofType (t : TableType) : Table := ⟨t.element, t.minimum, #[], t.maximum⟩

/-- The reference that an element starts as. -/
def null (t : Table) : Cell := .zero t.element

/-- The element at an index; past what is stored it is null. -/
def get (t : Table) (i : Nat) : Cell := t.cells.getD i t.null

def get? (t : Table) (i : Nat) : Option Cell := if i < t.size then some (t.get i) else none

def set (t : Table) (i : Nat) (c : Cell) : Table :=
  let missing := Array.replicate (i + 1 - t.cells.size) t.null
  { t with cells := (t.cells ++ missing).setIfInBounds i c }

/-- The elements of the access exist. -/
def inBounds (t : Table) (start length : Nat) : Bool := decide (start + length ≤ t.size)

def slice (t : Table) (start length : Nat) : List Cell :=
  (List.range length).map fun i => t.get (start + i)

def write (t : Table) (start : Nat) : List Cell → Table
  | [] => t
  | c :: cs => (t.set start c).write (start + 1) cs

/-- The number of elements that 32 bits can count. -/
def maxSize : Nat := 2 ^ 32 - 1

/-- Growth by nothing is always possible. -/
def canGrow (t : Table) (delta : Nat) : Bool :=
  delta == 0 || decide (t.size + delta ≤ min (t.maximum.getD maxSize) maxSize)

/-- More elements, all equal to `c`. -/
def grow (t : Table) (delta : Nat) (c : Cell) : Table :=
  let larger := { t with size := t.size + delta }
  if c = t.null then larger else larger.write t.size (List.replicate delta c)

@[simp] theorem size_set (t : Table) (i : Nat) (c : Cell) : (t.set i c).size = t.size := rfl

theorem size_write (t : Table) (start : Nat) (cs : List Cell) :
    (t.write start cs).size = t.size := by
  induction cs generalizing t start with
  | nil => rfl
  | cons c cs ih => simp [write, ih]

end Table

end Embedder
