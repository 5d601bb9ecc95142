import Embedder.Power

/-!
The types of the values a guest computes with and of the entities that cross the boundary between
a guest and its host: functions, memories, globals and tables.

* `ValueType`, `FunctionType`, `MemoryType`, `GlobalType`, `TableType`, and their sum `EntityType`;
* `ImportType`, `ExportType`: the named descriptors a module declares;
* `MemoryType.satisfies`, `TableType.satisfies`: which provided limits serve a declared import.
-/

namespace Embedder

/-! ### Values -/

/-- The type of a value on the guest's stack. -/
inductive ValueType where
  | i32
  | i64
  | f32
  | f64
  | v128
  | externref
  | funcref
  deriving DecidableEq, Inhabited

namespace ValueType

def isReference : ValueType → Bool
  | .externref | .funcref => true
  | _ => false

def all : List ValueType := [.i32, .i64, .f32, .f64, .v128, .externref, .funcref]

end ValueType

/-! ### Entities -/

structure FunctionType where
  params : List ValueType
  results : List ValueType
  deriving DecidableEq, Inhabited

/-- A size range counted in pages or elements; without a maximum it has no upper end. -/
structure Limits where
  minimum : Nat
  maximum : Option Nat
  deriving DecidableEq, Inhabited

/-- The number of bytes of a page. -/
def pageSize : Nat := 65536

/-- The number of pages that 32 bits can address. -/
def maxPages : Nat := 65536

/-- The limits of a linear memory are counted in pages. -/
structure MemoryType where
  minimum : Nat
  maximum : Option Nat
  shared : Bool
  memory64 : Bool
  deriving DecidableEq, Inhabited

structure GlobalType where
  value : ValueType
  mutable : Bool
  deriving DecidableEq, Inhabited

structure TableType where
  element : ValueType
  minimum : Nat
  maximum : Option Nat
  deriving DecidableEq, Inhabited

/-- The four kinds of things a module can import and export. -/
inductive Kind where
  | function
  | memory
  | global
  | table
  deriving DecidableEq, Inhabited

inductive EntityType where
  | function (type : FunctionType)
  | memory (type : MemoryType)
  | global (type : GlobalType)
  | table (type : TableType)
  deriving DecidableEq, Inhabited

def EntityType.kind : EntityType → Kind
  | .function _ => .function
  | .memory _ => .memory
  | .global _ => .global
  | .table _ => .table

structure ImportType where
  module : String
  name : String
  type : EntityType
  deriving DecidableEq, Inhabited

structure ExportType where
  name : String
  type : EntityType
  deriving DecidableEq, Inhabited

/-! ### Which limits serve an import -/

namespace Limits

/-- The sizes that keep within the limits. -/
def Allows (l : Limits) (n : Nat) : Prop :=
  l.minimum ≤ n ∧ ∀ m, l.maximum = some m → n ≤ m

/-- `provided` starts no lower than `required` and ends no higher. -/
def satisfies (provided required : Limits) : Bool :=
  decide (required.minimum ≤ provided.minimum) &&
    match provided.maximum, required.maximum with
    | _, none => true
    | some p, some r => decide (p ≤ r)
    | none, some _ => false

/-- Limits are well formed when the maximum, if there is one, is not below the minimum. -/
def WellFormed (l : Limits) : Prop := ∀ m, l.maximum = some m → l.minimum ≤ m

end Limits

namespace MemoryType

def limits (t : MemoryType) : Limits := ⟨t.minimum, t.maximum⟩

/-- A memory of type `provided` can stand where one of type `required` is imported. -/
def satisfies (provided required : MemoryType) : Bool :=
  provided.shared == required.shared && provided.memory64 == required.memory64 &&
    provided.limits.satisfies required.limits

end MemoryType

namespace TableType

def limits (t : TableType) : Limits := ⟨t.minimum, t.maximum⟩

/-- A table of type `provided` can stand where one of type `required` is imported. -/
def satisfies (provided required : TableType) : Bool :=
  provided.element == required.element && provided.limits.satisfies required.limits

end TableType

end Embedder
