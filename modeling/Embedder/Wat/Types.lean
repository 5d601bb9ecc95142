import Embedder.Binary.Encoder

/-!
The types of the text format, which are more than those of the modules that are accepted: references
of all families, structures, arrays and continuations, and groups of types that refer to each other.

* `Wat.HeapKind`, `Wat.HeapType`, `Wat.ReferenceType`, `Wat.ValueType`: the types of values;
* `Wat.FunctionType`, `Wat.CompositeType`: the types that a module declares;
* `Wat.Extent`, `Wat.MemoryType`, `Wat.TableType`, `Wat.GlobalType`: those of its other entities.

They are written over any way `ρ` to name a declared type. In a text this is a use of the type, and
in a binary it is its number. What is written with numbers has a binary form, `bytes`.
-/

namespace Embedder.Wat

open Binary (signedBytes unsignedBytes vectorBytes limitsBytes limitsFlags)

/-! ### References -/

/-- The families of references that have names of their own. -/
inductive HeapKind where
  | func
  | external
  | any
  | eq
  | i31
  | struct
  | array
  | exn
  | cont
  | none
  | noExternal
  | noFunc
  | noExn
  | noCont
  deriving DecidableEq

namespace HeapKind

def all : List HeapKind :=
  [.func, .external, .any, .eq, .i31, .struct, .array, .exn, .cont, .none, .noExternal, .noFunc,
    .noExn, .noCont]

def keyword : HeapKind → String
  | .func => "func"
  | .external => "extern"
  | .any => "any"
  | .eq => "eq"
  | .i31 => "i31"
  | .struct => "struct"
  | .array => "array"
  | .exn => "exn"
  | .cont => "cont"
  | .none => "none"
  | .noExternal => "noextern"
  | .noFunc => "nofunc"
  | .noExn => "noexn"
  | .noCont => "nocont"

/-- The name of the type of references, null among them. -/
def shorthand : HeapKind → String
  | .none => "nullref"
  | .noExternal => "nullexternref"
  | .noFunc => "nullfuncref"
  | .noExn => "nullexnref"
  | .noCont => "nullcontref"
  | kind => kind.keyword ++ "ref"

def byte : HeapKind → UInt8
  | .func => 0x70
  | .external => 0x6F
  | .any => 0x6E
  | .eq => 0x6D
  | .i31 => 0x6C
  | .struct => 0x6B
  | .array => 0x6A
  | .exn => 0x69
  | .cont => 0x68
  | .none => 0x71
  | .noExternal => 0x72
  | .noFunc => 0x73
  | .noExn => 0x74
  | .noCont => 0x75

def ofKeyword? (w : String) : Option HeapKind := all.find? fun kind => kind.keyword == w

/-- The family of a type of references; `anyfunc` is an old name of `funcref`. -/
def ofShorthand? (w : String) : Option HeapKind :=
  if w = "anyfunc" then some .func else all.find? fun kind => kind.shorthand == w

end HeapKind

/-- What a reference refers to: anything of a family, perhaps shared between threads, or a value of
a declared type. -/
inductive HeapType (ρ : Type) where
  | family (shared : Bool) (kind : HeapKind)
  | declared (type : ρ)
  deriving DecidableEq

structure ReferenceType (ρ : Type) where
  nullable : Bool
  heap : HeapType ρ
  deriving DecidableEq

/-- The references of a family, null among them. -/
def ReferenceType.ofKind {ρ : Type} (kind : HeapKind) : ReferenceType ρ := ⟨true, .family false kind⟩

/-- A type of numbers or vectors, or of references. -/
inductive ValueType (ρ : Type) where
  | number (t : Embedder.ValueType)
  | reference (t : ReferenceType ρ)
  deriving DecidableEq

/-! ### Declared types -/

structure FunctionType (ρ : Type) where
  params : List (ValueType ρ)
  results : List (ValueType ρ)
  deriving DecidableEq

/-- What a field of a structure and an element of an array hold. -/
inductive StorageType (ρ : Type) where
  | i8
  | i16
  | value (t : ValueType ρ)

structure FieldType (ρ : Type) where
  storage : StorageType ρ
  mutable : Bool

inductive CompositeType (ρ : Type) where
  | function (t : FunctionType ρ)
  | structure (fields : List (FieldType ρ))
  | array (element : FieldType ρ)
  | continuation (type : ρ)

/-! ### Entities -/

/-- A size range, and whether the entity is shared and addressed with 64 bits. -/
structure Extent where
  minimum : Nat
  maximum : Option Nat
  shared : Bool
  wide : Bool

/-- A page has `2 ^ pageBits` bytes; mostly the text does not say it. -/
structure MemoryType where
  extent : Extent
  pageBits : Option Nat

structure TableType (ρ : Type) where
  element : ReferenceType ρ
  extent : Extent

structure GlobalType (ρ : Type) where
  value : ValueType ρ
  mutable : Bool
  shared : Bool

/-! ### Other names for declared types -/

section Naming

variable {m : Type → Type} [Monad m] {ρ σ : Type} (f : ρ → m σ)

def HeapType.mapM : HeapType ρ → m (HeapType σ)
  | .family shared kind => return .family shared kind
  | .declared type => return .declared (← f type)

def ReferenceType.mapM (t : ReferenceType ρ) : m (ReferenceType σ) :=
  return ⟨t.nullable, ← t.heap.mapM f⟩

def ValueType.mapM : ValueType ρ → m (ValueType σ)
  | .number t => return .number t
  | .reference t => return .reference (← t.mapM f)

def FunctionType.mapM (t : FunctionType ρ) : m (FunctionType σ) :=
  return ⟨← t.params.mapM fun v => v.mapM f, ← t.results.mapM fun v => v.mapM f⟩

def StorageType.mapM : StorageType ρ → m (StorageType σ)
  | .i8 => return .i8
  | .i16 => return .i16
  | .value t => return .value (← t.mapM f)

def FieldType.mapM (t : FieldType ρ) : m (FieldType σ) := return ⟨← t.storage.mapM f, t.mutable⟩

def CompositeType.mapM : CompositeType ρ → m (CompositeType σ)
  | .function t => return .function (← t.mapM f)
  | .structure fields => return .structure (← fields.mapM fun t => t.mapM f)
  | .array element => return .array (← element.mapM f)
  | .continuation type => return .continuation (← f type)

def TableType.mapM (t : TableType ρ) : m (TableType σ) := return ⟨← t.element.mapM f, t.extent⟩

def GlobalType.mapM (t : GlobalType ρ) : m (GlobalType σ) :=
  return ⟨← t.value.mapM f, t.mutable, t.shared⟩

end Naming

/-! ### Bytes -/

def HeapType.bytes : HeapType Nat → List UInt8
  | .family shared kind => (if shared then [0x65] else []) ++ [kind.byte]
  | .declared n => signedBytes n

def ReferenceType.bytes (t : ReferenceType Nat) : List UInt8 :=
  match t.nullable, t.heap with
  | true, .family false kind => [kind.byte]
  | true, heap => 0x63 :: heap.bytes
  | false, heap => 0x64 :: heap.bytes

def ValueType.bytes : ValueType Nat → List UInt8
  | .number t => [Binary.valueTypeByte t]
  | .reference t => t.bytes

def StorageType.bytes : StorageType Nat → List UInt8
  | .i8 => [0x78]
  | .i16 => [0x77]
  | .value t => t.bytes

def FieldType.bytes (t : FieldType Nat) : List UInt8 :=
  t.storage.bytes ++ [if t.mutable then 1 else 0]

def CompositeType.bytes : CompositeType Nat → List UInt8
  | .function t =>
    0x60 :: (vectorBytes ValueType.bytes t.params ++ vectorBytes ValueType.bytes t.results)
  | .structure fields => 0x5F :: vectorBytes FieldType.bytes fields
  | .array element => 0x5E :: element.bytes
  | .continuation n => 0x5D :: signedBytes n

/-- The limits behind a byte that has further bits. -/
def Extent.bytes (e : Extent) (further : UInt8) : List UInt8 :=
  limitsBytes (limitsFlags e.shared e.wide ||| further) e.minimum e.maximum

def MemoryType.bytes (t : MemoryType) : List UInt8 :=
  match t.pageBits with
  | none => t.extent.bytes 0
  | some n => t.extent.bytes 8 ++ unsignedBytes n

def TableType.bytes (t : TableType Nat) : List UInt8 := t.element.bytes ++ t.extent.bytes 0

def GlobalType.bytes (t : GlobalType Nat) : List UInt8 :=
  t.value.bytes ++ [(if t.mutable then 1 else 0) ||| (if t.shared then 2 else 0)]

end Embedder.Wat
