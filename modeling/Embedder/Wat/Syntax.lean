import Embedder.Definition
import Embedder.Wat.Types

/-!
A module as its text says it: fields in any order, entities by number or by name.

* `Wat.Ref`, `Wat.Scope`: a use of an entity, and the families of names;
* `Wat.TypeUse`, `Wat.Part`, `Wat.Instr`, `Wat.Field`;
* `Wat.Document`: what a whole text is.

The short forms of the format are already spelled out: an entity with an import or an export of
its own is an import field or an export field, and a table or memory with contents of its own is a
field with a segment.
-/

namespace Embedder.Wat

/-- The families in which names are looked up. Each structure has a family for its fields, which is
named by the number of its type. -/
inductive Scope where
  | type
  | function
  | table
  | memory
  | global
  | tag
  | element
  | data
  | local
  | label
  | field (type : Nat)
  deriving DecidableEq

/-- A name and the place where it stands. -/
structure Name where
  text : String
  offset : Nat
  deriving DecidableEq

/-- A use of an entity. -/
inductive Ref where
  | number (n : Nat) (offset : Nat)
  | name (n : Name)
  deriving DecidableEq

def Ref.offset : Ref → Nat
  | .number _ offset => offset
  | .name n => n.offset

/-- What is meant, wherever it is meant. -/
def Ref.bare : Ref → Ref
  | .number n _ => .number n 0
  | .name n => .name ⟨n.text, 0⟩

/-- What an entity is called: the name by which the text uses it and the one it shows instead. -/
structure Label where
  name : Option Name
  shown : Option String
  deriving DecidableEq

def Label.none : Label := ⟨.none, .none⟩

/-- The name for people to read. -/
def Label.text? (l : Label) : Option String := l.shown <|> l.name.map Name.text

/-! ### Types -/

/-- A function type as it is written, wherever it is written. -/
def FunctionType.bare (t : FunctionType Ref) : FunctionType Ref :=
  t.mapM (m := Id) Ref.bare

/-- A function type in place; parameters may have names. -/
structure Signature where
  params : List (Label × ValueType Ref)
  results : List (ValueType Ref)

def Signature.type (s : Signature) : FunctionType Ref := ⟨s.params.map Prod.snd, s.results⟩

/-- A function type by reference, in place, or both, which must then agree. -/
structure TypeUse where
  index : Option Ref
  inPlace : Option Signature

/-- The function type that the text has in place; without one it is the empty type. -/
def TypeUse.type (u : TypeUse) : FunctionType Ref :=
  match u.inPlace with
  | some s => s.type
  | none => ⟨[], []⟩

/-- A declared type, its number, and what it and its fields are called. A type that is not final can
have subtypes. -/
structure TypeDefinition where
  number : Nat
  label : Label
  final : Bool
  parent : Option Ref
  shared : Bool
  body : CompositeType Ref
  fields : List Label

/-! ### Instructions -/

/-- A part of an instruction: bytes, or what becomes bytes when all names are known. -/
inductive Part where
  | bytes (bs : List UInt8)
  | entity (scope : Scope) (r : Ref) (write : Nat → List UInt8)
  | pair (first second : Scope × Ref) (write : Nat → Nat → List UInt8)
  | branchTable (labels : List Ref) (other : Ref)
  | indirect (table : Ref) (type : TypeUse) (write : Nat → Nat → List UInt8)
  | field (type field : Ref)
  | heap (type : HeapType Ref)
  | values (types : List (ValueType Ref))

inductive BlockForm where
  | block
  | loop
  | ifThen
  | attempt
  | attemptTable
  deriving DecidableEq

/-- An instruction whose uses of entities are still open. A block may say where exceptions go; these
uses are made outside of it. A hint is about the instruction behind it. -/
inductive Instr where
  | op (parts : List Part)
  | block (form : BlockForm) (label : Label) (type : TypeUse) (handlers : List Part)
  | otherwise (label : Option Name)
  | ends (label : Option Name)
  | delegate (r : Ref)
  | hint (value : UInt8)

/-! ### Fields -/

inductive Item where
  | function (type : TypeUse)
  | table (type : TableType Ref)
  | memory (type : MemoryType)
  | global (type : GlobalType Ref)
  | tag (type : TypeUse)

def Item.scope : Item → Scope
  | .function _ => .function
  | .table _ => .table
  | .memory _ => .memory
  | .global _ => .global
  | .tag _ => .tag

/-- An active segment without a table goes to table 0. -/
inductive ElementPlace where
  | active (table : Option Ref) (offset : List Instr)
  | passive
  | declared

inductive Elements where
  | functions (rs : List Ref)
  | expressions (type : ReferenceType Ref) (items : List (List Instr))

inductive DataPlace where
  | active (memory : Ref) (offset : List Instr)
  | passive

/-- Where a custom section goes: next to a section that may be absent, or at an end. -/
inductive CustomPlace where
  | first
  | before (kind : SectionKind)
  | after (kind : SectionKind)
  | last
  deriving DecidableEq

/-- The types of a group may refer to each other. A table may say what its elements are at first. -/
inductive Field where
  | type (t : TypeDefinition)
  | group (ts : List TypeDefinition)
  | imported (offset : Nat) (module name : String) (label : Label) (item : Item)
  | function (label : Label) (type : TypeUse) (locals : List (Label × ValueType Ref))
      (code : List Instr)
  | table (label : Label) (type : TableType Ref) (init : Option (List Instr))
  | memory (label : Label) (type : MemoryType)
  | global (label : Label) (type : GlobalType Ref) (init : List Instr)
  | tag (label : Label) (type : TypeUse)
  | exported (name : String) (space : Space) (r : Ref)
  | start (r : Ref)
  | element (label : Label) (place : ElementPlace) (items : Elements)
  | data (label : Label) (place : DataPlace) (bytes : List UInt8)
  | custom (name : String) (place : CustomPlace) (bytes : List UInt8)

/-- What a text is: a module in fields, a module or a component in bytes, or a component in fields,
of which the bytes behind its header are kept. -/
inductive Document where
  | fields (label : Label) (fields : List Field)
  | binary (bytes : List UInt8)
  | component (sections : List UInt8)

end Embedder.Wat
