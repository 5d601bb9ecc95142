import Embedder.Types.Text

/-!
What a host holds of an instance: its exports and the entities behind them.

* `Handle`: an entity of an instance and the type that the module declares for it;
* `Export`: a name and an entity of any kind, `Exports`: those of an instance in their order;
* `ExportError`: no export of a name, or one of another kind.
-/

namespace Embedder

/-- An entity by the number of its instance and its index in the space of its kind. -/
structure Address where
  owner : Nat
  index : Nat
  deriving DecidableEq, Inhabited

structure Handle (T : Type) where
  address : Address
  type : T
  deriving DecidableEq, Inhabited

inductive Entity where
  | function (h : Handle FunctionType)
  | memory (h : Handle MemoryType)
  | global (h : Handle GlobalType)
  | table (h : Handle TableType)
  deriving DecidableEq

namespace Entity

def kind : Entity → Kind
  | .function _ => .function
  | .memory _ => .memory
  | .global _ => .global
  | .table _ => .table

def type : Entity → EntityType
  | .function h => .function h.type
  | .memory h => .memory h.type
  | .global h => .global h.type
  | .table h => .table h.type

/-- The entity of an instance at an index. -/
def ofType (owner index : Nat) : EntityType → Entity
  | .function t => .function ⟨⟨owner, index⟩, t⟩
  | .memory t => .memory ⟨⟨owner, index⟩, t⟩
  | .global t => .global ⟨⟨owner, index⟩, t⟩
  | .table t => .table ⟨⟨owner, index⟩, t⟩

/-- The kind and the type as messages write it. -/
def inspect : Entity → String
  | .function h => Inspect.variant "Function" h.type.text
  | .memory h => Inspect.variant "Memory" h.type.text
  | .global h => Inspect.variant "Global" h.type.text
  | .table h => Inspect.variant "Table" h.type.text

/-- The kind and the type by its fields. -/
def inspectHandle : Entity → String
  | .function h => Inspect.partialRecord "Function" [("ty", h.type.inspect)]
  | .memory h => Inspect.partialRecord "Memory" [("ty", h.type.inspect)]
  | .global h => Inspect.partialRecord "Global" [("ty", h.type.inspect)]
  | .table h => Inspect.partialRecord "Table" [("ty", h.type.inspect)]

end Entity

structure Export where
  name : String
  entity : Entity
  deriving DecidableEq

inductive ExportError where
  | notFound (name : String)
  | wrongKind (name : String) (expected actual : Kind)
  deriving DecidableEq

def ExportError.message : ExportError → String
  | .notFound name => "no export named '" ++ name ++ "'"
  | .wrongKind name expected actual =>
    "export '" ++ name ++ "' is a " ++ actual.text ++ ", not a " ++ expected.text

namespace Export

variable (e : Export)

def wrongKind (expected : Kind) : ExportError := .wrongKind e.name expected e.entity.kind

def asFunction : Except ExportError (Handle FunctionType) :=
  match e.entity with
  | .function h => .ok h
  | _ => .error (e.wrongKind .function)

def asMemory : Except ExportError (Handle MemoryType) :=
  match e.entity with
  | .memory h => .ok h
  | _ => .error (e.wrongKind .memory)

def asGlobal : Except ExportError (Handle GlobalType) :=
  match e.entity with
  | .global h => .ok h
  | _ => .error (e.wrongKind .global)

def asTable : Except ExportError (Handle TableType) :=
  match e.entity with
  | .table h => .ok h
  | _ => .error (e.wrongKind .table)

end Export

/-- The exports of an instance in the order in which the module declares them. -/
structure Exports where
  entries : List Export
  deriving DecidableEq

namespace Exports

variable (es : Exports)

def size : Nat := es.entries.length

def isEmpty : Bool := es.entries.isEmpty

def contains (name : String) : Bool := es.entries.any fun e => e.name == name

def get (name : String) : Except ExportError Export :=
  match es.entries.find? fun e => e.name == name with
  | some e => .ok e
  | none => .error (.notFound name)

/-- The names and kinds in order. -/
def kinds : List (String × Kind) := es.entries.map fun e => (e.name, e.entity.kind)

def function (name : String) : Except ExportError (Handle FunctionType) :=
  es.get name >>= Export.asFunction

def memory (name : String) : Except ExportError (Handle MemoryType) :=
  es.get name >>= Export.asMemory

def global (name : String) : Except ExportError (Handle GlobalType) :=
  es.get name >>= Export.asGlobal

def table (name : String) : Except ExportError (Handle TableType) :=
  es.get name >>= Export.asTable

end Exports

end Embedder
