import Embedder.Action
import Embedder.Dictionary
import Embedder.Engine
import Embedder.Wasi.Environment
import Embedder.Wasi.Function

/-!
What a host offers to the modules it instantiates.

* `HostFunction`, `HostItem`: a function with a body, or the description of a global, a memory or a
  table, of which every import gets one of its own;
* `ImportObject`: items by namespace and name, where the last definition counts;
* `Wasi.Environment.generate`: an import object that offers the system interface.
-/

namespace Embedder

/-! ### Items -/

/-- A function of the host. One that uses the caller's memory cannot run before the caller's
memory is bound. -/
structure HostFunction (σ : Type) where
  type : FunctionType
  usesMemory : Bool
  body : List Value → Action σ (List Value)

inductive HostItem (σ : Type) where
  | function (f : HostFunction σ)
  | global (type : GlobalType) (value : Value)
  | memory (type : MemoryType)
  | table (type : TableType)

namespace HostItem

variable {σ : Type}

def kind : HostItem σ → Kind
  | .function _ => .function
  | .global _ _ => .global
  | .memory _ => .memory
  | .table _ => .table

def type : HostItem σ → EntityType
  | .function f => .function f.type
  | .global t _ => .global t
  | .memory t => .memory t
  | .table t => .table t

/-- A global of the value's own type. -/
def ofValue (v : Value) (mutable : Bool) : HostItem σ := .global ⟨v.type, mutable⟩ v

end HostItem

/-! ### Import objects -/

/-- The system interface of a snapshot for programs started with an environment. It serves one
engine only. -/
structure Wasi.Binding where
  environment : Wasi.Environment
  version : Wasi.Version
  engine : Nat
  deriving DecidableEq

def Wasi.Binding.importNamespace (b : Wasi.Binding) : String := b.version.importNamespace

/-- `namespaces` are those that ever got an item or were registered. A strict object is refused
by a module that does not import all of its items. -/
structure ImportObject (σ : Type) where
  entries : Dictionary (String × String) (HostItem σ)
  namespaces : List String
  wasi : Option Wasi.Binding
  strict : Bool

namespace ImportObject

variable {σ : Type}

def empty : ImportObject σ := ⟨[], [], none, false⟩

def withWasi (b : Wasi.Binding) : ImportObject σ := { empty with wasi := some b }

variable (o : ImportObject σ)

def addNamespace (ns : String) : ImportObject σ :=
  if ns ∈ o.namespaces then o else { o with namespaces := o.namespaces ++ [ns] }

def define (ns name : String) (item : HostItem σ) : ImportObject σ :=
  { o.addNamespace ns with entries := o.entries.insert (ns, name) item }

/-- Defines items of one namespace, which is known from then on even without any. -/
def register (ns : String) (items : List (String × HostItem σ)) : ImportObject σ :=
  items.foldl (fun o e => o.define ns e.1 e.2) (o.addNamespace ns)

/-- Takes over everything from another object but its strictness. -/
def extend (other : ImportObject σ) : ImportObject σ :=
  let o := other.namespaces.foldl addNamespace o
  { o with
    entries := o.entries.merge other.entries
    wasi := match other.wasi with
      | some b => some b
      | none => o.wasi }

def containsNamespace (ns : String) : Bool :=
  decide (ns ∈ o.namespaces) || o.wasi.any fun b => b.importNamespace == ns

/-- An item of the host; what the system interface offers is none. -/
def get? (ns name : String) : Option (HostItem σ) := o.entries.find? (ns, name)

def setStrict (strict : Bool) : ImportObject σ := { o with strict }

end ImportObject

/-- An import object with the functions of a snapshot for an engine. -/
def Wasi.Environment.generate {σ : Type} (env : Wasi.Environment) (e : Engine) (v : Wasi.Version) :
    ImportObject σ :=
  .withWasi ⟨env, v.resolve, e.number⟩

end Embedder
