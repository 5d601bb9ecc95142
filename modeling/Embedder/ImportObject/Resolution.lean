import Embedder.ImportObject
import Embedder.Module

/-!
Finding for every import of a module what the host offers for it.

* `LinkError`: why an import cannot be served;
* `ImportObject.resolve`: what serves each import, in the order of the imports.

An item of the host comes before a function of the system interface. The first import that cannot
be served decides; in strict mode items that nothing imports are looked for last.
-/

namespace Embedder

/-! ### Errors -/

/-- Why an item that fits cannot be made. -/
inductive MaterialFault where
  | initialValue
  | limits (type : EntityType)
  deriving DecidableEq

def MaterialFault.text : MaterialFault → String
  | .initialValue =>
    "type mismatch: initial value provided does not match the type of this global"
  | .limits t => "limits of " ++ t.text ++ " are out of range"

inductive LinkError where
  | missingModule (module name : String)
  | missingField (module name : String)
  | kindMismatch (module name : String) (expected actual : Kind)
  | signatureMismatch (module name : String) (expected actual : EntityType)
  | unusedImport (module name : String)
  | engineMismatch (module : String)
  | material (module name : String) (f : MaterialFault)
  deriving DecidableEq

/-- The type of an entity whose kind is known from elsewhere. -/
def EntityType.signature : EntityType → String
  | .function t => t.text
  | t => t.text

def LinkError.message : LinkError → String
  | .missingModule m n =>
    "unknown import module '" ++ m ++ "' (needed for '" ++ m ++ "." ++ n ++ "')"
  | .missingField m n => "unknown import '" ++ m ++ "." ++ n ++ "'"
  | .kindMismatch m n expected actual =>
    "import '" ++ m ++ "." ++ n ++ "' expects a " ++ expected.text ++ ", but a " ++ actual.text ++
      " was provided"
  | .signatureMismatch m n expected actual =>
    "import '" ++ m ++ "." ++ n ++ "' has an incompatible type: expected " ++ expected.signature ++
      ", got " ++ actual.signature
  | .unusedImport m n =>
    "import '" ++ m ++ "." ++ n ++ "' is provided but never imported by the module"
  | .engineMismatch m => "import module '" ++ m ++ "' was generated for a different engine"
  | .material m n f => "failed to create import '" ++ m ++ "." ++ n ++ "': " ++ f.text

/-- Why there is nothing to instantiate with. Limits of a memory that the engine has no type for
are not even an error: the host breaks off. -/
inductive Refusal where
  | link (e : LinkError)
  | panic
  deriving DecidableEq

/-! ### What can be made -/

/-- A number that 32 bits hold. -/
def isWord (n : Nat) : Bool := decide (n < 2 ^ 32)

namespace MemoryType

/-- The limits can be handed to an engine, which counts pages in 32 bits. -/
def isInRange (t : MemoryType) : Bool :=
  !t.memory64 && isWord t.minimum && t.maximum.all isWord && (!t.shared || t.maximum.isSome)

/-- An engine has a memory type with these limits. -/
def isAccepted (t : MemoryType) : Bool :=
  decide (t.minimum ≤ maxPages) &&
    t.maximum.all fun m => decide (m ≤ maxPages) && decide (t.minimum ≤ m)

end MemoryType

/-- The limits can be handed to an engine, which counts elements in 32 bits. -/
def TableType.isInRange (t : TableType) : Bool := isWord t.minimum && t.maximum.all isWord

/-! ### Single imports -/

/-- What serves an import: a function of the host or of the system interface, or a new global,
memory or table. -/
inductive Provided (σ : Type) where
  | host (f : HostFunction σ)
  | generated (v : Wasi.Version) (f : Wasi.Function)
  | global (type : GlobalType) (v : Value)
  | memory (type : MemoryType)
  | table (type : TableType)

variable {σ : Type}

/-- What an item of the host serves as. -/
def HostItem.resolve (i : ImportType) (item : HostItem σ) : Except Refusal (Provided σ) :=
  let mismatch (expected actual : EntityType) : Except Refusal (Provided σ) :=
    .error (.link (.signatureMismatch i.module i.name expected actual))
  let material (f : MaterialFault) : Except Refusal (Provided σ) :=
    .error (.link (.material i.module i.name f))
  match i.type, item with
  | .function required, .function f =>
    if f.type = required then .ok (.host f) else mismatch (.function required) (.function f.type)
  | .global required, .global t v =>
    if t = required then
      if v.type = t.value then .ok (.global t v) else material .initialValue
    else mismatch (.global required) (.global t)
  | .memory required, .memory t =>
    if t.satisfies required then
      if t.isInRange then
        if t.isAccepted then .ok (.memory t) else .error .panic
      else material (.limits (.memory t))
    else mismatch (.memory required) (.memory t)
  | .table required, .table t =>
    if t.satisfies required then
      if t.isInRange then .ok (.table t) else material (.limits (.table t))
    else mismatch (.table required) (.table t)
  | required, item => .error (.link (.kindMismatch i.module i.name required.kind item.kind))

/-- What a function of the system interface serves as. -/
def Wasi.Binding.resolve (i : ImportType) (b : Wasi.Binding) : Except Refusal (Provided σ) :=
  match Wasi.Function.find? b.version i.name with
  | none => .error (.link (.missingField i.module i.name))
  | some f =>
    match i.type with
    | .function required =>
      if f.type = required then .ok (.generated b.version f)
      else
        .error (.link (.signatureMismatch i.module i.name (.function required) (.function f.type)))
    | required => .error (.link (.kindMismatch i.module i.name required.kind .function))

namespace ImportObject

variable (o : ImportObject σ)

/-- What serves an import. -/
def resolveImport (i : ImportType) : Except Refusal (Provided σ) :=
  match o.get? i.module i.name with
  | some item => item.resolve i
  | none =>
    match o.wasi.filter fun b => b.importNamespace == i.module with
    | some b => b.resolve i
    | none =>
      if i.module ∈ o.namespaces then .error (.link (.missingField i.module i.name))
      else .error (.link (.missingModule i.module i.name))

/-! ### All imports -/

/-- Namespace and name, ordered as texts one after the other. -/
def entryLe (a b : String × String) : Bool :=
  decide (a.1 < b.1) || (a.1 == b.1 && decide (a.2 ≤ b.2))

/-- The items that no import asks for, in order. -/
def unused (imports : List ImportType) : List (String × String) :=
  let wanted := imports.map fun i => (i.module, i.name)
  (o.entries.keys.filter fun k => !wanted.contains k).mergeSort entryLe

/-- What an object does not accept of the module as a whole. -/
def checkUnused (imports : List ImportType) : Except Refusal Unit :=
  match o.unused imports with
  | (ns, name) :: _ => if o.strict then .error (.link (.unusedImport ns name)) else .ok ()
  | [] => .ok ()

/-- The system interface, if there is one, is for the module's engine. -/
def checkEngine (e : Engine) : Except Refusal Unit :=
  match o.wasi with
  | some b => if b.engine = e.number then .ok () else .error (.link (.engineMismatch b.importNamespace))
  | none => .ok ()

/-- What serves each import of a module. -/
def resolve (m : Module) : Except Refusal (List (Provided σ)) := do
  o.checkEngine m.engine
  let provided ← m.imports.mapM o.resolveImport
  o.checkUnused m.imports
  return provided

end ImportObject

end Embedder
