import Embedder.Engine
import Embedder.Types.Text
import Embedder.Validation.Module
import Embedder.Wat.Assembly

/-!
Compiled modules.

* `Module`: what a module imports and exports, its name and its custom sections, beside the
  checked code;
* `Module.compile`: from text or binary;
* `Module.validate`: whether bytes are a valid binary;
* `Module.serialize`, `Module.deserialize`: a module as bytes that only an engine with the same
  view of debugging takes back. A name given later and the custom sections are not in them.
-/

namespace Embedder

/-- Why there is no module: text that is malformed, if possible with the place; a binary that is
not valid; bytes that are no artifact of a similar engine. -/
inductive CompileError where
  | malformed (place : Option Text.Position)
  | invalid
  | notArtifact
  deriving DecidableEq

/-- The messages end after the kind of error. -/
def CompileError.message : CompileError → String
  | .malformed _ => "syntax error:"
  | .invalid => "invalid module:"
  | .notArtifact => "serialization error:"

/-- What text that cannot be assembled means for its module. -/
def CompileError.ofAssembly : Wat.AssemblyError → CompileError
  | .malformed place => .malformed (some place)
  | .notText => .malformed none

/-- `definition` is what the binary says. It is valid, `code` is its checked code, and `imports` and
`exports` are the descriptors of the entities it names. -/
structure Module where
  engine : Engine
  binary : List UInt8
  definition : Definition
  code : List Code
  imports : List ImportType
  exports : List ExportType
  customs : List (String × List UInt8)
  name : Option String
  bodies_eq : Validation.bodies? definition = some code
  imports_eq : definition.imports.mapM definition.importType? = some imports
  exports_eq : definition.exports.mapM definition.exportType? = some exports

namespace Module

/-! ### Compiling -/

/-- The name that a binary gives to the module. -/
def givenName (d : Definition) : Option String := (Binary.names d.customs).module

/-- The module that a definition describes, if it is valid. -/
def ofDefinition? (e : Engine) (binary : List UInt8) (customs : List (String × List UInt8))
    (d : Definition) : Option Module :=
  match bodies : Validation.bodies? d, imports : d.imports.mapM d.importType?,
    exports : d.exports.mapM d.exportType? with
  | some code, some is, some es =>
    some
      { engine := e, binary, definition := d, code, imports := is, exports := es, customs
        name := givenName d, bodies_eq := bodies, imports_eq := imports, exports_eq := exports }
  | _, _, _ => none

/-- Custom sections of these names say how a module's imports and exports are to be adapted. Engines
have given that up, and do not compile a module that asks for it. -/
def withdrawnSections : List String := ["webidl-bindings", "wasm-interface-types"]

/-- The custom sections are looked for in the bytes again when the engine is done with them. -/
def ofBinary (e : Engine) (bytes : List UInt8) : Except CompileError Module :=
  match Binary.decode bytes with
  | .error _ => .error .invalid
  | .ok d =>
    if d.customs.any fun s => withdrawnSections.contains s.name then .error .invalid
    else
      match Binary.customSections bytes with
      | .error _ => .error .invalid
      | .ok customs =>
        match ofDefinition? e bytes customs d with
        | some m => .ok m
        | none => .error .invalid

/-- Compiles a binary, or text in the text format with this format of components. -/
def compileWith (c : Wat.ComponentFormat) (e : Engine) (source : List UInt8) :
    Except CompileError Module :=
  match Wat.toBinaryWith c source with
  | .ok bytes => ofBinary e bytes
  | .error r => .error (.ofAssembly r)

/-- Compiles a binary, or text in the text format. -/
def compile (e : Engine) (source : List UInt8) : Except CompileError Module :=
  compileWith .empty e source

/-- The bytes are a valid binary. -/
def validate (bytes : List UInt8) : Bool :=
  match Binary.decode bytes with
  | .error _ => false
  | .ok d => (Validation.bodies? d).isSome

/-! ### Parts -/

def setName (m : Module) (name : String) : Module := { m with name := some name }

/-- The contents of the custom sections of a name, in the order of the binary. -/
def customSections (m : Module) (name : String) : List (List UInt8) :=
  (m.customs.filter fun s => s.1 == name).map Prod.snd

def inspect (m : Module) : String :=
  Inspect.partialRecord "Module"
    [("name", Inspect.optional (m.name.map Inspect.text)),
      ("imports", Inspect.list (m.imports.map ImportType.inspect)),
      ("exports", Inspect.list (m.exports.map ExportType.inspect))]

/-! ### Artifacts -/

/-- The bytes that an artifact starts with. -/
def artifactMark : List UInt8 := [0x00, 0x65, 0x6D, 0x62]

/-- The settings of an engine that an artifact depends on. -/
def artifactSettings (e : Engine) : UInt8 := if e.config.debugInfo then 1 else 0

def serialize (m : Module) : List UInt8 :=
  artifactMark ++ artifactSettings m.engine :: m.binary

/-- The binary in an artifact that an engine takes. -/
def artifactBinary? (e : Engine) (bytes : List UInt8) : Option (List UInt8) :=
  match bytes.drop artifactMark.length with
  | settings :: binary =>
    if artifactMark.isPrefixOf bytes && settings == artifactSettings e then some binary else none
  | [] => none

def deserialize (e : Engine) (bytes : List UInt8) : Except CompileError Module :=
  match artifactBinary? e bytes with
  | none => .error .notArtifact
  | some binary =>
    match ofBinary e binary with
    | .ok m => .ok { m with customs := [] }
    | .error _ => .error .notArtifact

end Module

end Embedder
