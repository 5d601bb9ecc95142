import Embedder.Code

/-!
What a module file says, section by section: the common ground of the text format and the binary
format, of validation, of printing and of execution.

Entities are named by their place in an index space: first the imported ones, then the module's
own. Code stands as in a file: a list of instructions without the `end` that closes it.
-/

namespace Embedder

/-- The five index spaces whose entities can be imported and exported; a tag is known only so that
it can be refused. -/
inductive Space where
  | function
  | table
  | memory
  | global
  | tag
  deriving DecidableEq

inductive ImportItem where
  | function (type : Nat)
  | table (type : TableType)
  | memory (type : MemoryType)
  | global (type : GlobalType)
  | tag (type : Nat)
  deriving DecidableEq

def ImportItem.space : ImportItem → Space
  | .function _ => .function
  | .table _ => .table
  | .memory _ => .memory
  | .global _ => .global
  | .tag _ => .tag

structure ImportEntry where
  module : String
  name : String
  item : ImportItem
  deriving DecidableEq

structure ExportEntry where
  name : String
  space : Space
  index : Nat
  deriving DecidableEq

structure GlobalEntry where
  type : GlobalType
  init : List Instruction
  deriving DecidableEq

/-- Locals are given in runs of one type; the parameters come before them. -/
structure FunctionBody where
  locals : List (Nat × ValueType)
  code : List Instruction
  deriving DecidableEq

/-- The types of all locals behind the parameters. -/
def FunctionBody.localTypes (b : FunctionBody) : List ValueType :=
  b.locals.flatMap fun (n, t) => List.replicate n t

/-- Where the elements of a segment go. An active segment without a table goes to table 0. -/
inductive ElementMode where
  | active (table : Option Nat) (offset : List Instruction)
  | passive
  | declared
  deriving DecidableEq

inductive ElementItems where
  | functions (indices : List Nat)
  | expressions (type : ValueType) (items : List (List Instruction))
  deriving DecidableEq

def ElementItems.type : ElementItems → ValueType
  | .functions _ => .funcref
  | .expressions t _ => t

structure ElementSegment where
  mode : ElementMode
  items : ElementItems
  deriving DecidableEq

inductive DataMode where
  | active (memory : Nat) (offset : List Instruction)
  | passive
  deriving DecidableEq

structure DataSegment where
  mode : DataMode
  bytes : List UInt8
  deriving DecidableEq

/-- The sections of a module in the order in which a file has them. -/
inductive SectionKind where
  | types
  | imports
  | functions
  | tables
  | memories
  | tags
  | globals
  | exports
  | start
  | elements
  | dataCount
  | code
  | datas
  deriving DecidableEq

def SectionKind.all : List SectionKind :=
  [.types, .imports, .functions, .tables, .memories, .tags, .globals, .exports, .start, .elements,
    .dataCount, .code, .datas]

/-- The place in the order of a file. -/
def SectionKind.rank : SectionKind → Nat
  | .types => 0
  | .imports => 1
  | .functions => 2
  | .tables => 3
  | .memories => 4
  | .tags => 5
  | .globals => 6
  | .exports => 7
  | .start => 8
  | .elements => 9
  | .dataCount => 10
  | .code => 11
  | .datas => 12

/-- Bytes under a name that the format gives no meaning; `after` is the section before it. -/
structure CustomSection where
  name : String
  bytes : List UInt8
  after : Option SectionKind
  deriving DecidableEq

/-- A module as its file describes it. `functions` holds the type numbers and `bodies` the code of
the module's own functions. -/
structure Definition where
  types : List FunctionType
  imports : List ImportEntry
  functions : List Nat
  tables : List TableType
  memories : List MemoryType
  tags : List Nat
  globals : List GlobalEntry
  exports : List ExportEntry
  start : Option Nat
  elements : List ElementSegment
  dataCount : Option Nat
  bodies : List FunctionBody
  datas : List DataSegment
  customs : List CustomSection
  deriving DecidableEq

namespace Definition

def empty : Definition :=
  { types := [], imports := [], functions := [], tables := [], memories := [], tags := [],
    globals := [], exports := [], start := none, elements := [], dataCount := none, bodies := [],
    datas := [], customs := [] }

variable (d : Definition)

/-! ### Index spaces -/

def importedFunctions : List Nat :=
  d.imports.filterMap fun i => match i.item with
    | .function t => some t
    | _ => none

/-- The type number of every function. -/
def functionSpace : List Nat := d.importedFunctions ++ d.functions

def importedTables : List TableType :=
  d.imports.filterMap fun i => match i.item with
    | .table t => some t
    | _ => none

def tableSpace : List TableType := d.importedTables ++ d.tables

def importedMemories : List MemoryType :=
  d.imports.filterMap fun i => match i.item with
    | .memory t => some t
    | _ => none

def memorySpace : List MemoryType := d.importedMemories ++ d.memories

def importedGlobals : List GlobalType :=
  d.imports.filterMap fun i => match i.item with
    | .global t => some t
    | _ => none

def globalSpace : List GlobalType := d.importedGlobals ++ d.globals.map GlobalEntry.type

def functionType? (i : Nat) : Option FunctionType := d.functionSpace[i]?.bind fun t => d.types[t]?

/-- The type of the entity at `index` of a space; a tag has none. -/
def entityType? (space : Space) (index : Nat) : Option EntityType :=
  match space with
  | .function => (d.functionType? index).map .function
  | .table => d.tableSpace[index]?.map .table
  | .memory => d.memorySpace[index]?.map .memory
  | .global => d.globalSpace[index]?.map .global
  | .tag => none

/-! ### Descriptors -/

/-- What an import asks for; a tag has no descriptor. -/
def importType? (i : ImportEntry) : Option ImportType :=
  match i.item with
  | .function t => (d.types[t]?).map fun t => ⟨i.module, i.name, .function t⟩
  | .table t => some ⟨i.module, i.name, .table t⟩
  | .memory t => some ⟨i.module, i.name, .memory t⟩
  | .global t => some ⟨i.module, i.name, .global t⟩
  | .tag _ => none

/-- What an export is. -/
def exportType? (e : ExportEntry) : Option ExportType :=
  (d.entityType? e.space e.index).map fun t => ⟨e.name, t⟩

end Definition

end Embedder
