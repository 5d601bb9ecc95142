import Embedder.Validation.Instructions

/-!
Checking a module.

* `Validation.context`: what the code of a module may refer to;
* `Validation.bodies?`: the nested code of the functions of a valid module.
-/

namespace Embedder.Validation

/-! ### Bounds -/

/-- The number of elements that a table may start with. -/
def maxElements : Nat := 10000000

/-- The number of parameters and locals of one function. -/
def maxLocals : Nat := 50000

/-- The number of parameters, and of results, of a function type. -/
def maxArity : Nat := 1000

/-! ### Types -/

def ordered (minimum : Nat) (maximum : Option Nat) : Bool :=
  maximum.all fun m => decide (minimum ≤ m)

def memoryType (t : MemoryType) : Bool :=
  !t.memory64 && decide (t.minimum ≤ maxPages) && (t.maximum.all fun m => decide (m ≤ maxPages)) &&
    ordered t.minimum t.maximum && (!t.shared || t.maximum.isSome)

def tableType (t : TableType) : Bool :=
  decide (t.minimum ≤ maxElements) && ordered t.minimum t.maximum

def functionType (t : FunctionType) : Bool :=
  decide (t.params.length ≤ maxArity) && decide (t.results.length ≤ maxArity)

variable (d : Definition)

def importItem : ImportItem → Bool
  | .function t => decide (t < d.types.length)
  | .table t => tableType t
  | .memory t => memoryType t
  | .global _ => true
  | .tag _ => false

/-! ### References to functions -/

/-- The functions that a constant expression refers to. -/
def functionsOf (is : List Instruction) : List Nat :=
  is.filterMap fun i => match i with
    | .op (.refFunc f) => some f
    | _ => none

def elementFunctions (e : ElementSegment) : List Nat :=
  match e.items with
  | .functions fs => fs
  | .expressions _ es => es.flatMap functionsOf

/-- The functions that the module names outside of code: only those may become references. -/
def declaredFunctions : List Nat :=
  d.globals.flatMap (fun g => functionsOf g.init) ++
    (d.exports.filter fun e => e.space == .function).map ExportEntry.index ++
    d.elements.flatMap elementFunctions

/-- What the code of the module may refer to; none if a function has no type. -/
def context : Option Context := do
  let functions ← d.functionSpace.mapM fun t => d.types[t]?
  some
    { types := d.types, functions, tables := d.tableSpace, memories := d.memorySpace
      globals := d.globalSpace, elements := d.elements.map fun e => e.items.type
      dataCount := d.dataCount, declared := declaredFunctions d, locals := #[], labels := []
      results := [] }

/-! ### Sections -/

variable (c : Context)

/-- A constant expression of the module. Constant expressions may name every function. -/
def constant (t : ValueType) (is : List Instruction) : Bool :=
  { c with declared := List.range c.functions.length }.constant d.importedGlobals.length t is

def elementItems : ElementItems → Bool
  | .functions fs => fs.all fun f => decide (f < c.functions.length)
  | .expressions t es => es.all (constant d c t)

def elementSegment (e : ElementSegment) : Bool :=
  elementItems d c e.items && match e.mode with
    | .active table offset =>
      ((c.tables[table.getD 0]?).any fun t => t.element == e.items.type) && constant d c .i32 offset
    | .passive | .declared => true

def dataSegment (s : DataSegment) : Bool :=
  match s.mode with
  | .active m offset => (c.memories[m]?).isSome && constant d c .i32 offset
  | .passive => true

def exportEntry (e : ExportEntry) : Bool :=
  match e.space with
  | .function => decide (e.index < c.functions.length)
  | .table => decide (e.index < c.tables.length)
  | .memory => decide (e.index < c.memories.length)
  | .global => decide (e.index < c.globals.length)
  | .tag => false

/-- The function that a module starts with takes and gives nothing. -/
def startFunction (f : Nat) : Bool :=
  (c.functions[f]?).any fun t => t.params.isEmpty && t.results.isEmpty

/-- Everything but the code of functions. -/
def sections : Bool :=
  d.types.all functionType && d.imports.all (fun i => importItem d i.item) &&
    d.tables.all tableType && d.memories.all memoryType && d.tags.isEmpty &&
    d.globals.all (fun g => constant d c g.type.value g.init) && d.exports.all (exportEntry c) &&
    decide (d.exports.map ExportEntry.name).Nodup && d.start.all (startFunction c) &&
    d.elements.all (elementSegment d c) && d.datas.all (dataSegment d c)

/-! ### Functions -/

def localCount (b : FunctionBody) : Nat := b.locals.foldl (fun n l => n + l.1) 0

/-- The nested code of a function that is valid. -/
def body? (type : Nat) (b : FunctionBody) : Option Code := do
  let t ← d.types[type]?
  let is ← Code.ofInstructions? b.code
  if t.params.length + localCount b ≤ maxLocals then
    if c.body t (t.params ++ b.localTypes).toArray is then some is else none
  else none

/-- The nested code of the functions of a valid module. -/
def bodies? : Option (List Code) := do
  let c ← context d
  if sections d c then (d.functions.zip d.bodies).mapM fun (t, b) => body? d c t b else none

end Embedder.Validation
