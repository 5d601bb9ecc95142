import Embedder.Definition
import Embedder.Execution.Machine

/-!
The state with which an instance starts.

* `Supplied`: what the host gives for the imports;
* `Guest.allocate`: the instance's memories, tables and globals;
* `Guest.populate`: the active segments, elements first.
-/

namespace Embedder.Execution

/-- What the host gives for the imports of each kind, in the order of their numbers. Functions
stay with the host. -/
structure Supplied where
  memories : List Memory
  tables : List Table
  globals : List Cell

/-! ### Constant expressions -/

/-- An instruction of a constant expression. -/
def constantStep (globals : Array Cell) (stack : List Cell) : Instruction → Option (List Cell)
  | .op (.globalGet i) => (globals[i]?).map fun c => c :: stack
  | .op o => (Machine.onStack o stack).toOption
  | _ => none

/-- The value of a constant expression. -/
def constant? (globals : Array Cell) (is : List Instruction) : Option Cell :=
  match is.foldlM (constantStep globals) [] with
  | some (c :: _) => some c
  | _ => none

/-- The address that a constant expression denotes. -/
def offset? (globals : Array Cell) (is : List Instruction) : Option Nat :=
  match constant? globals is with
  | some (.value (.i32 n)) => some n.toNat
  | _ => none

/-- The references in a segment. -/
def segmentCells (globals : Array Cell) : ElementItems → List Cell
  | .functions fs => fs.map .funcref
  | .expressions t es => es.map fun e => (constant? globals e).getD (.zero t)

namespace Guest

/-! ### Allocation -/

/-- The elements that a segment keeps for later: only a passive one does. -/
def keptElements (globals : Array Cell) (e : ElementSegment) : List Cell :=
  match e.mode with
  | .passive => segmentCells globals e.items
  | .active _ _ | .declared => []

def keptData (s : DataSegment) : List UInt8 :=
  match s.mode with
  | .passive => s.bytes
  | .active _ _ => []

/-- Adds the globals that the module defines; each sees the ones before it. -/
def addGlobals (globals : Array Cell) (gs : List GlobalEntry) : Array Cell :=
  gs.foldl (fun cells g => cells.push ((constant? cells g.init).getD (.zero g.type.value))) globals

/-- The state before any segment is copied. -/
def allocate (d : Definition) (s : Supplied) : Guest :=
  let globals := addGlobals s.globals.toArray d.globals
  { memories := (s.memories ++ d.memories.map Memory.ofType).toArray
    tables := (s.tables ++ d.tables.map Table.ofType).toArray
    globals
    elements := (d.elements.map (keptElements globals)).toArray
    datas := (d.datas.map keptData).toArray }

/-! ### Active segments -/

/-- Copies an active segment of elements into its table. -/
def placeElements (g : Guest) (e : ElementSegment) : Except Trap Guest :=
  match e.mode with
  | .active table offset =>
    let cells := segmentCells g.globals e.items
    let start := (offset? g.globals offset).getD 0
    let table := table.getD 0
    if Machine.inTable g table start cells.length then
      .ok (Machine.changeTable g table fun t => t.write start cells)
    else .error .tableOutOfBounds
  | .passive | .declared => .ok g

/-- Copies an active data segment into its memory. -/
def placeData (g : Guest) (s : DataSegment) : Except Trap Guest :=
  match s.mode with
  | .active memory offset =>
    let start := (offset? g.globals offset).getD 0
    if Machine.inMemory g memory start s.bytes.length then
      .ok (Machine.changeMemory g memory fun m => m.write start s.bytes)
    else .error .memoryOutOfBounds
  | .passive => .ok g

/-- The state before the start function runs, or the trap of a segment that does not fit. -/
def populate (d : Definition) (s : Supplied) : Except Trap Guest := do
  let g ← d.elements.foldlM placeElements (allocate d s)
  d.datas.foldlM placeData g

end Guest

end Embedder.Execution
