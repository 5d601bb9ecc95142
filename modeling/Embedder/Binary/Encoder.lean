import Embedder.Binary.Names

/-!
Writing a module as bytes: every integer in as few groups as it needs, every section that holds
anything, and the names behind all else.

* `Binary.unsignedBytes`, `Binary.signedBytes`: integers in groups of seven bits;
* `Binary.Entries`: what the sections hold, each entry as bytes;
* `Binary.file`: entries, custom sections and names as a file;
* `Binary.encode`: a module and its names as a file.
-/

namespace Embedder.Binary

/-! ### Integers and vectors -/

/-- A natural number in as few groups as it needs. -/
def unsignedBytes (n : Nat) : List UInt8 :=
  if h : n < 128 then [UInt8.ofNat n]
  else UInt8.ofNat (n % 128 + 128) :: unsignedBytes (n / 128)
termination_by n
decreasing_by omega

/-- An integer in as few groups as it needs; the highest bit of the last group is the sign. -/
def signedBytes (n : Int) : List UInt8 :=
  if h : -64 ≤ n ∧ n < 64 then [UInt8.ofNat (n % 128).toNat]
  else UInt8.ofNat (n % 128 + 128).toNat :: signedBytes (n / 128)
termination_by n.natAbs
decreasing_by omega

def vectorBytes {α : Type} (write : α → List UInt8) (as : List α) : List UInt8 :=
  unsignedBytes as.length ++ as.flatMap write

/-- Bytes behind their number. -/
def sizedBytes (bytes : List UInt8) : List UInt8 := unsignedBytes bytes.length ++ bytes

def nameBytes (s : String) : List UInt8 := sizedBytes s.toUTF8.toList

/-! ### Types -/

def valueTypeByte : ValueType → UInt8
  | .i32 => 0x7F
  | .i64 => 0x7E
  | .f32 => 0x7D
  | .f64 => 0x7C
  | .v128 => 0x7B
  | .funcref => 0x70
  | .externref => 0x6F

def functionTypeBytes (t : FunctionType) : List UInt8 :=
  0x60 :: (vectorBytes (fun v => [valueTypeByte v]) t.params ++
    vectorBytes (fun v => [valueTypeByte v]) t.results)

/-- Limits behind a byte that says how they are meant; its lowest bit says that there is a maximum. -/
def limitsBytes (flags : UInt8) (minimum : Nat) (maximum : Option Nat) : List UInt8 :=
  match maximum with
  | none => flags :: unsignedBytes minimum
  | some m => (flags ||| 1) :: (unsignedBytes minimum ++ unsignedBytes m)

/-- The byte of limits without a maximum. -/
def limitsFlags (shared wide : Bool) : UInt8 := (if shared then 2 else 0) ||| (if wide then 4 else 0)

def memoryTypeBytes (t : MemoryType) : List UInt8 :=
  limitsBytes (limitsFlags t.shared t.memory64) t.minimum t.maximum

def tableTypeBytes (t : TableType) : List UInt8 :=
  valueTypeByte t.element :: limitsBytes 0 t.minimum t.maximum

def globalTypeBytes (t : GlobalType) : List UInt8 :=
  [valueTypeByte t.value, if t.mutable then 1 else 0]

/-! ### Instructions -/

def memArgBytes (a : MemArg) : List UInt8 :=
  if a.memory = 0 then unsignedBytes a.align ++ unsignedBytes a.offset
  else unsignedBytes (a.align + 64) ++ unsignedBytes a.memory ++ unsignedBytes a.offset

def blockTypeBytes : BlockType → List UInt8
  | .empty => [0x40]
  | .value t => [valueTypeByte t]
  | .index n => signedBytes n

def constantBytes : Value → List UInt8
  | .i32 bits => 0x41 :: signedBytes bits.toInt32.toInt
  | .i64 bits => 0x42 :: signedBytes bits.toInt64.toInt
  | .f32 bits => 0x43 :: littleEndianBytes 4 bits.toNat
  | .f64 bits => 0x44 :: littleEndianBytes 8 bits.toNat
  | .v128 bits => 0xFD :: 0x0C :: littleEndianBytes 16 bits.toNat

def immediateBytes (shape : Extended.Shape) : Immediate → List UInt8
  | .none => if shape = .fence then [0] else []
  | .memory arg => memArgBytes arg
  | .lane n => [UInt8.ofNat n]
  | .memoryLane arg n => memArgBytes arg ++ [UInt8.ofNat n]
  | .lanes ns => ns.map UInt8.ofNat

/-- The opcode of an instruction that the tables of consecutive opcodes hold. -/
def opcodeFrom {α : Type} [DecidableEq α] (first : Nat) (table : List α) (a : α) : UInt8 :=
  UInt8.ofNat (first + table.idxOf a)

def numericBytes (n : Numeric) : List UInt8 :=
  if n ∈ Numeric.table then [opcodeFrom 0x45 Numeric.table n]
  else [0xFC, opcodeFrom 0 Numeric.saturating n]

/-- An instruction behind the opcode `0xFC` with its operands. -/
def prefixedBytes (number : UInt8) (operands : List Nat) : List UInt8 :=
  0xFC :: number :: operands.flatMap unsignedBytes

def opBytes : Op → List UInt8
  | .unreachable => [0x00]
  | .nop => [0x01]
  | .br l => 0x0C :: unsignedBytes l
  | .brIf l => 0x0D :: unsignedBytes l
  | .brTable ls other => 0x0E :: (vectorBytes unsignedBytes ls ++ unsignedBytes other)
  | .ret => [0x0F]
  | .call f => 0x10 :: unsignedBytes f
  | .callIndirect table type => 0x11 :: (unsignedBytes type ++ unsignedBytes table)
  | .returnCall f => 0x12 :: unsignedBytes f
  | .returnCallIndirect table type => 0x13 :: (unsignedBytes type ++ unsignedBytes table)
  | .drop => [0x1A]
  | .select none => [0x1B]
  | .select (some ts) => 0x1C :: vectorBytes (fun t => [valueTypeByte t]) ts
  | .localGet i => 0x20 :: unsignedBytes i
  | .localSet i => 0x21 :: unsignedBytes i
  | .localTee i => 0x22 :: unsignedBytes i
  | .globalGet i => 0x23 :: unsignedBytes i
  | .globalSet i => 0x24 :: unsignedBytes i
  | .tableGet t => 0x25 :: unsignedBytes t
  | .tableSet t => 0x26 :: unsignedBytes t
  | .load a arg => opcodeFrom 0x28 Access.loads a :: memArgBytes arg
  | .store a arg => opcodeFrom 0x36 Access.stores a :: memArgBytes arg
  | .memorySize m => 0x3F :: unsignedBytes m
  | .memoryGrow m => 0x40 :: unsignedBytes m
  | .const v => constantBytes v
  | .numeric n => numericBytes n
  | .refNull t => [0xD0, valueTypeByte t]
  | .refIsNull => [0xD1]
  | .refFunc f => 0xD2 :: unsignedBytes f
  | .memoryInit data memory => prefixedBytes 8 [data, memory]
  | .dataDrop data => prefixedBytes 9 [data]
  | .memoryCopy target source => prefixedBytes 10 [target, source]
  | .memoryFill m => prefixedBytes 11 [m]
  | .tableInit elem table => prefixedBytes 12 [elem, table]
  | .elemDrop elem => prefixedBytes 13 [elem]
  | .tableCopy target source => prefixedBytes 14 [target, source]
  | .tableGrow t => prefixedBytes 15 [t]
  | .tableSize t => prefixedBytes 16 [t]
  | .tableFill t => prefixedBytes 17 [t]
  | .extended family row i =>
    UInt8.ofNat family.opcode :: (unsignedBytes row.number ++ immediateBytes row.shape i)

def instructionBytes : Instruction → List UInt8
  | .op o => opBytes o
  | .block t => 0x02 :: blockTypeBytes t
  | .loop t => 0x03 :: blockTypeBytes t
  | .ifThen t => 0x04 :: blockTypeBytes t
  | .otherwise => [0x05]
  | .ends => [0x0B]

/-- Instructions and the `end` that closes them. -/
def expressionBytes (is : List Instruction) : List UInt8 :=
  is.flatMap instructionBytes ++ [0x0B]

/-! ### Entries of the sections -/

def spaceByte : Space → UInt8
  | .function => 0
  | .table => 1
  | .memory => 2
  | .global => 3
  | .tag => 4

/-- A tag is an exception, which is kind 0, with a function type. -/
def tagBytes (type : Nat) : List UInt8 := 0 :: unsignedBytes type

def importItemBytes : ImportItem → List UInt8
  | .function t => 0 :: unsignedBytes t
  | .table t => 1 :: tableTypeBytes t
  | .memory t => 2 :: memoryTypeBytes t
  | .global t => 3 :: globalTypeBytes t
  | .tag t => 4 :: tagBytes t

/-- An import: where it is found, and what is asked for there. -/
def importBytes (module name : String) (item : List UInt8) : List UInt8 :=
  nameBytes module ++ nameBytes name ++ item

def globalBytes (g : GlobalEntry) : List UInt8 := globalTypeBytes g.type ++ expressionBytes g.init

def exportBytes (e : ExportEntry) : List UInt8 :=
  nameBytes e.name ++ spaceByte e.space :: unsignedBytes e.index

/-- Where the contents of a segment go: to an entity, from an offset on that is written out. -/
inductive SegmentMode where
  | active (entity : Option Nat) (offset : List UInt8)
  | passive
  | declared

/-- A segment of elements. Its first number says whether they are expressions, `bit`, and what else
there is; a segment for table 0 says nothing of their type. -/
def elementSegmentBytes (bit : UInt8) (type items : List UInt8) : SegmentMode → List UInt8
  | .active none offset => bit :: (offset ++ items)
  | .active (some table) offset => (bit ||| 2) :: (unsignedBytes table ++ offset ++ type ++ items)
  | .passive => (bit ||| 1) :: (type ++ items)
  | .declared => (bit ||| 3) :: (type ++ items)

/-- The byte that says that a segment lists functions. -/
def functionKindByte : UInt8 := 0

def elementItemsBytes : ElementItems → List UInt8
  | .functions is => vectorBytes unsignedBytes is
  | .expressions _ es => vectorBytes expressionBytes es

def elementTypeByte : ElementItems → UInt8
  | .functions _ => functionKindByte
  | .expressions t _ => valueTypeByte t

/-- The bit that says that the elements are expressions. -/
def expressionBit : ElementItems → UInt8
  | .functions _ => 0
  | .expressions _ _ => 4

def elementMode : ElementMode → SegmentMode
  | .active table offset => .active table (expressionBytes offset)
  | .passive => .passive
  | .declared => .declared

def elementBytes (e : ElementSegment) : List UInt8 :=
  elementSegmentBytes (expressionBit e.items) [elementTypeByte e.items] (elementItemsBytes e.items)
    (elementMode e.mode)

/-- A segment of data; one for memory 0 does not name it. -/
def dataSegmentBytes (bytes : List UInt8) : SegmentMode → List UInt8
  | .active (some (n + 1)) offset => 2 :: (unsignedBytes (n + 1) ++ offset ++ sizedBytes bytes)
  | .active _ offset => 0 :: (offset ++ sizedBytes bytes)
  | .passive | .declared => 1 :: sizedBytes bytes

def dataMode : DataMode → SegmentMode
  | .active memory offset => .active (some memory) (expressionBytes offset)
  | .passive => .passive

def dataBytes (s : DataSegment) : List UInt8 := dataSegmentBytes s.bytes (dataMode s.mode)

/-- A function: its locals in runs of one type, each type as bytes, and its code. -/
def functionBytes (locals : List (Nat × List UInt8)) (code : List UInt8) : List UInt8 :=
  vectorBytes (fun l => unsignedBytes l.1 ++ l.2) locals ++ code

def bodyBytes (b : FunctionBody) : List UInt8 :=
  sizedBytes
    (functionBytes (b.locals.map fun l => (l.1, [valueTypeByte l.2])) (expressionBytes b.code))

/-! ### Sections -/

def sectionNumber : SectionKind → UInt8
  | .types => 1
  | .imports => 2
  | .functions => 3
  | .tables => 4
  | .memories => 5
  | .tags => 13
  | .globals => 6
  | .exports => 7
  | .start => 8
  | .elements => 9
  | .dataCount => 12
  | .code => 10
  | .datas => 11

/-- What the sections of a module hold, each entry as bytes. -/
structure Entries where
  types : List (List UInt8)
  imports : List (List UInt8)
  functions : List (List UInt8)
  tables : List (List UInt8)
  memories : List (List UInt8)
  tags : List (List UInt8)
  globals : List (List UInt8)
  exports : List (List UInt8)
  start : Option Nat
  elements : List (List UInt8)
  dataCount : Option Nat
  bodies : List (List UInt8)
  datas : List (List UInt8)

def Entries.empty : Entries :=
  { types := [], imports := [], functions := [], tables := [], memories := [], tags := [],
    globals := [], exports := [], start := none, elements := [], dataCount := none, bodies := [],
    datas := [] }

def Entries.ofDefinition (d : Definition) : Entries :=
  { types := d.types.map functionTypeBytes
    imports := d.imports.map fun i => importBytes i.module i.name (importItemBytes i.item)
    functions := d.functions.map unsignedBytes
    tables := d.tables.map tableTypeBytes
    memories := d.memories.map memoryTypeBytes
    tags := d.tags.map tagBytes
    globals := d.globals.map globalBytes
    exports := d.exports.map exportBytes
    start := d.start
    elements := d.elements.map elementBytes
    dataCount := d.dataCount
    bodies := d.bodies.map bodyBytes
    datas := d.datas.map dataBytes }

/-- A section of entries; without entries there is none. -/
def entriesBytes (kind : SectionKind) (entries : List (List UInt8)) : List UInt8 :=
  if entries.isEmpty then [] else sectionNumber kind :: sizedBytes (vectorBytes id entries)

/-- A section of one number, if there is a number. -/
def numberBytes (kind : SectionKind) (n : Option Nat) : List UInt8 :=
  match n with
  | none => []
  | some n => sectionNumber kind :: sizedBytes (unsignedBytes n)

def sectionBytes (e : Entries) (kind : SectionKind) : List UInt8 :=
  match kind with
  | .types => entriesBytes kind e.types
  | .imports => entriesBytes kind e.imports
  | .functions => entriesBytes kind e.functions
  | .tables => entriesBytes kind e.tables
  | .memories => entriesBytes kind e.memories
  | .tags => entriesBytes kind e.tags
  | .globals => entriesBytes kind e.globals
  | .exports => entriesBytes kind e.exports
  | .start => numberBytes kind e.start
  | .elements => entriesBytes kind e.elements
  | .dataCount => numberBytes kind e.dataCount
  | .code => entriesBytes kind e.bodies
  | .datas => entriesBytes kind e.datas

def customBytes (c : CustomSection) : List UInt8 := 0 :: sizedBytes (nameBytes c.name ++ c.bytes)

/-- The custom sections that stand behind a section, or in front of all of them. -/
def customsAfter (customs : List CustomSection) (after : Option SectionKind) : List UInt8 :=
  (customs.filter fun c => decide (c.after = after)).flatMap customBytes

/-! ### Names -/

def nameMapBytes (m : List (Nat × String)) : List UInt8 :=
  vectorBytes (fun n => unsignedBytes n.1 ++ nameBytes n.2) m

def indirectNameMapBytes (m : List (Nat × List (Nat × String))) : List UInt8 :=
  vectorBytes (fun n => unsignedBytes n.1 ++ nameMapBytes n.2) m

/-- A part of the names; a map without names is left out. -/
def namePartBytes {α : Type} (number : UInt8) (write : List α → List UInt8) (as : List α) :
    List UInt8 :=
  if as.isEmpty then [] else number :: sizedBytes (write as)

def namesBytes (n : Names) : List UInt8 :=
  namePartBytes 0 (fun m => m.flatMap nameBytes) n.module.toList ++
    namePartBytes 1 nameMapBytes n.functions ++ namePartBytes 2 indirectNameMapBytes n.locals ++
    namePartBytes 3 indirectNameMapBytes n.labels ++ namePartBytes 4 nameMapBytes n.types ++
    namePartBytes 5 nameMapBytes n.tables ++ namePartBytes 6 nameMapBytes n.memories ++
    namePartBytes 7 nameMapBytes n.globals ++ namePartBytes 8 nameMapBytes n.elements ++
    namePartBytes 9 nameMapBytes n.datas ++ namePartBytes 10 indirectNameMapBytes n.fields ++
    namePartBytes 11 nameMapBytes n.tags

/-- The section that holds the names, if there are any. -/
def nameSection (n : Names) : List UInt8 :=
  if n = .empty then [] else customBytes ⟨"name", namesBytes n, some .datas⟩

/-! ### Modules -/

/-- A file: the header, the sections with the custom ones between them, and the names. -/
def file (e : Entries) (customs : List CustomSection) (n : Names) : List UInt8 :=
  header ++ customsAfter customs none ++
    SectionKind.all.flatMap (fun k => sectionBytes e k ++ customsAfter customs (some k)) ++
    nameSection n

/-- A module and its names as a file. -/
def encode (d : Definition) (n : Names) : List UInt8 := file (.ofDefinition d) d.customs n

end Embedder.Binary
