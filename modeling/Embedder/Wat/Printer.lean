import Embedder.Binary.Names
import Embedder.Code.Spelling
import Embedder.Value.Text
import Embedder.Wat.Token

/-!
Writing a module in the text format, one field a line, instructions flat and indented.

* `Wat.Printer.moduleText`: the text of a module;
* `Wat.disassemble`: the text of a binary, which need not be valid.

An entity is written with its number in a comment, and with its name if it has one. A float is
written in base two, its decimal digits in a comment.
-/

namespace Embedder.Wat.Printer

/-! ### Strings and numbers -/

def hexByte (b : UInt8) : List Char := [Nat.digitChar (b.toNat / 16), Nat.digitChar (b.toNat % 16)]

/-- A byte of a string: itself if it is printable, otherwise by its number. -/
def stringByte (b : UInt8) : List Char :=
  if 0x20 ≤ b ∧ b < 0x7F ∧ b ≠ 0x22 ∧ b ≠ 0x5C then [Char.ofNat b.toNat] else '\\' :: hexByte b

def quoteBytes (bytes : List UInt8) : String :=
  String.ofList ('"' :: bytes.flatMap stringByte ++ ['"'])

def quote (s : String) : String := quoteBytes s.toUTF8.toList

def hexOf (n : Nat) : String := String.ofList (Nat.toDigits 16 n)

/-- The fraction bits as hexadecimal digits without the zeros at their end. -/
def fractionDigits (bits fraction : Nat) : String :=
  let digits := (bits + 3) / 4
  let padded := Nat.toDigits 16 (16 ^ digits + fraction * 2 ^ (4 * digits - bits))
  String.ofList ((padded.drop 1).reverse.dropWhile (· == '0')).reverse

def signed (e : Int) : String := if 0 ≤ e then s!"+{e}" else toString e

/-- A magnitude that is finite and not zero, in base two with one bit in front of the point. The
point is left out only where it was left out of the pattern, which a subnormal is not. -/
def binaryDigits (f : FloatFormat) (magnitude : Nat) : String :=
  let (m, q) := f.significand magnitude
  let e := q + m.log2
  let fraction := (m - 2 ^ m.log2) * 2 ^ (f.fraction - m.log2)
  let digits :=
    if m.log2 = f.fraction ∧ fraction = 0 then "" else "." ++ fractionDigits f.fraction fraction
  s!"0x1{digits}p{signed e}"

/-- A pattern as the text format writes it. -/
def floatDigits (f : FloatFormat) (bits : Nat) : String :=
  let m := f.magnitude bits
  let sign := if f.isNegative bits then "-" else ""
  if f.isNan bits then
    let payload := m - f.infinity
    sign ++ if m = f.quietNan then "nan" else "nan:0x" ++ hexOf payload
  else if f.isInfinite bits then sign ++ "inf"
  else if m = 0 then sign ++ "0x0p+0"
  else sign ++ binaryDigits f m

def floatText (f : FloatFormat) (bits : Nat) (v : Value) : String :=
  s!"{floatDigits f bits} (;={v.text};)"

/-- Four bytes of a vector. -/
def laneText (n : Nat) : String :=
  let digits := Nat.toDigits 16 n
  "0x" ++ String.ofList (List.replicate (8 - digits.length) '0' ++ digits)

def vectorLanes (n : Nat) : List Nat :=
  [n % 2 ^ 32, n / 2 ^ 32 % 2 ^ 32, n / 2 ^ 64 % 2 ^ 32, n / 2 ^ 96 % 2 ^ 32]

def constantText (v : Value) : String :=
  match v with
  | .i32 _ | .i64 _ => v.text
  | .f32 bits => floatText .binary32 bits.toNat v
  | .f64 bits => floatText .binary64 bits.toNat v
  | .v128 bits => " ".intercalate ("i32x4" :: (vectorLanes bits.toNat).map laneText)

/-! ### Names -/

/-- A name as an identifier. One that is empty or that an entity before it has already is made
another one, and is shown beside it. -/
def identifier (group : String) (index : Nat) (taken : Bool) (s : String) : String :=
  if s.isEmpty || s.front == '#' || taken then
    let kept := s.toList.map fun c => if isWordChar c then c else '_'
    s!"$#{group}{index}<{String.ofList kept}> (@name {quote s})"
  else if s.toList.all isWordChar then "$" ++ s
  else "$" ++ quote s

/-- The identifiers of a group of names. -/
def identifiersFrom (group : String) (seen : List String) : List (Nat × String) → List (Nat × String)
  | [] => []
  | (i, s) :: rest =>
    (i, identifier group i (seen.contains s) s) :: identifiersFrom group (s :: seen) rest

def identifiers (group : String) (names : List (Nat × String)) : List (Nat × String) :=
  identifiersFrom group [] names

/-- The identifiers of a module. -/
structure Identifiers where
  functions : List (Nat × String)
  types : List (Nat × String)
  tables : List (Nat × String)
  memories : List (Nat × String)
  globals : List (Nat × String)
  elements : List (Nat × String)
  datas : List (Nat × String)
  tags : List (Nat × String)

def Identifiers.ofNames (n : Names) : Identifiers :=
  { functions := identifiers "func" n.functions
    types := identifiers "type" n.types
    tables := identifiers "table" n.tables
    memories := identifiers "memory" n.memories
    globals := identifiers "global" n.globals
    elements := identifiers "elem" n.elements
    datas := identifiers "data" n.datas
    tags := identifiers "tag" n.tags }

/-- A use of an entity: by name, or by number. -/
def use (names : List (Nat × String)) (i : Nat) : String := (names.lookup i).getD (toString i)

/-- The declaration of an entity: its name and its number. -/
def declared (names : List (Nat × String)) (i : Nat) : String :=
  match names.lookup i with
  | some s => s!"{s} (;{i};)"
  | none => s!"(;{i};)"

/-! ### Types -/

def group (parts : List String) : String :=
  "(" ++ " ".intercalate (parts.filter fun s => !s.isEmpty) ++ ")"

def typesText (ts : List ValueType) : String := " ".intercalate (ts.map ValueType.text)

/-- Values under one keyword: those with a name in brackets of their own, the others together. -/
def namedGroups (keyword : String) (pending : List ValueType) :
    List (ValueType × Option String) → List String
  | [] => if pending.isEmpty then [] else [group [keyword, typesText pending]]
  | (t, none) :: rest => namedGroups keyword (pending ++ [t]) rest
  | (t, some n) :: rest =>
    (if pending.isEmpty then [] else [group [keyword, typesText pending]]) ++
      group [keyword, n, t.text] :: namedGroups keyword [] rest

/-- The values from a number on with their names. -/
def withNames (names : List (Nat × String)) (first : Nat) (ts : List ValueType) :
    List (ValueType × Option String) :=
  (ts.zipIdx first).map fun (t, i) => (t, names.lookup i)

def signatureParts (names : List (Nat × String)) (t : FunctionType) : List String :=
  namedGroups "param" [] (withNames names 0 t.params) ++
    if t.results.isEmpty then [] else [group ["result", typesText t.results]]

def limitsText (minimum : Nat) (maximum : Option Nat) : String :=
  match maximum with
  | some m => s!"{minimum} {m}"
  | none => toString minimum

def memoryTypeText (t : MemoryType) : String :=
  " ".intercalate ((if t.memory64 then ["i64"] else []) ++ [limitsText t.minimum t.maximum] ++
    if t.shared then ["shared"] else [])

def tableTypeText (t : TableType) : String :=
  limitsText t.minimum t.maximum ++ " " ++ t.element.text

def globalTypeText (t : GlobalType) : String :=
  if t.mutable then group ["mut", t.value.text] else t.value.text

/-! ### Instructions -/

/-- What the text of an instruction depends on. -/
structure Setting where
  module : Definition
  names : Identifiers
  locals : List (Nat × String)

def typeRef (s : Setting) (i : Nat) : String := group ["type", use s.names.types i]

/-- A type by reference and spelled out. -/
def typeUse (s : Setting) (params : List (Nat × String)) (i : Nat) : List String :=
  typeRef s i :: match s.module.types[i]? with
    | some t => signatureParts params t
    | none => []

/-- An operand that is written only when it is not 0. -/
def unlessZero (names : List (Nat × String)) (i : Nat) : List String :=
  if i = 0 then [] else [use names i]

/-- A pair that is written only when one of it is not 0. -/
def unlessZeros (names : List (Nat × String)) (i j : Nat) : List String :=
  if i = 0 ∧ j = 0 then [] else [use names i, use names j]

def memArgParts (s : Setting) (naturalAlign : Nat) (a : MemArg) : List String :=
  unlessZero s.names.memories a.memory ++
    (if a.offset = 0 then [] else [s!"offset={a.offset}"]) ++
    if a.align = naturalAlign then [] else [s!"align={2 ^ a.align}"]

/-- The name of the block that is `i`-th of those open, the innermost first, unless a block inside
it has the same name. -/
def blockName? (blocks : List (Option String)) (i : Nat) : Option String :=
  match blocks[i]? with
  | some (some n) => if (blocks.take i).contains (some n) then none else some n
  | _ => none

/-- A branch to the block that is `i`-th of those open, the function itself being the last. -/
def labelText (blocks : List (Option String)) (i : Nat) : String :=
  if blocks.length < i then s!"{i} (; INVALID ;)"
  else if blocks.length = i then toString i
  else s!"{(blockName? blocks i).getD (toString i)} (;@{blocks.length - i};)"

def immediateParts (s : Setting) (shape : Extended.Shape) (i : Immediate) : List String :=
  let align := match shape with
    | .memory align | .memoryLane align _ => align
    | _ => 0
  match i with
  | .none => []
  | .memory arg => memArgParts s align arg
  | .lane n => [toString n]
  | .memoryLane arg n => memArgParts s align arg ++ [toString n]
  | .lanes ns => ns.map toString

/-- The operands of an instruction in the text. -/
def operands (s : Setting) (blocks : List (Option String)) : Op → List String
  | .br l | .brIf l => [labelText blocks l]
  | .brTable ls other => (ls ++ [other]).map (labelText blocks)
  | .call f | .returnCall f | .refFunc f => [use s.names.functions f]
  | .callIndirect table type | .returnCallIndirect table type =>
    unlessZero s.names.tables table ++ [typeRef s type]
  | .select (some ts) => [group ["result", typesText ts]]
  | .localGet i | .localSet i | .localTee i => [use s.locals i]
  | .globalGet i | .globalSet i => [use s.names.globals i]
  | .tableGet t | .tableSet t | .tableGrow t | .tableSize t | .tableFill t =>
    [use s.names.tables t]
  | .tableInit elem table => unlessZero s.names.tables table ++ [use s.names.elements elem]
  | .elemDrop elem => [use s.names.elements elem]
  | .tableCopy target source => unlessZeros s.names.tables target source
  | .load a arg | .store a arg => memArgParts s a.naturalAlign arg
  | .memorySize m | .memoryGrow m | .memoryFill m => unlessZero s.names.memories m
  | .memoryInit data memory => unlessZero s.names.memories memory ++ [use s.names.datas data]
  | .dataDrop data => [use s.names.datas data]
  | .memoryCopy target source => unlessZeros s.names.memories target source
  | .refNull .externref => ["extern"]
  | .refNull _ => ["func"]
  | .const v => [constantText v]
  | .extended _ row i => immediateParts s row.shape i
  | .unreachable | .nop | .drop | .ret | .select none | .refIsNull | .numeric _ => []

def opText (s : Setting) (blocks : List (Option String)) (o : Op) : String :=
  " ".intercalate (o.name :: operands s blocks o)

/-- The opening of a block; one without a name says its depth. -/
def blockText (s : Setting) (keyword : String) (name : Option String) (depth : Nat)
    (t : BlockType) : String :=
  let type := match t with
    | .empty => []
    | .value t => [group ["result", t.text]]
    | .index n => typeUse s [] n
  let label := if name.isSome then [] else [s!";; label = @{depth}"]
  " ".intercalate (keyword :: (name.toList ++ type ++ label))

def indent (depth : Nat) (s : String) : String :=
  String.ofList (List.replicate (2 * depth) ' ') ++ s

/-- The state between two lines of a body: the names of the open blocks, the innermost first, the
number of blocks that were opened, and the lines. -/
structure Progress where
  blocks : List (Option String)
  opened : Nat
  lines : Array String

def Progress.open (p : Progress) (s : Setting) (labels : List (Nat × String)) (depth : Nat)
    (keyword : String) (t : BlockType) : Progress :=
  let name := labels.lookup p.opened
  let line := blockText s keyword name (p.blocks.length + 1) t
  { blocks := name :: p.blocks, opened := p.opened + 1,
    lines := p.lines.push (indent (depth + p.blocks.length) line) }

/-- Writes one instruction of a body whose own lines stand `depth` deep. -/
def Progress.line (s : Setting) (labels : List (Nat × String)) (depth : Nat) (p : Progress) :
    Instruction → Progress
  | .op o =>
    { p with lines := p.lines.push (indent (depth + p.blocks.length) (opText s p.blocks o)) }
  | .block t => p.open s labels depth "block" t
  | .loop t => p.open s labels depth "loop" t
  | .ifThen t => p.open s labels depth "if" t
  | .otherwise =>
    { p with lines := p.lines.push (indent (depth + p.blocks.length - 1) "else") }
  | .ends =>
    { p with blocks := p.blocks.tail,
             lines := p.lines.push (indent (depth + p.blocks.length - 1) "end") }

def bodyLines (s : Setting) (labels : List (Nat × String)) (depth : Nat) (is : List Instruction) :
    List String :=
  (is.foldl (Progress.line s labels depth) ⟨[], 0, #[]⟩).lines.toList

/-- A constant expression on one line. -/
def inline (s : Setting) (is : List Instruction) : String :=
  " ".intercalate ((bodyLines s [] 0 is).map fun l => l.trimAscii.toString)

/-- A constant expression in brackets, behind a keyword if it is more than one instruction. -/
def sugared (s : Setting) (keyword : String) (is : List Instruction) : String :=
  match is with
  | [_] => group [inline s is]
  | _ => group [keyword, inline s is]

/-! ### Fields -/

def importLine (s : Setting) (counts : Space → Nat) (i : ImportEntry) : String :=
  let item := match i.item with
    | .function t =>
      group ["func", declared s.names.functions (counts .function), typeRef s t]
    | .table t => group ["table", declared s.names.tables (counts .table), tableTypeText t]
    | .memory t => group ["memory", declared s.names.memories (counts .memory), memoryTypeText t]
    | .global t => group ["global", declared s.names.globals (counts .global), globalTypeText t]
    | .tag t => group (["tag", declared s.names.tags (counts .tag)] ++ typeUse s [] t)
  group ["import", quote i.module, quote i.name, item]

def importLinesFrom (s : Setting) (before : List Space) : List ImportEntry → List String
  | [] => []
  | i :: rest =>
    importLine s (fun space => before.count space) i ::
      importLinesFrom s (i.item.space :: before) rest

def spaceText : Space → String
  | .function => "func"
  | .table => "table"
  | .memory => "memory"
  | .global => "global"
  | .tag => "tag"

def spaceNames (n : Identifiers) : Space → List (Nat × String)
  | .function => n.functions
  | .table => n.tables
  | .memory => n.memories
  | .global => n.globals
  | .tag => n.tags

def exportLine (s : Setting) (e : ExportEntry) : String :=
  group ["export", quote e.name, group [spaceText e.space, use (spaceNames s.names e.space) e.index]]

def elementLine (s : Setting) (i : Nat) (e : ElementSegment) : String :=
  let place := match e.mode with
    | .active none offset => [sugared s "offset" offset]
    | .active (some t) offset =>
      [group ["table", use s.names.tables t], sugared s "offset" offset]
    | .passive => []
    | .declared => ["declare"]
  let items := match e.items with
    | .functions fs => "func" :: fs.map (use s.names.functions)
    | .expressions t es => t.text :: es.map (sugared s "item")
  group (["elem", declared s.names.elements i] ++ place ++ items)

def dataLine (s : Setting) (i : Nat) (d : DataSegment) : String :=
  let place := match d.mode with
    | .active 0 offset => [sugared s "offset" offset]
    | .active m offset => [group ["memory", use s.names.memories m], sugared s "offset" offset]
    | .passive => []
  group (["data", declared s.names.datas i] ++ place ++ [quoteBytes d.bytes])

/-- The lines of a function; one without locals and instructions stands on one line. -/
def functionLines (s : Setting) (n : Names) (i type : Nat) (b : FunctionBody) : List String :=
  let locals := identifiers "local" ((n.locals.lookup i).getD [])
  let labels := ((n.labels.lookup i).getD []).map fun (j, l) => (j, identifier "label" j false l)
  let s := { s with locals }
  let count := (s.module.types[type]?).elim 0 fun t => t.params.length
  let front := ["func", declared s.names.functions i] ++ typeUse s locals type
  let own := namedGroups "local" [] (withNames locals count b.localTypes)
  let lines := (if own.isEmpty then [] else [indent 2 (" ".intercalate own)]) ++
    bodyLines s labels 2 b.code
  if lines.isEmpty then [indent 1 (group front)]
  else indent 1 ("(" ++ " ".intercalate front) :: lines ++ [indent 1 ")"]

/-- The lines of entities, each made from its number. -/
def numbered {α : Type} (start : Nat) (as : List α) (line : Nat → α → String) : List String :=
  (as.zipIdx start).map fun (a, i) => indent 1 (line i a)

def sectionLines (s : Setting) (n : Names) (kind : SectionKind) : List String :=
  let d := s.module
  match kind with
  | .types => numbered 0 d.types fun i t =>
      group ["type", declared s.names.types i, group ("func" :: signatureParts [] t)]
  | .imports => (importLinesFrom s [] d.imports).map (indent 1)
  | .functions | .dataCount => []
  | .tables => numbered d.importedTables.length d.tables fun i t =>
      group ["table", declared s.names.tables i, tableTypeText t]
  | .memories => numbered d.importedMemories.length d.memories fun i t =>
      group ["memory", declared s.names.memories i, memoryTypeText t]
  | .tags =>
    let imported := d.imports.countP fun i => i.item.space == .tag
    numbered imported d.tags fun i t =>
      group (["tag", declared s.names.tags i] ++ typeUse s [] t)
  | .globals => numbered d.importedGlobals.length d.globals fun i g =>
      group ["global", declared s.names.globals i, globalTypeText g.type, inline s g.init]
  | .exports => numbered 0 d.exports fun _ e => exportLine s e
  | .start => d.start.toList.map fun f => indent 1 (group ["start", use s.names.functions f])
  | .elements => numbered 0 d.elements (elementLine s)
  | .code =>
    ((d.functions.zip d.bodies).zipIdx d.importedFunctions.length).flatMap fun ((t, b), i) =>
      functionLines s n i t b
  | .datas => numbered 0 d.datas (dataLine s)

def sectionKindText : SectionKind → String
  | .types => "type"
  | .imports => "import"
  | .functions => "func"
  | .tables => "table"
  | .memories => "memory"
  | .tags => "tag"
  | .globals => "global"
  | .exports => "export"
  | .start => "start"
  | .elements | .dataCount => "elem"
  | .code => "code"
  | .datas => "data"

def placeText : Option SectionKind → String
  | none => "(before first)"
  | some k => s!"(after {sectionKindText k})"

/-- The custom sections behind a section; names have been written where they belong. -/
def customLines (d : Definition) (after : Option SectionKind) : List String :=
  (d.customs.filter fun c => decide (c.after = after) && c.name != "name").map fun c =>
    indent 1 (group ["@custom", quote c.name, placeText c.after, quoteBytes c.bytes])

/-- The text of a module; one without fields stands on one line. -/
def moduleText (d : Definition) (n : Names) : String :=
  let s : Setting := ⟨d, .ofNames n, []⟩
  let front := "module" :: (n.module.map fun m => identifier "module" 0 false m).toList
  let lines := customLines d none ++
    SectionKind.all.flatMap fun k => sectionLines s n k ++ customLines d (some k)
  if lines.isEmpty then group front ++ "\n"
  else "\n".intercalate (("(" ++ " ".intercalate front) :: lines ++ [")"]) ++ "\n"

end Printer

/-- The text of a binary, which need not be valid. -/
def disassemble (bytes : List UInt8) : Except Binary.Fault String := do
  let d ← Binary.decode bytes
  return Printer.moduleText d (Binary.names d.customs)

end Embedder.Wat
