import Embedder.Binary.Instructions

/-!
The binary form of a module: a header and sections.

* `Binary.decode`: the module that bytes describe;
* `Binary.sections`: the sections alone, as they stand in the file;
* `Binary.customSections`: the custom sections alone.

Sections other than custom ones come in a fixed order and once at most.
-/

namespace Embedder.Binary

/-! ### Entries of the sections -/

def importItem : Decoder ImportItem := do
  match ← byte with
  | 0 => pure (.function (← u32))
  | 1 => pure (.table (← tableType))
  | 2 => pure (.memory (← memoryType))
  | 3 => pure (.global (← globalType))
  | 4 =>
    match ← byte with
    | 0 => pure (.tag (← u32))
    | _ => fail .unknownKind
  | _ => fail .unknownKind

def importEntry : Decoder ImportEntry := do
  let module ← name
  let field ← name
  let item ← importItem
  pure ⟨module, field, item⟩

def globalEntry : Decoder GlobalEntry := do
  let type ← globalType
  let init ← expression
  pure ⟨type, init⟩

def space : Decoder Space := do
  match ← byte with
  | 0 => pure .function
  | 1 => pure .table
  | 2 => pure .memory
  | 3 => pure .global
  | 4 => pure .tag
  | _ => fail .unknownKind

def exportEntry : Decoder ExportEntry := do
  let field ← name
  let s ← space
  let index ← u32
  pure ⟨field, s, index⟩

def tagEntry : Decoder Nat := do
  match ← byte with
  | 0 => u32
  | _ => fail .unknownKind

/-- The byte that stands for functions where a segment lists them by number. -/
def elementKind : Decoder Unit := do
  match ← byte with
  | 0 => pure ()
  | _ => fail .unknownKind

def elementExpressions : Decoder ElementItems := do
  let type ← referenceType
  let items ← vector expression
  pure (.expressions type items)

def elementFunctions : Decoder ElementItems := do
  elementKind
  pure (.functions (← vector u32))

/-- Bit 0 of the first number: not active; bit 1: a table is given, or declared; bit 2: the
elements are expressions. -/
def elementSegment : Decoder ElementSegment := do
  match ← u32 with
  | 0 =>
    let offset ← expression
    pure ⟨.active none offset, .functions (← vector u32)⟩
  | 1 => pure ⟨.passive, ← elementFunctions⟩
  | 2 =>
    let table ← u32
    let offset ← expression
    pure ⟨.active (some table) offset, ← elementFunctions⟩
  | 3 => pure ⟨.declared, ← elementFunctions⟩
  | 4 =>
    let offset ← expression
    pure ⟨.active none offset, .expressions .funcref (← vector expression)⟩
  | 5 => pure ⟨.passive, ← elementExpressions⟩
  | 6 =>
    let table ← u32
    let offset ← expression
    pure ⟨.active (some table) offset, ← elementExpressions⟩
  | 7 => pure ⟨.declared, ← elementExpressions⟩
  | _ => fail .unknownKind

def dataSegment : Decoder DataSegment := do
  match ← u32 with
  | 0 =>
    let offset ← expression
    pure ⟨.active 0 offset, ← byteVector⟩
  | 1 => pure ⟨.passive, ← byteVector⟩
  | 2 =>
    let memory ← u32
    let offset ← expression
    pure ⟨.active memory offset, ← byteVector⟩
  | _ => fail .unknownKind

def localRun : Decoder (Nat × ValueType) := do
  let n ← u32
  let t ← valueType
  pure (n, t)

def functionBody : Decoder FunctionBody := sized do
  let locals ← vector localRun
  let code ← expression
  pure ⟨locals, code⟩

/-! ### Sections -/

/-- A section by its number; every other number is unknown. -/
def sectionKind? (number : UInt8) : Option SectionKind :=
  match number with
  | 1 => some .types
  | 2 => some .imports
  | 3 => some .functions
  | 4 => some .tables
  | 5 => some .memories
  | 6 => some .globals
  | 7 => some .exports
  | 8 => some .start
  | 9 => some .elements
  | 10 => some .code
  | 11 => some .datas
  | 12 => some .dataCount
  | 13 => some .tags
  | _ => none

/-- Reads the contents of a section into a module. -/
def readSection (kind : SectionKind) (d : Definition) : Decoder Definition := do
  match kind with
  | .types => pure { d with types := ← vector functionType }
  | .imports => pure { d with imports := ← vector importEntry }
  | .functions => pure { d with functions := ← vector u32 }
  | .tables => pure { d with tables := ← vector tableType }
  | .memories => pure { d with memories := ← vector memoryType }
  | .tags => pure { d with tags := ← vector tagEntry }
  | .globals => pure { d with globals := ← vector globalEntry }
  | .exports => pure { d with exports := ← vector exportEntry }
  | .start => pure { d with start := some (← u32) }
  | .elements => pure { d with elements := ← vector elementSegment }
  | .dataCount => pure { d with dataCount := some (← u32) }
  | .code => pure { d with bodies := ← vector functionBody }
  | .datas => pure { d with datas := ← vector dataSegment }

/-- A section as it stands in the file: its number and its contents. -/
structure RawSection where
  number : UInt8
  contents : List UInt8
  deriving DecidableEq

def rawSection : Decoder RawSection := do
  let number ← byte
  let contents ← byteVector
  pure ⟨number, contents⟩

/-- All sections. Each takes a byte at least, so the number of bytes bounds the number of rounds. -/
def rawSections : (rounds : Nat) → Decoder (List RawSection)
  | 0 => pure []
  | rounds + 1 => do
    if ← atEnd then pure []
    else
      let s ← rawSection
      let rest ← rawSections rounds
      pure (s :: rest)

/-- A custom section's name; its bytes are what is left. -/
def customSection (after : Option SectionKind) : Decoder CustomSection := do
  let field ← name
  let bytes ← remaining
  pure ⟨field, bytes, after⟩

/-- Reads sections in turn; `last` is the section before, custom ones aside. -/
def readSections (last : Option SectionKind) (d : Definition) :
    List RawSection → Except Fault Definition
  | [] => .ok d
  | s :: rest =>
    if s.number = 0 then do
      let (c, _) ← (customSection last).run s.contents
      readSections last { d with customs := d.customs ++ [c] } rest
    else
      match sectionKind? s.number with
      | none => .error .unknownSection
      | some kind =>
        if (last.any fun k => decide (kind.rank ≤ k.rank)) then .error .sectionOrder
        else do
          let (d, _) ← (whole (readSection kind d) s.contents).run []
          readSections (some kind) d rest

/-! ### Modules -/

/-- The four bytes that every binary begins with. -/
def magic : List UInt8 := [0x00, 0x61, 0x73, 0x6D]

/-- The header of a module: the four bytes and the version. -/
def header : List UInt8 := magic ++ [0x01, 0x00, 0x00, 0x00]

def isBinary (bytes : List UInt8) : Bool := magic.isPrefixOf bytes

/-- The sections behind the header. -/
def sections (bytes : List UInt8) : Except Fault (List RawSection) :=
  if !isBinary bytes then .error .notBinary
  else if !header.isPrefixOf bytes then .error .unknownVersion
  else do
    let body := bytes.drop header.length
    let (raw, _) ← (rawSections (body.length + 1)).run body
    .ok raw

/-- The number of function bodies and of data segments agrees with what is announced. -/
def countsAgree (d : Definition) : Bool :=
  d.functions.length == d.bodies.length && d.dataCount.all fun n => n == d.datas.length

/-- The module that bytes describe. -/
def decode (bytes : List UInt8) : Except Fault Definition := do
  let raw ← sections bytes
  let d ← readSections none .empty raw
  if countsAgree d then .ok d else .error .countMismatch

/-! ### Custom sections alone -/

/-- The part of a section's contents that is looked at without reading its entries: their number,
and of code the sizes of the bodies. Where the section is one number nothing may follow it. -/
def outline : SectionKind → Decoder Unit
  | .code => do
    let _ ← vector byteVector
  | .start | .dataCount => do
    let _ ← u32
  | _ => do
    let _ ← u32
    let _ ← remaining

/-- What a custom section is called and what it holds. -/
def skim (s : RawSection) : Except Fault (Option (String × List UInt8)) :=
  if s.number = 0 then do
    let (c, _) ← (customSection none).run s.contents
    pure (some (c.name, c.bytes))
  else
    match sectionKind? s.number with
    | none => .ok none
    | some kind => do
      let _ ← (whole (outline kind) s.contents).run []
      pure none

/-- The custom sections in the order of the file, without reading the module. -/
def customSections (bytes : List UInt8) : Except Fault (List (String × List UInt8)) := do
  let raw ← sections bytes
  let found ← raw.mapM skim
  .ok (found.filterMap id)

end Embedder.Binary
