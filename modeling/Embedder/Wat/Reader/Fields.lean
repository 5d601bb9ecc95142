import Embedder.Bytes
import Embedder.Wat.Reader.CustomSections

/-!
Reading the fields of a module and whole texts.

* `Wat.field`: a field, and the fields that its short forms stand for;
* `Wat.ComponentFormat`: the fields of a component, which are not known here;
* `Wat.document`: a whole text.
-/

namespace Embedder.Wat

/-! ### Counting declarations -/

def Counts.get (c : Counts) : Space → Nat
  | .function => c.functions
  | .table => c.tables
  | .memory => c.memories
  | .global => c.globals
  | .tag => c.tags

def Counts.next (c : Counts) : Space → Counts
  | .function => { c with functions := c.functions + 1 }
  | .table => { c with tables := c.tables + 1 }
  | .memory => { c with memories := c.memories + 1 }
  | .global => { c with globals := c.globals + 1 }
  | .tag => { c with tags := c.tags + 1 }

/-- The number of an entity that is being declared. -/
def declare (space : Space) : Reading Ref := fun s =>
  .ok (.number (s.counts.get space) 0, { s with counts := s.counts.next space })

/-! ### Short forms -/

/-- Tokens start with this form; no more of them are looked at than it takes to tell. -/
def haveForm : List (Token → Bool) → List Placed → Reading Bool
  | [], _ => return true
  | _ :: _, [] => return false
  | f :: forms, t :: ts => do
    if f (← t.look).token then haveForm forms ts else return false

/-- The tokens in front have this form. -/
def startsWith (forms : List (Token → Bool)) : Reading Bool := do
  haveForm forms (← get).tokens

def isStringToken : Token → Bool
  | .string _ => true
  | _ => false

/-- The names under which an entity is exported where it is declared. -/
def ownExports : Reading (List String) :=
  repeatWhile
    (startsWith [(· == .opening), (· == .keyword "export"), isStringToken, (· == .closing)]) <|
    parens do
      expectKeyword "export"
      text

/-- Where an entity is imported from, if it says so where it is declared. -/
def ownImport : Reading (Option (String × String)) := do
  let forms := [(· == .opening), (· == .keyword "import"), isStringToken, isStringToken,
    (· == .closing)]
  if ← startsWith forms then
    parens do
      expectKeyword "import"
      return some (← text, ← text)
  else return none

/-- The front of a declaration: its place, what it is called, its exports and its import. -/
structure Front where
  offset : Nat
  label : Label
  exports : List String
  source : Option (String × String)

def front (keyword : String) : Reading Front := do
  let offset := (← placed).offset
  expectKeyword keyword
  let l ← label
  let exports ← ownExports
  return ⟨offset, l, exports, ← ownImport⟩

/-- The fields for the exports of an entity. -/
def Front.exportFields (f : Front) (space : Space) (r : Ref) : List Field :=
  f.exports.map fun name => .exported name space r

/-- A declaration with the fields that its exports stand for. -/
def declaration (keyword : String) (space : Space) (item : Reading Item)
    (own : Front → Ref → Reading (List Field)) : Reading (List Field) := do
  let f ← front keyword
  let r ← declare space
  let fields ← match f.source with
    | some (module, name) => pure [.imported f.offset module name f.label (← item)]
    | none => own f r
  return f.exportFields space r ++ fields

/-! ### Segments -/

/-- The constant expression that says where a segment starts. -/
def offsetCode : Reading (List Instr) := do
  if ← aheadIs ["offset"] then
    parens do
      expectKeyword "offset"
      code
  else foldedInstr

/-- An element, one instruction or several behind a keyword. -/
def elementItem : Reading (List Instr) := do
  if ← aheadIs ["item"] then
    parens do
      expectKeyword "item"
      code
  else foldedInstr

/-- The elements of a segment whose type is known or not. -/
def elementsOf (type : Option (ReferenceType Ref)) : Reading Elements := do
  match type with
  | none =>
    let _ ← takeKeyword "func"
    return .functions (← untilClosing ref)
  | some t =>
    if t = .ofKind .func ∧ (← isRef) then return .functions (← untilClosing ref)
    else return .expressions t (← untilClosing elementItem)

def elements : Reading Elements := do
  if ← isReferenceType then elementsOf (some (← referenceType)) else elementsOf none

/-- The entity of a segment: by number, behind its keyword, or left out. -/
def segmentTarget (keyword : String) : Reading (Option Ref) := do
  if ← isInteger then some <$> ref
  else if ← aheadIs [keyword] then
    parens do
      expectKeyword keyword
      some <$> ref
  else return none

def elementPlace : Reading ElementPlace := do
  if ← takeKeyword "declare" then return .declared
  else if (← isInteger) || ((← peek) == .opening && !(← isReferenceType)) then
    let table ← segmentTarget "table"
    return .active table (← offsetCode)
  else return .passive

def elementField : Reading Field := do
  expectKeyword "elem"
  let l ← label
  let place ← elementPlace
  return .element l place (← elements)

/-- Numbers of a width in bytes, up to the end of the list. -/
def numberBytes (width : Nat) (p : Reading Nat) : Reading (List UInt8) := do
  let ns ← untilClosing p
  return ns.flatMap (littleEndianBytes width)

/-- Contents of a data segment: a string, or numbers behind their type. -/
def dataPart : Reading (List UInt8) := do
  if ← isString then bytes
  else
    parens do
      if ← takeKeyword "i8" then numberBytes 1 (integer 8)
      else if ← takeKeyword "i16" then numberBytes 2 (integer 16)
      else if ← takeKeyword "i32" then numberBytes 4 (integer 32)
      else if ← takeKeyword "i64" then numberBytes 8 (integer 64)
      else if ← takeKeyword "f32" then numberBytes 4 (float .binary32)
      else if ← takeKeyword "f64" then numberBytes 8 (float .binary64)
      else fail

def dataParts : Reading (List UInt8) := do return (← untilClosing dataPart).flatten

def dataPlace : Reading DataPlace := do
  if ← isString then return .passive
  else
    let memory ← segmentTarget "memory"
    return .active (memory.getD .zero) (← offsetCode)

def dataField : Reading Field := do
  expectKeyword "data"
  let l ← label
  let place ← dataPlace
  return .data l place (← dataParts)

/-! ### Declarations -/

/-- Locals of one list: one with a name, or any number without. -/
def locals : Reading (List (Label × ValueType Ref)) := do
  let lists ← repeatWhile (aheadIs ["local"]) <| parens do
    expectKeyword "local"
    params true
  return lists.flatten

def functionField : Reading (List Field) :=
  declaration "func" .function (.function <$> typeUse true) fun f _ => do
    let type ← typeUse true
    let ls ← locals
    return [.function f.label type ls (← code)]

/-- The constant zero as an address. -/
def zeroOffset (wide : Bool) : List Instr :=
  [.ofOp (.const (if wide then .i64 0 else .i32 0))]

/-- The number of elements. -/
def Elements.length : Elements → Nat
  | .functions rs => rs.length
  | .expressions _ es => es.length

/-- A table that is as large as the elements that are given with it. -/
def tableWithElements (f : Front) (r : Ref) : Reading (List Field) := do
  let shared ← takeKeyword "shared"
  let wide ← wide
  let element ← referenceType
  let items ← parens do
    expectKeyword "elem"
    elementsOf (if (← peek) = .opening then some element else none)
  return [.element .none (.active (some r) (zeroOffset wide)) items,
    .table f.label ⟨element, items.length, some items.length, shared, wide⟩ none]

/-- Keywords that say how a table is used may stand in front of an element type. -/
def isTableElement : Reading Bool := do
  let front := [Token.keyword "shared", .keyword "i32", .keyword "i64"]
  startsReference ((← get).tokens.dropWhile fun t => front.contains t.token)

def tableField : Reading (List Field) :=
  declaration "table" .table (.table <$> tableType) fun f r => do
    if ← isTableElement then tableWithElements f r
    else
      let type ← tableType
      let init ← if ← isEmpty then pure none else some <$> code
      return [.table f.label type init]

/-- The number of pages that hold the given number of bytes. -/
def pagesFor (pageBits size : Nat) : Nat := (size + 2 ^ pageBits - 1) / 2 ^ pageBits

/-- A memory that is as large as the data that is given with it. -/
def memoryWithData (f : Front) (r : Ref) : Reading (List Field) := do
  let wide ← wide
  let pageBits ← if ← aheadIs ["pagesize"] then some <$> pageSize else pure none
  let contents ← parens do
    expectKeyword "data"
    dataParts
  let pages := pagesFor (pageBits.getD 16) contents.length
  return [.data .none (.active r (zeroOffset wide)) contents,
    .memory f.label ⟨⟨pages, some pages, false, wide⟩, pageBits⟩]

/-- Data is given with the memory, perhaps behind the keyword of the address type. -/
def isMemoryData : Reading Bool := do
  if (← isKeyword "i32") || (← isKeyword "i64") then return (← ahead) = .opening
  else return (← peek) = .opening

def memoryField : Reading (List Field) :=
  declaration "memory" .memory (.memory <$> memoryType) fun f r => do
    if ← isMemoryData then memoryWithData f r
    else if (← isInteger) || (← isKeyword "i32") || (← isKeyword "i64") then
      return [.memory f.label (← memoryType)]
    else fail

def globalField : Reading (List Field) :=
  declaration "global" .global (.global <$> globalType) fun f _ => do
    let type ← globalType
    return [.global f.label type (← code)]

def tagField : Reading (List Field) :=
  declaration "tag" .tag (.tag <$> typeUse true) fun f _ => do
    return [.tag f.label (← typeUse true)]

/-! ### Types, imports and exports -/

/-- Types that may refer to each other. -/
def groupField : Reading Field := do
  expectKeyword "rec"
  return .group (← repeatWhile (aheadIs ["type"]) (parens typeDefinition))

def space : Reading Space := do
  if ← takeKeyword "func" then return .function
  else if ← takeKeyword "table" then return .table
  else if ← takeKeyword "memory" then return .memory
  else if ← takeKeyword "global" then return .global
  else if ← takeKeyword "tag" then return .tag
  else fail

def importField : Reading Field := do
  let offset := (← placed).offset
  expectKeyword "import"
  let module ← text
  let name ← text
  parens do
    let s ← space
    let l ← label
    let _ ← declare s
    let item ← match s with
      | .function => Item.function <$> typeUse true
      | .table => Item.table <$> tableType
      | .memory => Item.memory <$> memoryType
      | .global => Item.global <$> globalType
      | .tag => Item.tag <$> typeUse true
    return .imported offset module name l item

def exportField : Reading Field := do
  expectKeyword "export"
  let name ← text
  parens do
    let s ← space
    return .exported name s (← ref)

def startField : Reading Field := do
  expectKeyword "start"
  return .start (← ref)

/-! ### Modules -/

/-- A field behind its opening bracket. -/
def field : Reading (List Field) := do
  match ← peek with
  | .keyword "type" => return [.type (← typeDefinition)]
  | .keyword "rec" => return [← groupField]
  | .keyword "import" => return [← importField]
  | .keyword "func" => functionField
  | .keyword "table" => tableField
  | .keyword "memory" => memoryField
  | .keyword "global" => globalField
  | .keyword "export" => return [← exportField]
  | .keyword "start" => return [← startField]
  | .keyword "elem" => return [← elementField]
  | .keyword "data" => return [← dataField]
  | .keyword "tag" => tagField
  | .note "custom" => return [← customField]
  | .note "producers" => return [← producersField]
  | .note "dylink.0" => return [← linkingField]
  | _ => fail

def fields : Reading (List Field) := do return (← untilClosing (parens field)).flatten

def isStart : Field → Bool
  | .start _ => true
  | _ => false

/-- A module starts with one function at most. -/
def oneStart (d : Document) : Reading Document := do
  match d with
  | .fields _ fs => if 1 < (fs.filter isStart).length then fail else return d
  | _ => return d

/-- A module or a component: given by its bytes, or written out. -/
def bracketed (kind : String) (content : Label → Reading Document) : Reading Document :=
  parens do
    expectKeyword kind
    let l ← label
    if ← takeKeyword "binary" then return .binary (← untilClosing bytes).flatten
    else content l

def moduleDocument : Reading Document := bracketed "module" fun l => return .fields l (← fields)

/-- How the fields of a component are read: as the bytes that stand behind its header. -/
structure ComponentFormat where
  sections : Reading (List UInt8)

/-- The format without any field. -/
def ComponentFormat.empty : ComponentFormat := ⟨return []⟩

def componentDocument (c : ComponentFormat) : Reading Document :=
  bracketed "component" fun _ => return .component (← c.sections)

/-- A whole text: a module, a component, or the fields of a module. -/
def document (c : ComponentFormat) : Reading Document := do
  if (← peek) = .ended then fail
  else
    let d ← if ← aheadIs ["module"] then moduleDocument
      else if ← aheadIs ["component"] then componentDocument c
      else do pure (Document.fields .none (← fields))
    let d ← oneStart d
    expect .ended
    return d

end Embedder.Wat
