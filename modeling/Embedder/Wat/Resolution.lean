import Embedder.Wat.Syntax

/-!
From the fields of a text to the sections of a module: names become numbers, and function types
without a number of their own are added behind the declared ones.

* `Wat.Resolution.allTypes`: all types of a module;
* `Wat.Resolution.check`: no name is declared twice, and imports come first;
* `Wat.Resolution.typeIndex`, `Wat.Resolution.part`, `Wat.Resolution.codeWith`: uses of entities in
  types and in code;
* `Wat.resolve`: the sections of a module and its names for people, or the place of the first fault.
-/

namespace Embedder.Wat

open Binary (Entries SegmentMode signedBytes sizedBytes unsignedBytes vectorBytes)

/-! ### Declarations -/

/-- The types that a field declares. -/
def Field.types : Field → List TypeDefinition
  | .type t => [t]
  | .group ts => ts
  | _ => []

/-- The declaration of a type and those of its fields. -/
def TypeDefinition.declares (t : TypeDefinition) : List (Scope × Label) :=
  (.type, t.label) :: t.fields.map fun l => (.field t.number, l)

/-- What a field declares and what it is called. -/
def Field.declares (f : Field) : List (Scope × Label) :=
  match f with
  | .type _ | .group _ => f.types.flatMap TypeDefinition.declares
  | .imported _ _ _ l item => [(item.scope, l)]
  | .function l _ _ _ => [(.function, l)]
  | .table l _ _ => [(.table, l)]
  | .memory l _ => [(.memory, l)]
  | .global l _ _ => [(.global, l)]
  | .tag l _ => [(.tag, l)]
  | .element l _ _ => [(.element, l)]
  | .data l _ _ => [(.data, l)]
  | .exported _ _ _ | .start _ | .custom _ _ _ => []

namespace Resolution

/-- The labels of a scope, in the order of their numbers. -/
def labels (declared : List (Scope × Label)) (scope : Scope) : List Label :=
  declared.filterMap fun (s, l) => if s = scope then some l else none

/-- The place of the first name that its scope has already. -/
def duplicate? (seen : List (Scope × String)) : List (Scope × Label) → Option Nat
  | [] => none
  | (scope, l) :: rest =>
    match l.name with
    | none => duplicate? seen rest
    | some n =>
      if seen.contains (scope, n.text) then some n.offset
      else duplicate? ((scope, n.text) :: seen) rest

/-- The place of the first import behind a declaration that imports must precede. -/
def lateImport? (seen : Bool) : List Field → Option Nat
  | [] => none
  | .imported offset _ _ _ _ :: rest => if seen then some offset else lateImport? seen rest
  | .memory _ _ :: rest | .function _ _ _ _ :: rest | .table _ _ _ :: rest
  | .global _ _ _ :: rest => lateImport? true rest
  | _ :: rest => lateImport? seen rest

/-- No import comes late and no name is declared twice. -/
def check (fs : List Field) : Except Nat Unit :=
  match lateImport? false fs, duplicate? [] (fs.flatMap Field.declares) with
  | some offset, _ => .error offset
  | none, some offset => .error offset
  | none, none => .ok ()

/-! ### Types -/

/-- The function type that a use needs, if it names none. -/
def neededType (u : TypeUse) : List (FunctionType Ref) :=
  match u.index with
  | some _ => []
  | none => [u.type.bare]

/-- A block type with at most one result and no parameter needs no function type. -/
def isShort (t : FunctionType Ref) : Bool := t.params.isEmpty && decide (t.results.length ≤ 1)

def Part.neededTypes : Part → List (FunctionType Ref)
  | .indirect _ u _ => neededType u
  | _ => []

def Instr.neededTypes : Instr → List (FunctionType Ref)
  | .op parts => parts.flatMap Part.neededTypes
  | .block _ _ u _ => if u.index.isNone && isShort u.type then [] else neededType u
  | _ => []

def codeTypes (is : List Instr) : List (FunctionType Ref) := is.flatMap Instr.neededTypes

def itemTypes : Item → List (FunctionType Ref)
  | .function u | .tag u => neededType u
  | _ => []

def elementTypes : Elements → List (FunctionType Ref)
  | .functions _ => []
  | .expressions _ es => es.flatMap codeTypes

/-- The function types that a field needs, in the order of the text. -/
def fieldTypes : Field → List (FunctionType Ref)
  | .imported _ _ _ _ item => itemTypes item
  | .function _ u _ is => neededType u ++ codeTypes is
  | .table _ _ (some is) => codeTypes is
  | .global _ _ is => codeTypes is
  | .tag _ u => neededType u
  | .element _ (.active _ offset) items => codeTypes offset ++ elementTypes items
  | .element _ _ items => elementTypes items
  | .data _ (.active _ offset) _ => codeTypes offset
  | _ => []

/-- The function type that a definition gives, if it gives one. -/
def functionType? (t : TypeDefinition) : Option (FunctionType Ref) :=
  match t.body with
  | .function t => some t.bare
  | _ => none

/-- All types, as far as they are function types: the declared ones, and those that are needed and
not declared, each once. -/
def allTypes (fs : List Field) : List (Option (FunctionType Ref)) :=
  (fs.flatMap fieldTypes).foldl (fun ts t => if ts.contains (some t) then ts else ts ++ [some t])
    ((fs.flatMap Field.types).map functionType?)

/-! ### Names to numbers -/

/-- What names mean in a module: `declared` holds the labels of all scopes. -/
structure Scopes where
  types : List (Option (FunctionType Ref))
  declared : List (Scope × Label)

def Scopes.ofFields (fs : List Field) : Scopes := ⟨allTypes fs, fs.flatMap Field.declares⟩

/-- What names mean in a body: those of the module, of the locals, and of the open blocks, the
innermost one first. -/
structure Body where
  scopes : Scopes
  locals : List Label
  blocks : List Label

def Body.labels (b : Body) : Scope → List Label
  | .local => b.locals
  | .label => b.blocks
  | scope => Resolution.labels b.scopes.declared scope

/-- The number of the entity that a use means. -/
def index (b : Body) (scope : Scope) : Ref → Except Nat Nat
  | .number n _ => .ok n
  | .name n =>
    match (b.labels scope).findIdx? fun l => l.name.any fun m => m.text == n.text with
    | some i => .ok i
    | none => .error n.offset

/-- The number of a declared type. -/
def declaredType (b : Body) : Ref → Except Nat Nat := index b .type

/-- The function type with the given number is this one. There is none if the type is of another kind
or does not exist, and then nothing disagrees. -/
def agrees (b : Body) (n : Nat) (t : FunctionType Nat) : Bool :=
  match b.scopes.types[n]? with
  | some (some declared) =>
    match declared.mapM (declaredType b) with
    | .ok declared => declared = t
    | .error _ => false
  | _ => true

/-- The number of the type that a use means; a type in place must agree with one by reference. -/
def typeIndex (b : Body) (u : TypeUse) : Except Nat Nat := do
  let n ← match u.index with
    | some r => declaredType b r
    | none => pure (b.scopes.types.idxOf (some u.type.bare))
  match u.inPlace with
  | none => return n
  | some s =>
    let t ← s.type.mapM (declaredType b)
    match u.index with
    | some r => if agrees b n t then return n else .error r.offset
    | none => return n

def valueBytes (b : Body) (t : ValueType Ref) : Except Nat (List UInt8) :=
  ValueType.bytes <$> t.mapM (declaredType b)

def blockBytes (b : Body) (u : TypeUse) : Except Nat (List UInt8) :=
  if u.index.isNone && isShort u.type then
    match u.type.results with
    | t :: _ => valueBytes b t
    | [] => .ok [0x40]
  else do return signedBytes (← typeIndex b u)

/-- A declared type: it may have subtypes or be one itself, and be shared. -/
def definitionBytes (b : Body) (t : TypeDefinition) : Except Nat (List UInt8) := do
  let body ← t.body.mapM (declaredType b)
  let parent ← t.parent.mapM (declaredType b)
  let front : List UInt8 := match parent, t.final with
    | none, true => []
    | none, false => [0x50, 0]
    | some n, final => (if final then 0x4F else 0x50) :: 1 :: unsignedBytes n
  return front ++ (if t.shared then [0x65] else []) ++ body.bytes

/-! ### Code -/

/-- The bytes of a part of an instruction. -/
def part (b : Body) : Part → Except Nat (List UInt8)
  | .bytes bs => .ok bs
  | .entity scope r write => write <$> index b scope r
  | .pair (scope₁, r₁) (scope₂, r₂) write => do
    let n₁ ← index b scope₁ r₁
    return write n₁ (← index b scope₂ r₂)
  | .branchTable rs other => do
    let ns ← rs.mapM (index b .label)
    return Binary.opBytes (.brTable ns (← index b .label other))
  | .indirect table u write => do
    let n ← index b .table table
    return write n (← typeIndex b u)
  | .field type r => do
    let n ← index b .type type
    return unsignedBytes n ++ unsignedBytes (← index b (.field n) r)
  | .heap t => HeapType.bytes <$> t.mapM (declaredType b)
  | .values ts => do return vectorBytes id (← ts.mapM (valueBytes b))

def parts (b : Body) (ps : List Part) : Except Nat (List UInt8) := do
  return (← ps.mapM (part b)).flatten

def formByte : BlockForm → UInt8
  | .block => 0x02
  | .loop => 0x03
  | .ifThen => 0x04
  | .attempt => 0x06
  | .attemptTable => 0x1F

/-- A label at the end of a block must be the one at its start. -/
def checkEnd (block : Option Label) (label : Option Name) : Except Nat Unit :=
  match block, label with
  | some l, some n =>
    if (l.name.any fun m => m.text == n.text) then .ok () else .error n.offset
  | _, _ => .ok ()

/-- An instruction as bytes, and the blocks that are open behind it. -/
def instruction (b : Body) : Instr → Except Nat (List UInt8 × List Label)
  | .op ps => do return (← parts b ps, b.blocks)
  | .block form l u handlers => do
    let t ← blockBytes b u
    return (formByte form :: t ++ (← parts b handlers), l :: b.blocks)
  | .otherwise n => do
    checkEnd b.blocks.head? n
    return ([0x05], b.blocks)
  | .ends n => do
    checkEnd b.blocks.head? n
    return ([0x0B], b.blocks.tail)
  | .delegate r => do
    let outer := { b with blocks := b.blocks.tail }
    return (0x18 :: unsignedBytes (← index outer .label r), outer.blocks)
  | .hint _ => .ok ([], b.blocks)

/-- Code as bytes, and the hints in it with the offsets that they stand at. -/
structure CodeBytes where
  bytes : List UInt8
  hints : List (Nat × UInt8)

/-- Instructions as bytes; `done` holds those of the first of them, the last one first, `size` is
their number, and `hints` are the hints among them. -/
def codeWith (b : Body) (done : List (List UInt8)) (size : Nat) (hints : List (Nat × UInt8)) :
    List Instr → Except Nat CodeBytes
  | [] => .ok ⟨(([0x0B] : List UInt8) :: done).reverse.flatten, hints.reverse⟩
  | .hint value :: is => codeWith b done size ((size, value) :: hints) is
  | i :: is => do
    let (bytes, blocks) ← instruction b i
    codeWith { b with blocks } (bytes :: done) (size + bytes.length) hints is

/-- Instructions and the `end` that closes them. -/
def code (b : Body) (is : List Instr) : Except Nat (List UInt8) := do
  return (← codeWith b [] 0 [] is).bytes

/-! ### Fields to sections -/

def tableBytes (b : Body) (t : TableType Ref) : Except Nat (List UInt8) :=
  TableType.bytes <$> t.mapM (declaredType b)

def globalBytes (b : Body) (t : GlobalType Ref) : Except Nat (List UInt8) :=
  GlobalType.bytes <$> t.mapM (declaredType b)

def importItem (b : Body) : Item → Except Nat (List UInt8)
  | .function u => do return 0 :: unsignedBytes (← typeIndex b u)
  | .table t => do return 1 :: (← tableBytes b t)
  | .memory t => .ok (2 :: t.bytes)
  | .global t => do return 3 :: (← globalBytes b t)
  | .tag u => do return 4 :: Binary.tagBytes (← typeIndex b u)

/-- A segment of elements other than functions says which table it goes to. -/
def elementTable (items : Elements) (table : Option Nat) : Option Nat :=
  match table, items with
  | none, .expressions t _ => if t = .ofKind .func then none else some 0
  | table, _ => table

def elementMode (b : Body) (items : Elements) : ElementPlace → Except Nat SegmentMode
  | .active table offset => do
    let n ← table.mapM (index b .table)
    return .active (elementTable items n) (← code b offset)
  | .passive => .ok .passive
  | .declared => .ok .declared

def elementBytes (b : Body) (place : ElementPlace) (items : Elements) :
    Except Nat (List UInt8) := do
  let mode ← elementMode b items place
  match items with
  | .functions rs =>
    let ns ← rs.mapM (index b .function)
    return Binary.elementSegmentBytes 0 [Binary.functionKindByte] (vectorBytes unsignedBytes ns)
      mode
  | .expressions t es =>
    let codes ← es.mapM (code b)
    let type ← valueBytes b (.reference t)
    return Binary.elementSegmentBytes 4 type (vectorBytes id codes) mode

def dataMode (b : Body) : DataPlace → Except Nat SegmentMode
  | .active memory offset => do
    let n ← index b .memory memory
    return .active (some n) (← code b offset)
  | .passive => .ok .passive

def spaceScope : Space → Scope
  | .function => .function
  | .table => .table
  | .memory => .memory
  | .global => .global
  | .tag => .tag

/-- Equal neighbours as runs. -/
def runs {α : Type} [DecidableEq α] : List α → List (Nat × α)
  | [] => []
  | t :: ts =>
    match runs ts with
    | (n, u) :: rest => if t = u then (n + 1, u) :: rest else (1, t) :: (n, u) :: rest
    | [] => [(1, t)]

/-- The labels of the parameters of a function. -/
def paramLabels (b : Body) (u : TypeUse) (type : Nat) : List Label :=
  match u.inPlace, b.scopes.types[type]? with
  | some s, _ => s.params.map Prod.fst
  | none, some (some t) => t.params.map fun _ => .none
  | none, _ => []

/-- The labels of the locals of a function, parameters first. -/
def localLabels (b : Body) (u : TypeUse) (type : Nat) (ls : List (Label × ValueType Ref)) :
    List Label :=
  paramLabels b u type ++ ls.map Prod.fst

/-- A function as bytes behind their number, and the hints in it. -/
def functionBytes (b : Body) (u : TypeUse) (type : Nat) (ls : List (Label × ValueType Ref))
    (is : List Instr) : Except Nat CodeBytes := do
  let types ← ls.mapM fun l => valueBytes b l.2
  let labels := localLabels b u type ls
  match duplicate? [] (labels.map fun l => (.local, l)) with
  | some offset => .error offset
  | none =>
    let c ← codeWith { b with locals := labels, blocks := [] } [] 0 [] is
    let front := Binary.functionBytes (runs types) []
    return ⟨sizedBytes (front ++ c.bytes), c.hints.map fun (n, value) => (front.length + n, value)⟩

/-- What the fields so far say: the sections, the number of functions, and the hints in those that
have any. -/
structure Progress where
  entries : Entries
  functions : Nat
  hints : List (Nat × List (Nat × UInt8))

def Progress.start : Progress := ⟨.empty, 0, []⟩

def addImport (b : Body) (p : Progress) (module name : String) (item : Item) :
    Except Nat Progress := do
  let bytes := Binary.importBytes module name (← importItem b item)
  let functions := if item.scope = .function then p.functions + 1 else p.functions
  return { p with entries.imports := p.entries.imports ++ [bytes], functions }

def addFunction (b : Body) (p : Progress) (u : TypeUse) (ls : List (Label × ValueType Ref))
    (is : List Instr) : Except Nat Progress := do
  let n ← typeIndex b u
  let body ← functionBytes b u n ls is
  let entries := { p.entries with
    functions := p.entries.functions ++ [unsignedBytes n]
    bodies := p.entries.bodies ++ [body.bytes] }
  let hints := if body.hints.isEmpty then p.hints else p.hints ++ [(p.functions, body.hints)]
  return ⟨entries, p.functions + 1, hints⟩

/-- A table with an initial value says so in front of its type. -/
def tableEntry (b : Body) (t : TableType Ref) (init : Option (List Instr)) :
    Except Nat (List UInt8) := do
  let type ← tableBytes b t
  match init with
  | none => return type
  | some is => return 0x40 :: 0x00 :: type ++ (← code b is)

/-- Adds what a field says to the sections before it. -/
def addField (b : Body) (p : Progress) : Field → Except Nat Progress
  | .custom _ _ _ => .ok p
  | .type t => do
    return { p with entries.types := p.entries.types ++ [← definitionBytes b t] }
  | .group ts => do
    let group := 0x4E :: vectorBytes id (← ts.mapM (definitionBytes b))
    return { p with entries.types := p.entries.types ++ [group] }
  | .imported _ module name _ item => addImport b p module name item
  | .function _ u ls is => addFunction b p u ls is
  | .table _ t init => do
    return { p with entries.tables := p.entries.tables ++ [← tableEntry b t init] }
  | .memory _ t => .ok { p with entries.memories := p.entries.memories ++ [t.bytes] }
  | .global _ t is => do
    let type ← globalBytes b t
    return { p with entries.globals := p.entries.globals ++ [type ++ (← code b is)] }
  | .tag _ u => do
    return { p with entries.tags := p.entries.tags ++ [Binary.tagBytes (← typeIndex b u)] }
  | .exported name space r => do
    let bytes := Binary.exportBytes ⟨name, space, ← index b (spaceScope space) r⟩
    return { p with entries.exports := p.entries.exports ++ [bytes] }
  | .start r => do return { p with entries.start := some (← index b .function r) }
  | .element _ place items => do
    return { p with entries.elements := p.entries.elements ++ [← elementBytes b place items] }
  | .data _ place bytes => do
    let segment := Binary.dataSegmentBytes bytes (← dataMode b place)
    return { p with entries.datas := p.entries.datas ++ [segment] }

def Part.usesDatas : Part → Bool
  | .entity .data _ _ | .pair (.data, _) _ _ => true
  | _ => false

/-- Code that uses data segments by number needs their count in front of it. -/
def usesDatas : Field → Bool
  | .function _ _ _ is => is.any fun i => match i with
    | .op ps => ps.any Part.usesDatas
    | _ => false
  | _ => false

/-! ### Custom sections -/

/-- The place of a custom section among the sections: twice the rank of a section is in front of it
and one more is behind it. -/
def placeKey : CustomPlace → Nat
  | .first => 0
  | .before kind => 2 * kind.rank + 1
  | .after kind => 2 * kind.rank + 2
  | .last => 2 * SectionKind.all.length + 1

/-- The section in front of a place. -/
def placeBehind (place : CustomPlace) : Option SectionKind :=
  match placeKey place with
  | 0 | 1 => none
  | key => SectionKind.all[min ((key - 2) / 2) (SectionKind.all.length - 1)]?

/-- The section of the hints, which stands in front of the code. -/
def hintSection (hints : List (Nat × List (Nat × UInt8))) : CustomSection :=
  let hintBytes := fun (h : Nat × UInt8) => unsignedBytes h.1 ++ [1, h.2]
  ⟨"metadata.code.branch_hint",
    vectorBytes (fun f => unsignedBytes f.1 ++ vectorBytes hintBytes f.2) hints,
    placeBehind (.before .code)⟩

/-- The custom sections; those that stand between the same two sections are in the order of the
file. -/
def customs (fs : List Field) (hints : List (Nat × List (Nat × UInt8))) : List CustomSection :=
  let placed := fs.filterMap fun f => match f with
    | .custom name place bytes => some (placeKey place,
        (⟨name, bytes, placeBehind place⟩ : CustomSection))
    | _ => none
  (placed.mergeSort fun a b => decide (a.1 ≤ b.1)).map Prod.snd ++
    if hints.isEmpty then [] else [hintSection hints]

/-! ### Names for people -/

def shownNames (ls : List Label) : List (Nat × String) :=
  ls.zipIdx.filterMap fun (l, i) => l.text?.map fun s => (i, s)

/-- The names in the functions of the module, each under the number of its function. -/
def functionNames (fs : List Field) (names : Field → List (Nat × String)) :
    List (Nat × List (Nat × String)) :=
  let functions := fs.filter fun f => f.declares.any fun (scope, _) => scope == .function
  functions.zipIdx.filterMap fun (f, i) =>
    let ns := names f
    if ns.isEmpty then none else some (i, ns)

/-- The names of the fields of the structures, each under the number of its type. -/
def fieldNames (fs : List Field) : List (Nat × List (Nat × String)) :=
  (fs.flatMap Field.types).filterMap fun t =>
    let ns := shownNames t.fields
    if ns.isEmpty then none else some (t.number, ns)

def fieldLocalNames (b : Body) : Field → List (Nat × String)
  | .function _ u ls _ =>
    match typeIndex b u with
    | .ok n => shownNames (localLabels b u n ls)
    | .error _ => []
  | _ => []

def blockLabel? : Instr → Option Label
  | .block _ l _ _ => some l
  | _ => none

def fieldLabelNames : Field → List (Nat × String)
  | .function _ _ _ is => shownNames (is.filterMap blockLabel?)
  | _ => []

def names (b : Body) (module : Label) (fs : List Field) : Names :=
  let shown := fun scope => shownNames (b.labels scope)
  { module := module.text?
    functions := shown .function
    locals := functionNames fs (fieldLocalNames b)
    labels := functionNames fs fieldLabelNames
    types := shown .type
    tables := shown .table
    memories := shown .memory
    globals := shown .global
    elements := shown .element
    datas := shown .data
    fields := fieldNames fs
    tags := shown .tag }

end Resolution

/-- What the file of a module consists of. -/
structure Sections where
  entries : Entries
  customs : List CustomSection
  names : Names

def Sections.bytes (s : Sections) : List UInt8 := Binary.file s.entries s.customs s.names

/-- The sections that fields describe, or the place of the first fault. -/
def resolve (module : Label) (fs : List Field) : Except Nat Sections := do
  Resolution.check fs
  let b : Resolution.Body := ⟨.ofFields fs, [], []⟩
  let p ← fs.foldlM (Resolution.addField b) .start
  let added ← ((b.scopes.types.drop (fs.flatMap Field.types).length).filterMap id).mapM fun t =>
    t.mapM (Resolution.declaredType b)
  let types := p.entries.types ++ added.map fun t => (CompositeType.function t).bytes
  let dataCount := if fs.any Resolution.usesDatas then some p.entries.datas.length else none
  return ⟨{ p.entries with types, dataCount }, Resolution.customs fs p.hints,
    Resolution.names b module fs⟩

end Embedder.Wat
