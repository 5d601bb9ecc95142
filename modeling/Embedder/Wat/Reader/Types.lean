import Embedder.Types.Text
import Embedder.Wat.Reader.Basic

/-!
Reading types.

* `Wat.heapType`, `Wat.referenceType`, `Wat.valueType`: the types of values;
* `Wat.signature`, `Wat.typeUse`: function types in place and by reference;
* `Wat.memoryType`, `Wat.tableType`, `Wat.globalType`: the types of entities;
* `Wat.typeDefinition`: a declared type behind its keyword.
-/

namespace Embedder.Wat

/-! ### References and values -/

def heapKind : Reading HeapKind := do
  match ← peek with
  | .keyword w =>
    match HeapKind.ofKeyword? w with
    | some kind =>
      advance
      return kind
    | none => fail
  | _ => fail

def heapType : Reading (HeapType Ref) := do
  if ← isRef then return .declared (← ref)
  else if (← peek) = .opening then
    parens do
      expectKeyword "shared"
      return .family true (← heapKind)
  else return .family false (← heapKind)

/-- The tokens start a type of references. -/
def startsReference : List Placed → Reading Bool
  | [] => return false
  | t :: ts => do
    match (← t.look).token, ts with
    | .keyword w, _ => return (HeapKind.ofShorthand? w).isSome
    | .opening, u :: _ =>
      match (← u.look).token with
      | .keyword w => return w == "ref" || w == "shared"
      | _ => return false
    | _, _ => return false

def isReferenceType : Reading Bool := do startsReference (← get).tokens

/-- A type of references that has a name of its own. -/
def shorthand : Reading HeapKind := do
  match ← peek with
  | .keyword w =>
    match HeapKind.ofShorthand? w with
    | some kind =>
      advance
      return kind
    | none => fail
  | _ => fail

def referenceType : Reading (ReferenceType Ref) := do
  if (← peek) = .opening then
    parens do
      if ← takeKeyword "ref" then
        let nullable ← takeKeyword "null"
        return ⟨nullable, ← heapType⟩
      else if ← takeKeyword "shared" then return ⟨true, .family true (← shorthand)⟩
      else fail
  else return .ofKind (← shorthand)

/-- The type of numbers or vectors of a keyword. -/
def numberType? (w : String) : Option Embedder.ValueType :=
  (ValueType.ofText? w).filter fun t => !t.isReference

def valueType : Reading (ValueType Ref) := do
  if ← isReferenceType then return .reference (← referenceType)
  else
    match ← peek with
    | .keyword w =>
      match numberType? w with
      | some t =>
        advance
        return .number t
      | none => fail
    | _ => fail

/-! ### Functions -/

/-- The parameters of one list: one with a name, or any number without. -/
def params (named : Bool) : Reading (List (Label × ValueType Ref)) := do
  if ← isEmpty then return []
  else
    let l ← if named then label else pure Label.none
    let t ← valueType
    if l = .none then
      let ts ← untilClosing valueType
      return (t :: ts).map fun t => (Label.none, t)
    else return [(l, t)]

/-- One list of parameters or of results. -/
def signaturePart (named : Bool) (s : Signature) : Reading Signature :=
  parens do
    if (← isKeyword "param") && s.results.isEmpty then
      advance
      return { s with params := s.params ++ (← params named) }
    else if ← takeKeyword "result" then
      return { s with results := s.results ++ (← untilClosing valueType) }
    else fail

def signatureParts (named : Bool) : (rounds : Nat) → Signature → Reading Signature
  | 0, s => return s
  | rounds + 1, s => do
    if ← aheadIs ["param", "result"] then
      signatureParts named rounds (← signaturePart named s)
    else return s

/-- Lists of parameters and then of results. -/
def signature (named : Bool) : Reading Signature := fun s =>
  signatureParts named s.tokens.length ⟨[], []⟩ s

def typeUse (named : Bool) : Reading TypeUse := do
  let index ← if ← aheadIs ["type"] then
      parens do
        expectKeyword "type"
        some <$> ref
    else pure none
  if (← opens (.keyword "param")) || (← opens (.keyword "result")) then
    return ⟨index, some (← signature named)⟩
  else return ⟨index, none⟩

/-! ### Memories, tables and globals -/

def limits (width : Nat) : Reading (Nat × Option Nat) := do
  let minimum ← natural width
  let maximum ← if ← isInteger then some <$> natural width else pure none
  return (minimum, maximum)

/-- The keyword that says how a memory or table is addressed: whether with 64 bits. -/
def wide : Reading Bool := do
  if ← takeKeyword "i64" then return true
  else
    let _ ← takeKeyword "i32"
    return false

def isPowerOfTwo (n : Nat) : Bool := n == 2 ^ n.log2

/-- A size of pages, which is a power of two. -/
def pageSize : Reading Nat :=
  parens do
    expectKeyword "pagesize"
    let offset := (← placed).offset
    let n ← natural 32
    if isPowerOfTwo n then return n.log2 else failAt offset

def memoryType : Reading MemoryType := do
  let wide ← wide
  let (minimum, maximum) ← limits (if wide then 64 else 32)
  let shared ← takeKeyword "shared"
  let pageBits ← if (← peek) = .opening then some <$> pageSize else pure none
  return ⟨⟨minimum, maximum, shared, wide⟩, pageBits⟩

def tableType : Reading (TableType Ref) := do
  let shared ← takeKeyword "shared"
  let wide ← wide
  let (minimum, maximum) ← limits (if wide then 64 else 32)
  return ⟨← referenceType, ⟨minimum, maximum, shared, wide⟩⟩

def globalType : Reading (GlobalType Ref) := do
  if ← aheadIs ["shared"] then
    parens do
      expectKeyword "shared"
      let mutable ← takeKeyword "mut"
      return ⟨← valueType, mutable, true⟩
  else if ← aheadIs ["mut"] then
    parens do
      expectKeyword "mut"
      return ⟨← valueType, true, false⟩
  else return ⟨← valueType, false, false⟩

/-! ### Declared types -/

def storageType : Reading (StorageType Ref) := do
  if ← takeKeyword "i8" then return .i8
  else if ← takeKeyword "i16" then return .i16
  else return .value (← valueType)

def fieldType : Reading (FieldType Ref) := do
  if ← aheadIs ["mut"] then
    parens do
      expectKeyword "mut"
      return ⟨← storageType, true⟩
  else return ⟨← storageType, false⟩

/-- The fields of one list: one with a name, or any number without; or a field without a list. -/
def structureFields : Reading (List (Label × FieldType Ref)) := do
  if ← aheadIs ["field"] then
    parens do
      expectKeyword "field"
      match ← name? with
      | some n => return [(⟨some n, none⟩, ← fieldType)]
      | none => untilClosing do return (Label.none, ← fieldType)
  else return [(Label.none, ← fieldType)]

/-- A type without its brackets, and what its fields are called. -/
def compositeType : Reading (CompositeType Ref × List Label) := do
  if ← takeKeyword "func" then return (.function (← signature true).type, [])
  else if ← takeKeyword "struct" then
    let fields := (← untilClosing structureFields).flatten
    return (.structure (fields.map Prod.snd), fields.map Prod.fst)
  else if ← takeKeyword "array" then return (.array (← fieldType), [])
  else if ← takeKeyword "cont" then return (.continuation (← ref), [])
  else fail

/-- A type and whether it is shared. -/
def sharedType : Reading (Bool × CompositeType Ref × List Label) :=
  parens do
    if ← takeKeyword "shared" then return (true, ← parens compositeType)
    else return (false, ← compositeType)

/-- The number of a type that is being declared. -/
def declareType : Reading Nat := fun s =>
  .ok (s.counts.types, { s with counts := { s.counts with types := s.counts.types + 1 } })

def typeDefinition : Reading TypeDefinition := do
  expectKeyword "type"
  let l ← label
  let number ← declareType
  if ← aheadIs ["sub"] then
    parens do
      expectKeyword "sub"
      let final ← takeKeyword "final"
      let parent ← ref?
      let (shared, body, fields) ← sharedType
      return ⟨number, l, final, parent, shared, body, fields⟩
  else
    let (shared, body, fields) ← sharedType
    return ⟨number, l, true, none, shared, body, fields⟩

end Embedder.Wat
