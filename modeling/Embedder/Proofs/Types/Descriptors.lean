import Embedder.Proofs.Json.Documents
import Embedder.Proofs.Lists
import Embedder.Types.Json

/-!
# The text of a descriptor tells the descriptor

The type of an entity is written as an object that names its kind first. Which members follow depends
on the kind, and the same name can mean different things: the type of a global is that of its value,
the type of an import that of an entity. What is written can be read back all the same.

* `EntityType.ofJson?`, `ImportType.ofJson?`, `ExportType.ofJson?`: reading by kind and members;
* `EntityType.InRange`: limits are numbers of 64 bits;
* `Descriptor`: the three things that are written;
* `Descriptor.Lossless`, `Descriptor.read_back`: nothing is lost.
-/

namespace Embedder

/-! ### Members of a document -/

namespace Json

/-- The member of an object with this name. -/
def member? (name : String) : Json → Option Json
  | .obj members => members.lookup name
  | _ => none

@[simp] lemma member?_cons_self (name : String) (d : Json) (ms : List (String × Json)) :
    member? name (.obj ((name, d) :: ms)) = some d :=
  List.lookup_cons_self

@[simp] lemma member?_cons_of_ne {name other : String} (h : name ≠ other) (d : Json)
    (ms : List (String × Json)) :
    member? name (.obj ((other, d) :: ms)) = member? name (.obj ms) := by
  simp only [member?, List.lookup_cons, beq_eq_false_iff_ne.2 h]

def string? : Json → Option String
  | .str s => some s
  | _ => none

def nat? : Json → Option Nat
  | .nat n => some n
  | _ => none

def bool? : Json → Option Bool
  | .bool b => some b
  | _ => none

def items? : Json → Option (List Json)
  | .arr items => some items
  | _ => none

end Json

/-! ### Reading types -/

def ValueType.ofJson? (j : Json) : Option ValueType := j.string?.bind ofText?

/-- A list of types. -/
def valueTypesOfJson? (j : Json) : Option (List ValueType) :=
  j.items?.bind fun items => items.mapM ValueType.ofJson?

/-- A bound that may be missing. -/
def boundOfJson? : Json → Option (Option Nat)
  | .null => some none
  | j => j.nat?.map some

def FunctionType.ofJson? (j : Json) : Option FunctionType := do
  let params ← (j.member? "params").bind valueTypesOfJson?
  let results ← (j.member? "results").bind valueTypesOfJson?
  return { params, results }

def MemoryType.ofJson? (j : Json) : Option MemoryType := do
  let minimum ← (j.member? "minimum").bind Json.nat?
  let maximum ← (j.member? "maximum").bind boundOfJson?
  let shared ← (j.member? "shared").bind Json.bool?
  let memory64 ← (j.member? "memory64").bind Json.bool?
  return { minimum, maximum, shared, memory64 }

def GlobalType.ofJson? (j : Json) : Option GlobalType := do
  let value ← (j.member? "type").bind ValueType.ofJson?
  let mutable ← (j.member? "mutable").bind Json.bool?
  return { value, mutable }

def TableType.ofJson? (j : Json) : Option TableType := do
  let element ← (j.member? "type").bind ValueType.ofJson?
  let minimum ← (j.member? "minimum").bind Json.nat?
  let maximum ← (j.member? "maximum").bind boundOfJson?
  return { element, minimum, maximum }

/-- The kind says which members are read. -/
def EntityType.ofJson? (j : Json) : Option EntityType := do
  let name ← (j.member? "kind").bind Json.string?
  match ← Kind.ofText? name with
  | .function => (FunctionType.ofJson? j).map .function
  | .memory => (MemoryType.ofJson? j).map .memory
  | .global => (GlobalType.ofJson? j).map .global
  | .table => (TableType.ofJson? j).map .table

def ImportType.ofJson? (j : Json) : Option ImportType := do
  let module ← (j.member? "module").bind Json.string?
  let name ← (j.member? "name").bind Json.string?
  let type ← (j.member? "type").bind EntityType.ofJson?
  return { module, name, type }

def ExportType.ofJson? (j : Json) : Option ExportType := do
  let name ← (j.member? "name").bind Json.string?
  let type ← (j.member? "type").bind EntityType.ofJson?
  return { name, type }

/-! ### What is written is read -/

@[simp] lemma ValueType.ofJson?_json (t : ValueType) : ValueType.ofJson? t.json = some t := by
  cases t <;> decide

@[simp] lemma valueTypesOfJson?_json (ts : List ValueType) :
    valueTypesOfJson? (.arr (ts.map ValueType.json)) = some ts := by
  refine Elementwise.mapM_eq_some_iff.2 (List.forall₂_map_left_iff.2 ?_)
  exact List.forall₂_same.2 fun t _ => ValueType.ofJson?_json t

@[simp] lemma boundOfJson?_json (bound : Option Nat) : boundOfJson? (boundJson bound) = some bound := by
  cases bound <;> rfl

lemma FunctionType.ofJson?_json (t : FunctionType) :
    FunctionType.ofJson? (EntityType.function t).json = some t := by
  simp [ofJson?, EntityType.json]

lemma MemoryType.ofJson?_json (t : MemoryType) :
    MemoryType.ofJson? (EntityType.memory t).json = some t := by
  simp [ofJson?, EntityType.json, Json.nat?, Json.bool?]

lemma GlobalType.ofJson?_json (t : GlobalType) :
    GlobalType.ofJson? (EntityType.global t).json = some t := by
  simp [ofJson?, EntityType.json, Json.bool?]

lemma TableType.ofJson?_json (t : TableType) :
    TableType.ofJson? (EntityType.table t).json = some t := by
  simp [ofJson?, EntityType.json, Json.nat?]

@[simp] lemma Kind.ofText?_text (k : Kind) : Kind.ofText? k.text = some k := by cases k <;> decide

lemma EntityType.json_kind (t : EntityType) :
    (t.json.member? "kind").bind Json.string? = some t.kind.text := by
  cases t <;> rfl

/-- **The type of an entity** is read back by its kind. -/
@[simp] lemma EntityType.ofJson?_json (t : EntityType) : EntityType.ofJson? t.json = some t := by
  simp only [ofJson?, json_kind, Option.bind_eq_bind, Option.bind_some, Kind.ofText?_text]
  cases t with
  | function t => simp [kind, FunctionType.ofJson?_json]
  | memory t => simp [kind, MemoryType.ofJson?_json]
  | global t => simp [kind, GlobalType.ofJson?_json]
  | table t => simp [kind, TableType.ofJson?_json]

lemma ImportType.ofJson?_json (i : ImportType) : ImportType.ofJson? i.json = some i := by
  simp [ofJson?, json, Json.string?]

lemma ExportType.ofJson?_json (e : ExportType) : ExportType.ofJson? e.json = some e := by
  simp [ofJson?, json, Json.string?]

/-! ### The numbers in a descriptor -/

/-- The bounds are numbers of 64 bits. -/
structure Limits.InRange (l : Limits) : Prop where
  minimum : l.minimum < 2 ^ 64
  maximum : ∀ m, l.maximum = some m → m < 2 ^ 64

def EntityType.InRange : EntityType → Prop
  | .function _ => True
  | .memory t => t.limits.InRange
  | .global _ => True
  | .table t => t.limits.InRange

@[simp] lemma ValueType.fits_json (t : ValueType) : t.json.Fits := .str _

@[simp] lemma fits_valueTypes (ts : List ValueType) : (Json.arr (ts.map ValueType.json)).Fits := by
  refine .arr fun j hj => ?_
  obtain ⟨t, -, rfl⟩ := List.mem_map.1 hj
  exact t.fits_json

lemma fits_boundJson {bound : Option Nat} (h : ∀ m, bound = some m → m < 2 ^ 64) :
    (boundJson bound).Fits := by
  cases bound with
  | none => exact .null
  | some m => exact .nat (h m rfl)

lemma EntityType.fits_json {t : EntityType} (ht : t.InRange) : t.json.Fits := by
  cases t with
  | function t => simp [json]
  | memory t => simpa [json] using ⟨ht.minimum, fits_boundJson ht.maximum⟩
  | global t => simp [json]
  | table t => simpa [json] using ⟨ht.minimum, fits_boundJson ht.maximum⟩

/-! ### Descriptors -/

/-- What is written as JSON: the type of an entity, alone or with the names under which a module
imports or exports it. -/
inductive Descriptor where
  | entity (type : EntityType)
  | imported (type : ImportType)
  | exported (type : ExportType)
  deriving DecidableEq

namespace Descriptor

def json : Descriptor → Json
  | .entity t => t.json
  | .imported i => i.json
  | .exported e => e.json

def text (d : Descriptor) : String := d.json.compact

def type : Descriptor → EntityType
  | .entity t => t
  | .imported i => i.type
  | .exported e => e.type

def InRange (d : Descriptor) : Prop := d.type.InRange

/-- The members tell which of the three it is. -/
def ofJson? (j : Json) : Option Descriptor :=
  if (j.member? "kind").isSome then (EntityType.ofJson? j).map .entity
  else if (j.member? "module").isSome then (ImportType.ofJson? j).map .imported
  else (ExportType.ofJson? j).map .exported

lemma ofJson?_json (d : Descriptor) : ofJson? d.json = some d := by
  cases d with
  | entity t =>
    have hkind : (t.json.member? "kind").isSome = true := by cases t <;> rfl
    simp [ofJson?, json, hkind]
  | imported i =>
    have hkind : (i.json.member? "kind").isSome = false := rfl
    have hmodule : (i.json.member? "module").isSome = true := rfl
    simp [ofJson?, json, hkind, hmodule, i.ofJson?_json]
  | exported e =>
    have hkind : (e.json.member? "kind").isSome = false := rfl
    have hmodule : (e.json.member? "module").isSome = false := rfl
    simp [ofJson?, json, hkind, hmodule, e.ofJson?_json]

lemma fits_json {d : Descriptor} (hd : d.InRange) : d.json.Fits := by
  have htype : d.type.json.Fits := EntityType.fits_json hd
  cases d with
  | entity t => exact htype
  | imported i => simpa [json, ImportType.json, type] using htype
  | exported e => simpa [json, ExportType.json, type] using htype

lemma ofText?_text {d : Descriptor} (hd : d.InRange) : Json.ofText? d.text = some d.json :=
  Json.ofText?_compact (fits_json hd)

/-- Nothing is lost where descriptors are written. -/
structure Lossless : Prop where
  entity (t : EntityType) (ht : t.InRange) :
    (Json.ofText? (Descriptor.entity t).text).bind EntityType.ofJson? = some t
  imported (i : ImportType) (hi : i.type.InRange) :
    (Json.ofText? (Descriptor.imported i).text).bind ImportType.ofJson? = some i
  exported (e : ExportType) (he : e.type.InRange) :
    (Json.ofText? (Descriptor.exported e).text).bind ExportType.ofJson? = some e
  /-- A text is that of one descriptor at most, whether it is a type, an import or an export. -/
  apart (d e : Descriptor) (hd : d.InRange) (he : e.InRange) (h : d.text = e.text) : d = e

/-- **The text of a descriptor is read back** as what was written. -/
theorem read_back : Lossless where
  entity t ht := by
    rw [ofText?_text (d := .entity t) ht]
    exact t.ofJson?_json
  imported i hi := by
    rw [ofText?_text (d := .imported i) hi]
    exact i.ofJson?_json
  exported e he := by
    rw [ofText?_text (d := .exported e) he]
    exact e.ofJson?_json
  apart d e hd he h := by
    have hjson : d.json = e.json :=
      Option.some.inj ((ofText?_text hd).symm.trans (h ▸ ofText?_text he))
    exact Option.some.inj ((ofJson?_json d).symm.trans (hjson ▸ ofJson?_json e))

/-- A memory of any size under a name with a quote, a backslash and a control character. -/
def oddImport : ImportType := ⟨"", "\"\\\x01é", .memory ⟨0, some (2 ^ 64 - 1), false, true⟩⟩

theorem odd_import_comes_back :
    oddImport.type.InRange ∧
      (Json.ofText? (Descriptor.imported oddImport).text).bind ImportType.ofJson? = some oddImport := by
  have hrange : oddImport.type.InRange := by
    refine ⟨by decide, fun m hm => ?_⟩
    cases hm
    decide
  exact ⟨hrange, read_back.imported oddImport hrange⟩

end Descriptor

end Embedder
