import Embedder.Types
import Embedder.Text.Quoted

/-!
Types as text: the notation of error messages and listings (`text`), and the notation that shows
every field by name (`inspect`).
-/

namespace Embedder

/-- Texts joined by a comma and a blank. -/
def commaSeparated : List String → String
  | [] => ""
  | [s] => s
  | s :: t :: rest => s ++ ", " ++ commaSeparated (t :: rest)

namespace ValueType

def text : ValueType → String
  | .i32 => "i32"
  | .i64 => "i64"
  | .f32 => "f32"
  | .f64 => "f64"
  | .v128 => "v128"
  | .externref => "externref"
  | .funcref => "funcref"

def ofText? (s : String) : Option ValueType := all.find? fun t => t.text == s

def inspect : ValueType → String
  | .i32 => "I32"
  | .i64 => "I64"
  | .f32 => "F32"
  | .f64 => "F64"
  | .v128 => "V128"
  | .externref => "ExternRef"
  | .funcref => "FuncRef"

end ValueType

/-! ### Notation of messages -/

namespace FunctionType

def text (t : FunctionType) : String :=
  "(" ++ commaSeparated (t.params.map ValueType.text) ++ ") -> (" ++
    commaSeparated (t.results.map ValueType.text) ++ ")"

end FunctionType

/-- The minimum and, after a blank, the maximum if there is one. -/
def Limits.text (l : Limits) : String :=
  toString l.minimum ++
    match l.maximum with
    | some m => " " ++ toString m
    | none => ""

namespace MemoryType

def text (t : MemoryType) : String :=
  "memory " ++ t.limits.text ++ if t.shared then " shared" else ""

end MemoryType

namespace GlobalType

def text (t : GlobalType) : String :=
  if t.mutable then "global (mut " ++ t.value.text ++ ")" else "global " ++ t.value.text

end GlobalType

namespace TableType

def text (t : TableType) : String := "table " ++ t.limits.text ++ " " ++ t.element.text

end TableType

namespace Kind

def text : Kind → String
  | .function => "function"
  | .memory => "memory"
  | .global => "global"
  | .table => "table"

def ofText? (s : String) : Option Kind :=
  [Kind.function, .memory, .global, .table].find? fun k => k.text == s

end Kind

namespace EntityType

def text : EntityType → String
  | .function t => "func " ++ t.text
  | .memory t => t.text
  | .global t => t.text
  | .table t => t.text

end EntityType

/-! ### Notation that names every field -/

namespace Inspect

def list (items : List String) : String := "[" ++ commaSeparated items ++ "]"

def pair (a b : String) : String := "(" ++ a ++ ", " ++ b ++ ")"

def fields (fs : List (String × String)) : String :=
  commaSeparated (fs.map fun (name, value) => name ++ ": " ++ value)

def record (name : String) (fs : List (String × String)) : String :=
  name ++ " \x7b " ++ fields fs ++ " \x7d"

/-- A record that shows only some of its fields. -/
def partialRecord (name : String) (fs : List (String × String)) : String :=
  name ++ " \x7b " ++ fields fs ++ ", .. \x7d"

def variant (name payload : String) : String := name ++ "(" ++ payload ++ ")"

def optional (o : Option String) : String :=
  match o with
  | none => "None"
  | some s => variant "Some" s

def flag (b : Bool) : String := if b then "true" else "false"

def text (s : String) : String := Text.Quoted.quote s

end Inspect

open Inspect

namespace FunctionType

def inspect (t : FunctionType) : String :=
  record "FunctionType"
    [("params", list (t.params.map ValueType.inspect)),
      ("results", list (t.results.map ValueType.inspect))]

end FunctionType

namespace MemoryType

def inspect (t : MemoryType) : String :=
  record "MemoryType"
    [("minimum", toString t.minimum), ("maximum", optional (t.maximum.map toString)),
      ("shared", flag t.shared), ("memory64", flag t.memory64)]

end MemoryType

namespace GlobalType

def inspect (t : GlobalType) : String :=
  record "GlobalType" [("ty", t.value.inspect), ("mutable", flag t.mutable)]

end GlobalType

namespace TableType

def inspect (t : TableType) : String :=
  record "TableType"
    [("ty", t.element.inspect), ("minimum", toString t.minimum),
      ("maximum", optional (t.maximum.map toString))]

end TableType

namespace EntityType

def inspect : EntityType → String
  | .function t => variant "Function" t.inspect
  | .memory t => variant "Memory" t.inspect
  | .global t => variant "Global" t.inspect
  | .table t => variant "Table" t.inspect

end EntityType

namespace ImportType

def inspect (i : ImportType) : String :=
  record "ImportType"
    [("module", Inspect.text i.module), ("name", Inspect.text i.name), ("ty", i.type.inspect)]

end ImportType

namespace ExportType

def inspect (e : ExportType) : String :=
  record "ExportType" [("name", Inspect.text e.name), ("ty", e.type.inspect)]

end ExportType

end Embedder
