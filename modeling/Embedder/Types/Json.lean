import Embedder.Types.Text
import Embedder.Json

/-!
Descriptors as JSON: an entity's type is an object whose first member names its kind.
-/

namespace Embedder

def ValueType.json (t : ValueType) : Json := .str t.text

/-- A bound that may be missing. -/
def boundJson : Option Nat → Json
  | none => .null
  | some n => .nat n

def EntityType.json : EntityType → Json
  | .function t => .obj
      [("kind", .str "function"), ("params", .arr (t.params.map ValueType.json)),
        ("results", .arr (t.results.map ValueType.json))]
  | .memory t => .obj
      [("kind", .str "memory"), ("minimum", .nat t.minimum), ("maximum", boundJson t.maximum),
        ("shared", .bool t.shared), ("memory64", .bool t.memory64)]
  | .global t => .obj
      [("kind", .str "global"), ("type", t.value.json), ("mutable", .bool t.mutable)]
  | .table t => .obj
      [("kind", .str "table"), ("type", t.element.json), ("minimum", .nat t.minimum),
        ("maximum", boundJson t.maximum)]

def ImportType.json (i : ImportType) : Json :=
  .obj [("module", .str i.module), ("name", .str i.name), ("type", i.type.json)]

def ExportType.json (e : ExportType) : Json :=
  .obj [("name", .str e.name), ("type", e.type.json)]

end Embedder
