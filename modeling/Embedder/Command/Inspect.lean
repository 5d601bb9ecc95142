import Embedder.Command.Loading
import Embedder.Types.Json

/-!
Showing what a module imports and exports, in lines or as a JSON document.
-/

namespace Embedder.Command

def importLine (i : ImportType) : String :=
  "  " ++ i.module ++ "." ++ i.name ++ ": " ++ i.type.text ++ "\n"

def exportLine (e : ExportType) : String := "  " ++ e.name ++ ": " ++ e.type.text ++ "\n"

/-- Lines under a heading; without any lines there is no heading. -/
def listed (heading : String) : List String → String
  | [] => ""
  | lines => heading ++ ":\n" ++ String.join lines

/-- A name before a value, if there is one. -/
def labelled (label : String) : Option String → String
  | none => ""
  | some s => label ++ ": " ++ s ++ "\n"

def description (m : Module) : String :=
  labelled "module" m.name ++ labelled "wasi" ((version? m).map Wasi.Version.text) ++
    listed "imports" (m.imports.map importLine) ++ listed "exports" (m.exports.map exportLine)

def textOrNull : Option String → Json
  | none => .null
  | some s => .str s

/-- The description as a document, with all members in the order of their names. -/
def document (m : Module) : Json :=
  Json.sorted (.obj
    [("name", textOrNull m.name), ("wasi", textOrNull ((version? m).map Wasi.Version.text)),
      ("imports", .arr (m.imports.map ImportType.json)),
      ("exports", .arr (m.exports.map ExportType.json))])

/-- What is printed for a module. -/
def inspectFile (fs : FileSystem) (file : String) (json : Bool) : Except Failure String :=
  match loadModule fs (.standard engineNumber) file with
  | .error f => .error f
  | .ok m => .ok (if json then (document m).pretty ++ "\n" else description m)

end Embedder.Command
