import Embedder.Text.Position
import Embedder.Wat.Reader.Fields
import Embedder.Wat.Resolution

/-!
From text to binary.

* `Wat.assemble`: the binary that a text describes;
* `Wat.toBinary`: bytes that are a binary already stay as they are, all others are text.

The fields of components are a format of their own, and no component is ever accepted as a module.
`Wat.assembleWith` and `Wat.toBinaryWith` take that format as an argument. Without one the only
component that is read in fields has none.
-/

namespace Embedder.Wat

/-- Why a text is not a module: it goes wrong at a place, or it is not even text. -/
inductive AssemblyError where
  | malformed (place : Text.Position)
  | notText
  deriving DecidableEq

/-- The header of a component, which is no module. -/
def componentHeader : List UInt8 := Binary.magic ++ [0x0D, 0x00, 0x01, 0x00]

/-- The binary of a document, or the offset of its first fault. -/
def Document.bytes : Document → Except Nat (List UInt8)
  | .fields l fs => Sections.bytes <$> resolve l fs
  | .binary bytes => .ok bytes
  | .component sections => .ok (componentHeader ++ sections)

/-- The binary that a text describes. -/
def assembleWith (c : ComponentFormat) (text : String) : Except AssemblyError (List UInt8) :=
  let located := fun offset => AssemblyError.malformed (.ofOffset text offset)
  match document c (.ofTokens (tokens text)) with
  | .error offset => .error (located offset)
  | .ok (d, _) =>
    match d.bytes with
    | .error offset => .error (located offset)
    | .ok bytes => .ok bytes

/-- The binary that bytes are or describe. -/
def toBinaryWith (c : ComponentFormat) (bytes : List UInt8) : Except AssemblyError (List UInt8) :=
  if Binary.isBinary bytes then .ok bytes
  else
    match String.fromUTF8? ⟨bytes.toArray⟩ with
    | some text => assembleWith c text
    | none => .error .notText

def assemble (text : String) : Except AssemblyError (List UInt8) := assembleWith .empty text

def toBinary (bytes : List UInt8) : Except AssemblyError (List UInt8) := toBinaryWith .empty bytes

end Embedder.Wat
