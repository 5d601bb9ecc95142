/-!
Places in a text, as people count them: the line and the column of a byte, both from 1.
-/

namespace Embedder.Text

structure Position where
  line : Nat
  column : Nat
  deriving DecidableEq

namespace Position

def text (p : Position) : String := s!"{p.line}:{p.column}"

/-- Walks to the byte at `offset` of the line that is `line` lines below the first one. The place
behind a text that ends its last line is the start of the next line. -/
def within : List (List Char) → (line : Nat) → (offset : Nat) → Position
  | [], line, _ => ⟨line + 1, 1⟩
  | [] :: [], line, _ => ⟨line + 1, 1⟩
  | cs :: rest, line, offset =>
    let size := cs.foldl (fun n c => n + c.utf8Size) 0
    if offset ≤ size then ⟨line + 1, offset + 1⟩ else within rest (line + 1) (offset - size - 1)

/-- The place of the byte at `offset`. -/
def ofOffset (s : String) (offset : Nat) : Position := within (s.toList.splitOn '\n') 0 offset

end Position

end Embedder.Text
