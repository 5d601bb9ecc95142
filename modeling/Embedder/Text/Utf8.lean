/-!
Reading bytes as UTF-8. `decodeLossy` never fails: each longest run of bytes that starts a
character and cannot go on, or starts none, is read as the replacement character.
-/

namespace Embedder.Text.Utf8

def replacement : Char := Char.ofNat 0xFFFD

/-- What a first byte asks for: the number of bytes that follow, and the range of the first of
them, which is narrower than that of the others where a form would be overlong, a surrogate or
past the last character. -/
def leadByte (b : UInt8) : Option (Nat × UInt8 × UInt8) :=
  if b < 0x80 then some (0, 0x80, 0xBF)
  else if b < 0xC2 then none
  else if b < 0xE0 then some (1, 0x80, 0xBF)
  else if b = 0xE0 then some (2, 0xA0, 0xBF)
  else if b = 0xED then some (2, 0x80, 0x9F)
  else if b < 0xF0 then some (2, 0x80, 0xBF)
  else if b = 0xF0 then some (3, 0x90, 0xBF)
  else if b < 0xF4 then some (3, 0x80, 0xBF)
  else if b = 0xF4 then some (3, 0x80, 0x8F)
  else none

/-- The payload bits of a first byte that announces `more` bytes. -/
def leadBits (more : Nat) (b : UInt8) : Nat :=
  match more with
  | 0 => b.toNat
  | 1 => b.toNat % 32
  | 2 => b.toNat % 16
  | _ => b.toNat % 8

/-- The decoder between two bytes: a character of which `more` bytes are missing, the next of
them within `low` and `high`. -/
structure Pending where
  more : Nat
  low : UInt8
  high : UInt8
  code : Nat

/-- Starts a character with the byte `b`. -/
def start (b : UInt8) : List Char × Option Pending :=
  match leadByte b with
  | none => ([replacement], none)
  | some (0, _, _) => ([Char.ofNat b.toNat], none)
  | some (more, low, high) => ([], some ⟨more, low, high, leadBits more b⟩)

/-- Takes the byte `b` in the given state: the characters that it completes and the next state. -/
def step (state : Option Pending) (b : UInt8) : List Char × Option Pending :=
  match state with
  | none => start b
  | some p =>
    if p.low ≤ b && b ≤ p.high then
      let code := p.code * 64 + b.toNat % 64
      if p.more ≤ 1 then ([Char.ofNat code], none)
      else ([], some ⟨p.more - 1, 0x80, 0xBF, code⟩)
    else
      let (cs, next) := start b
      (replacement :: cs, next)

/-- A character left unfinished at the end is replaced too. -/
def decodeLossy (bytes : List UInt8) : String :=
  let (cs, state) := bytes.foldl
    (fun (cs, state) b =>
      let (done, next) := step state b
      (cs ++ done, next))
    ((#[] : Array Char), none)
  String.ofList (cs.toList ++ if state.isSome then [replacement] else [])

/-- The text of bytes that are valid UTF-8. -/
def decode? (bytes : ByteArray) : Option String := String.fromUTF8? bytes

end Embedder.Text.Utf8
