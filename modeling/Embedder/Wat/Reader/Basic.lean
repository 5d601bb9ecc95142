import Embedder.Wat.Syntax
import Embedder.Wat.Token

/-!
Reading tokens from the first one on.

* `Wat.Reading`: a step that takes tokens off the front or fails at a place of the text;
* `Wat.parens`, `Wat.repeatWhile`, `Wat.untilClosing`: how steps are put together;
* numbers, strings, names and uses of entities.
-/

namespace Embedder.Wat

/-- The types and the entities of each space that are declared so far. -/
structure Counts where
  types : Nat
  functions : Nat
  tables : Nat
  memories : Nat
  globals : Nat
  tags : Nat

/-- The tokens left, and how much is declared so far. -/
structure State where
  tokens : List Placed
  counts : Counts

def State.ofTokens (tokens : List Placed) : State := ⟨tokens, ⟨0, 0, 0, 0, 0, 0⟩⟩

/-- A step of reading; it fails with the offset of a token. -/
abbrev Reading := StateT State (Except Nat)

/-! ### Tokens -/

/-- A token that can be looked at. Where the text stops being made of words reading fails as soon
as it comes there. -/
def Placed.look (t : Placed) : Reading Placed := fun s =>
  if t.token = .malformed then .error t.offset else .ok (t, s)

/-- The next token and its place. -/
def placed : Reading Placed := fun s =>
  match s.tokens with
  | t :: _ => t.look s
  | [] => .error 0

def peek : Reading Token := do return (← placed).token

/-- The token behind the next one. -/
def ahead : Reading Token := do
  match (← get).tokens with
  | _ :: t :: _ => return (← t.look).token
  | _ => return .ended

/-- Drops the next token; the last one stays. -/
def advance : Reading Unit := fun s =>
  match s.tokens with
  | _ :: t :: ts => .ok ((), { s with tokens := t :: ts })
  | _ => .ok ((), s)

def failAt {α : Type} (offset : Nat) : Reading α := fun _ => .error offset

/-- Fails at the next token. -/
def fail {α : Type} : Reading α := do failAt (← placed).offset

def expect (t : Token) : Reading Unit := do
  if (← peek) = t then advance else fail

def isKeyword (w : String) : Reading Bool := do return (← peek) = .keyword w

/-- Takes the keyword if it is next. -/
def takeKeyword (w : String) : Reading Bool := do
  if ← isKeyword w then
    advance
    return true
  else return false

def expectKeyword (w : String) : Reading Unit := expect (.keyword w)

/-- The token behind the next one is one of these keywords. -/
def aheadIs (ws : List String) : Reading Bool := do
  match ← ahead with
  | .keyword w => return ws.contains w
  | _ => return false

/-- A bracket is next and the token behind it is this one. -/
def opens (t : Token) : Reading Bool := do
  if (← peek) = .opening then return (← ahead) = t else return false

/-- Nothing is left of the list that is being read. -/
def isEmpty : Reading Bool := do
  match ← peek with
  | .closing | .ended => return true
  | _ => return false

/-! ### Combinations -/

/-- Something in brackets. -/
def parens {α : Type} (p : Reading α) : Reading α := do
  expect .opening
  let a ← p
  expect .closing
  return a

def repeated {α : Type} (test : Reading Bool) (p : Reading α) : (rounds : Nat) → Reading (List α)
  | 0 => return []
  | rounds + 1 => do
    if ← test then
      let a ← p
      let as ← repeated test p rounds
      return a :: as
    else return []

/-- Repeats a step, which takes a token at least, as long as the test holds. -/
def repeatWhile {α : Type} (test : Reading Bool) (p : Reading α) : Reading (List α) := fun s =>
  repeated test p s.tokens.length s

/-- Repeats a step up to the end of the list that is being read. -/
def untilClosing {α : Type} (p : Reading α) : Reading (List α) :=
  repeatWhile (do return !(← isEmpty)) p

/-! ### Numbers -/

/-- A natural number below `2 ^ width`. -/
def natural (width : Nat) : Reading Nat := do
  match ← peek with
  | .number (.integer false n) =>
    if n < 2 ^ width then
      advance
      return n
    else fail
  | _ => fail

/-- The bits of an integer with or without a sign. -/
def integer (width : Nat) : Reading Nat := do
  match ← peek with
  | .number n =>
    match n.intBits? width with
    | some bits =>
      advance
      return bits
    | none => fail
  | _ => fail

def float (format : FloatFormat) : Reading Nat := do
  match ← peek with
  | .number n =>
    match n.floatBits? format with
    | some bits =>
      advance
      return bits
    | none => fail
  | _ => fail

def isInteger : Reading Bool := do
  match ← peek with
  | .number (.integer _ _) => return true
  | _ => return false

/-! ### Strings and names -/

def isString : Reading Bool := do
  match ← peek with
  | .string _ => return true
  | _ => return false

def bytes : Reading (List UInt8) := do
  match ← peek with
  | .string bs =>
    advance
    return bs
  | _ => fail

/-- A string that is UTF-8. -/
def text : Reading String := do
  match ← peek with
  | .string bs =>
    match String.fromUTF8? ⟨bs.toArray⟩ with
    | some s =>
      advance
      return s
    | none => fail
  | _ => fail

def name? : Reading (Option Name) := do
  match ← placed with
  | ⟨.identifier s, offset⟩ =>
    advance
    return some ⟨s, offset⟩
  | _ => return none

/-- A name and the annotation that shows another. -/
def label : Reading Label := do
  let name ← name?
  if ← opens (.note "name") then
    let shown ← parens do
      expect (.note "name")
      text
    return ⟨name, some shown⟩
  else return ⟨name, none⟩

def isRef : Reading Bool := do
  match ← peek with
  | .identifier _ => return true
  | _ => isInteger

def ref : Reading Ref := do
  let offset := (← placed).offset
  match ← name? with
  | some n => return .name n
  | none => return .number (← natural 32) offset

def ref? : Reading (Option Ref) := do
  if ← isRef then some <$> ref else return none

/-- The entity with the number 0, meant where the text names none. -/
def Ref.zero : Ref := .number 0 0

end Embedder.Wat
