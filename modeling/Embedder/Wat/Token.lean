import Embedder.Wat.Number

/-!
The words of the text format and their places.

* `Wat.Token`, `Wat.Placed`: a word, and a word with the offset of its first byte;
* `Wat.tokens`: the words of a text, without blanks, comments and unknown annotations.

The list of tokens always ends with `ended`, or with `malformed` where the text stops being made
of words; a reader that needs a word there fails there.
-/

namespace Embedder.Wat

inductive Token where
  | opening
  | closing
  | note (name : String)
  | string (bytes : List UInt8)
  | identifier (name : String)
  | keyword (word : String)
  | number (n : Number)
  | reserved
  | malformed
  | ended
  deriving DecidableEq

structure Placed where
  token : Token
  offset : Nat
  deriving DecidableEq

/-! ### Characters -/

/-- The characters of words. -/
def isWordChar (c : Char) : Bool :=
  c.isAlphanum || "!#$%&'*+-./:<=>?@\\^_\x60|~".toList.contains c

def isBlank (c : Char) : Bool := c == ' ' || c == '\n' || c == '\r' || c == '\t'

/-- Characters that change the direction of the text around them, which no text may hold. -/
def isDirectional (c : Char) : Bool :=
  let n := c.toNat
  (0x202A ≤ n && n ≤ 0x202E && n != 0x202C) || (0x2066 ≤ n && n ≤ 0x2069) || n == 0x206C

/-! ### Strings -/

/-- Where a string is between two characters. -/
inductive StringState where
  | plain
  | escape
  | byte (high : Nat)
  | brace
  | firstDigit
  | digits (n : Nat) (underscore : Bool)

/-- A part of the text that has been read, and the place behind it. -/
structure Read (α : Type) where
  value : α
  rest : List Char
  offset : Nat

/-- The byte that a character stands for behind a backslash. -/
def escaped? (c : Char) : Option UInt8 :=
  match c with
  | '"' => some 0x22
  | '\'' => some 0x27
  | 't' => some 0x09
  | 'n' => some 0x0A
  | 'r' => some 0x0D
  | '\\' => some 0x5C
  | _ => none

/-- The bytes of the character with the given number, if there is one. -/
def scalar? (n : Nat) : Option (List UInt8) :=
  if n.isValidChar then some (String.utf8EncodeChar (Char.ofNat n)) else none

/-- The bytes of a string behind its opening quote, or the place where it goes wrong. -/
def stringBody :
    List Char → (offset : Nat) → StringState → Array UInt8 → Except Nat (Read (List UInt8))
  | [], offset, _, _ => .error offset
  | c :: cs, offset, state, bytes =>
    let next := offset + c.utf8Size
    match state with
    | .plain =>
      if c = '"' then .ok ⟨bytes.toList, cs, next⟩
      else if c = '\\' then stringBody cs next .escape bytes
      else if c.toNat < 0x20 ∨ c.toNat = 0x7F ∨ isDirectional c then .error offset
      else stringBody cs next .plain (bytes ++ (String.utf8EncodeChar c).toArray)
    | .escape =>
      match escaped? c with
      | some b => stringBody cs next .plain (bytes.push b)
      | none =>
        if c = 'u' then stringBody cs next .brace bytes
        else
          match hexDigit? c with
          | some d => stringBody cs next (.byte d) bytes
          | none => .error offset
    | .byte high =>
      match hexDigit? c with
      | some d => stringBody cs next .plain (bytes.push (UInt8.ofNat (16 * high + d)))
      | none => .error offset
    | .brace => if c = '\x7b' then stringBody cs next .firstDigit bytes else .error offset
    | .firstDigit =>
      match hexDigit? c with
      | some d => stringBody cs next (.digits d false) bytes
      | none => .error offset
    | .digits n underscore =>
      if c = '_' then stringBody cs next (.digits n true) bytes
      else
        match hexDigit? c with
        | some d =>
          if 16 * n + d < 2 ^ 32 then stringBody cs next (.digits (16 * n + d) false) bytes
          else .error offset
        | none =>
          match scalar? n with
          | some bs =>
            if underscore then .error (offset - 1)
            else if c = '\x7d' then stringBody cs next .plain (bytes ++ bs.toArray)
            else .error offset
          | none => .error (offset - 1)

/-! ### Words -/

/-- A run of word characters and strings: the characters and the strings apart. -/
structure Word where
  letters : List Char
  strings : List (List UInt8)

/-- The longest run of word characters and strings. -/
def word : (rounds : Nat) → List Char → (offset : Nat) → Word → Except Nat (Read Word)
  | 0, cs, offset, w => .ok ⟨w, cs, offset⟩
  | rounds + 1, cs, offset, w =>
    match cs with
    | '"' :: rest =>
      match stringBody rest (offset + 1) .plain #[] with
      | .error place => .error place
      | .ok r => word rounds r.rest r.offset { w with strings := w.strings ++ [r.value] }
    | cs =>
      let run := cs.takeWhile isWordChar
      if run.isEmpty then .ok ⟨w, cs, offset⟩
      else
        word rounds (cs.dropWhile isWordChar) (offset + run.length)
          { w with letters := w.letters ++ run }

/-- The token of a run. -/
def Word.token (w : Word) : Token :=
  match w.letters, w.strings with
  | [], [s] => .string s
  | ['$'], [s] =>
    match String.fromUTF8? ⟨s.toArray⟩ with
    | some t => if t.isEmpty then .malformed else .identifier t
    | none => .malformed
  | cs, [] =>
    match Number.ofChars? cs, cs with
    | some n, _ => .number n
    | none, '$' :: d :: ds => .identifier (String.ofList (d :: ds))
    | none, c :: _ => if c.isLower then .keyword (String.ofList cs) else .reserved
    | none, [] => .reserved
  | _, _ => .reserved

/-! ### Comments -/

/-- The rest of a line comment. -/
def lineComment : List Char → (offset : Nat) → Except Nat (Read Unit)
  | [], offset => .ok ⟨(), [], offset⟩
  | c :: cs, offset =>
    if c = '\n' ∨ c = '\r' then .ok ⟨(), c :: cs, offset⟩
    else if isDirectional c then .error offset
    else lineComment cs (offset + c.utf8Size)

/-- The rest of a block comment in which `depth` more comments are open; `start` is the place of
the outermost one. -/
def blockComment (start : Nat) :
    List Char → (offset depth : Nat) → Except Nat (Read Unit)
  | [], _, _ => .error start
  | '(' :: ';' :: cs, offset, depth => blockComment start cs (offset + 2) (depth + 1)
  | ';' :: ')' :: cs, offset, 0 => .ok ⟨(), cs, offset + 2⟩
  | ';' :: ')' :: cs, offset, depth + 1 => blockComment start cs (offset + 2) depth
  | c :: cs, offset, depth =>
    if isDirectional c then .error offset else blockComment start cs (offset + c.utf8Size) depth

/-! ### Texts -/

/-- The annotations that say something here; all others are skipped. -/
def knownAnnotations : List String :=
  ["custom", "name", "producers", "dylink.0", "metadata.code.branch_hint"]

/-- An unknown annotation that is being skipped: the number of brackets open in it and its place. -/
structure Skipped where
  depth : Nat
  offset : Nat

/-- What a list of tokens ends with when the text ends. -/
def Skipped.atEnd (skipped : Option Skipped) (offset : Nat) : Placed :=
  match skipped with
  | none => ⟨.ended, offset⟩
  | some s => ⟨.malformed, s.offset⟩

/-- The name of the annotation that a bracket opens, if it opens one. -/
def annotationName? (cs : List Char) : Option String :=
  match cs with
  | '@' :: rest =>
    let run := rest.takeWhile isWordChar
    if (rest.dropWhile isWordChar).head? = some '"' then none else some (String.ofList run)
  | _ => none

/-- Reads tokens up to the end; every round takes a character at least. `found` holds the tokens
before, the last one first. -/
def scan : (rounds : Nat) → List Char → (offset : Nat) → Option Skipped → List Placed → List Placed
  | 0, _, offset, _, found => (⟨.malformed, offset⟩ :: found).reverse
  | rounds + 1, cs, offset, skipped, found =>
    let keep := fun (t : Placed) => if skipped.isSome then found else t :: found
    match cs with
    | [] => (Skipped.atEnd skipped offset :: found).reverse
    | '(' :: ';' :: rest =>
      match blockComment offset rest (offset + 2) 0 with
      | .error place => (⟨.malformed, place⟩ :: found).reverse
      | .ok r => scan rounds r.rest r.offset skipped found
    | ';' :: ';' :: rest =>
      match lineComment rest (offset + 2) with
      | .error place => (⟨.malformed, place⟩ :: found).reverse
      | .ok r => scan rounds r.rest r.offset skipped found
    | '(' :: rest =>
      match skipped, annotationName? rest with
      | some s, _ => scan rounds rest (offset + 1) (some { s with depth := s.depth + 1 }) found
      | none, none => scan rounds rest (offset + 1) none (⟨.opening, offset⟩ :: found)
      | none, some name =>
        if knownAnnotations.contains name then
          scan rounds (rest.drop (name.length + 1)) (offset + name.length + 2) none
            (⟨.note name, offset + 1⟩ :: ⟨.opening, offset⟩ :: found)
        else scan rounds rest (offset + 1) (some ⟨0, offset + 1⟩) found
    | ')' :: rest =>
      match skipped with
      | none => scan rounds rest (offset + 1) none (⟨.closing, offset⟩ :: found)
      | some ⟨0, _⟩ => scan rounds rest (offset + 1) none found
      | some ⟨depth + 1, start⟩ => scan rounds rest (offset + 1) (some ⟨depth, start⟩) found
    | c :: rest =>
      if isBlank c then scan rounds rest (offset + 1) skipped found
      else if c = '"' ∨ isWordChar c then
        match word rounds cs offset ⟨[], []⟩ with
        | .error place => (⟨.malformed, place⟩ :: found).reverse
        | .ok r => scan rounds r.rest r.offset skipped (keep ⟨r.value.token, offset⟩)
      else if ";,[]\x7b\x7d".toList.contains c then
        scan rounds rest (offset + 1) skipped (keep ⟨.reserved, offset⟩)
      else (⟨.malformed, offset⟩ :: found).reverse

/-- The tokens of a text. -/
def tokens (s : String) : List Placed :=
  let cs := s.toList
  scan (cs.length + 1) cs 0 none []

end Embedder.Wat
