import Embedder.Decimal
import Embedder.FloatFormat.Arithmetic
import Embedder.FloatFormat.Decimal
import Embedder.Text.Quoted

/-!
Reading JSON text from a cursor that knows its line and column: blanks, words, strings and
numbers. A column counts the bytes of the current line that have been read.

* `Json.Fault`: what can be wrong with the text itself;
* `Json.Cursor`: the text still to be read, and the place reached;
* `Json.readString`, `Json.readNumber`, `Json.readWord`.
-/

namespace Embedder.Json

/-- What can be wrong with a JSON text. -/
inductive Fault where
  | endInList
  | endInObject
  | endInString
  | endInValue
  | expectedColon
  | expectedListCommaOrEnd
  | expectedObjectCommaOrEnd
  | expectedWord
  | expectedValue
  | invalidEscape
  | invalidNumber
  | numberOutOfRange
  | controlCharacter
  | keyMustBeString
  | loneSurrogate
  | unfinishedSurrogate
  | trailingComma
  | trailingCharacters
  deriving DecidableEq

def Fault.text : Fault → String
  | .endInList => "EOF while parsing a list"
  | .endInObject => "EOF while parsing an object"
  | .endInString => "EOF while parsing a string"
  | .endInValue => "EOF while parsing a value"
  | .expectedColon => "expected `:`"
  | .expectedListCommaOrEnd => "expected `,` or `]`"
  | .expectedObjectCommaOrEnd => "expected `,` or `\x7d`"
  | .expectedWord => "expected ident"
  | .expectedValue => "expected value"
  | .invalidEscape => "invalid escape"
  | .invalidNumber => "invalid number"
  | .numberOutOfRange => "number out of range"
  | .controlCharacter => "control character (\\u0000-\\u001F) found while parsing a string"
  | .keyMustBeString => "key must be a string"
  | .loneSurrogate => "lone leading surrogate in hex escape"
  | .unfinishedSurrogate => "unexpected end of hex escape"
  | .trailingComma => "trailing comma"
  | .trailingCharacters => "trailing characters"

/-! ### Places -/

structure Position where
  line : Nat
  column : Nat
  deriving DecidableEq

/-- Past `bytes` bytes that begin with the character `c`. -/
def Position.past (p : Position) (c : Char) (bytes : Nat) : Position :=
  if c = '\n' then ⟨p.line + 1, 0⟩ else ⟨p.line, p.column + bytes⟩

structure Cursor where
  rest : List Char
  position : Position
  deriving DecidableEq

namespace Cursor

def ofString (s : String) : Cursor := ⟨s.toList, ⟨1, 0⟩⟩

/-- Past the next character. -/
def next (c : Cursor) : Cursor :=
  match c.rest with
  | [] => c
  | x :: xs => ⟨xs, c.position.past x x.utf8Size⟩

/-- The place just past the next byte: where a fault in the next character is reported. -/
def nextBytePosition (c : Cursor) : Position :=
  match c.rest with
  | [] => c.position
  | x :: _ => c.position.past x 1

/-- The place past the next `bytes` bytes, within a character if they end there. -/
def positionAfter (c : Cursor) (bytes : Nat) : Position :=
  go c.rest c.position bytes
where
  go : List Char → Position → Nat → Position
    | [], p, _ => p
    | x :: xs, p, n =>
      if n = 0 then p
      else if n ≤ x.utf8Size then p.past x n
      else go xs (p.past x x.utf8Size) (n - x.utf8Size)

/-- The place at the end of the text. -/
def endPosition (c : Cursor) : Position :=
  c.rest.foldl (fun p x => p.past x x.utf8Size) c.position

def isBlank (x : Char) : Bool := x == ' ' || x == '\n' || x == '\t' || x == '\r'

def skipBlanks (c : Cursor) : Cursor :=
  go c.rest c.position
where
  go : List Char → Position → Cursor
    | [], p => ⟨[], p⟩
    | x :: xs, p => if isBlank x then go xs (p.past x 1) else ⟨x :: xs, p⟩

end Cursor

/-- Reading fails with a fault and its place. -/
abbrev Reading := Except (Fault × Position)

def faultAt {α : Type} (fault : Fault) (p : Position) : Reading α := .error (fault, p)

/-! ### Words -/

/-- Reads the characters of `word`, which the text must continue with. -/
def readWord : List Char → Cursor → Reading (Unit × Cursor)
  | [], c => .ok ((), c)
  | w :: ws, c =>
    match c.rest with
    | [] => faultAt .endInValue c.position
    | x :: _ => if x = w then readWord ws c.next else faultAt .expectedWord c.nextBytePosition

/-! ### Strings -/

def hexValue? (x : Char) : Option Nat :=
  if x.isDigit then some (x.toNat - '0'.toNat)
  else if 'a' ≤ x ∧ x ≤ 'f' then some (x.toNat - 'a'.toNat + 10)
  else if 'A' ≤ x ∧ x ≤ 'F' then some (x.toNat - 'A'.toNat + 10)
  else none

/-- Four hexadecimal digits. Four bytes are taken at once, also when they are not digits. -/
def readHex4 (c : Cursor) : Reading (Nat × Cursor) :=
  if (String.ofList (c.rest.take 4)).utf8ByteSize < 4 then faultAt .endInString c.endPosition
  else
    match c.rest with
    | w :: x :: y :: z :: _ =>
      match hexValue? w, hexValue? x, hexValue? y, hexValue? z with
      | some w, some x, some y, some z =>
        .ok (((w * 16 + x) * 16 + y) * 16 + z, c.next.next.next.next)
      | _, _, _, _ => faultAt .invalidEscape (c.positionAfter 4)
    | _ => faultAt .invalidEscape (c.positionAfter 4)

def isLeadSurrogate (n : Nat) : Bool := decide (0xD800 ≤ n) && decide (n ≤ 0xDBFF)

def isTrailSurrogate (n : Nat) : Bool := decide (0xDC00 ≤ n) && decide (n ≤ 0xDFFF)

/-- The character `x`, which has to come next. -/
def expectInSurrogate (x : Char) (c : Cursor) : Reading (Unit × Cursor) :=
  match c.rest with
  | [] => faultAt .endInString c.position
  | y :: _ => if y = x then .ok ((), c.next) else faultAt .unfinishedSurrogate c.nextBytePosition

/-- A character by its number, after the letter `u`: one unit, or a pair of surrogates. -/
def readNumberedChar (c : Cursor) : Reading (Char × Cursor) := do
  let (n, c) ← readHex4 c
  if isTrailSurrogate n then faultAt .loneSurrogate c.position
  else if !isLeadSurrogate n then .ok (Char.ofNat n, c)
  else
    let ((), c) ← expectInSurrogate '\\' c
    let ((), c) ← expectInSurrogate 'u' c
    let (m, c) ← readHex4 c
    if isTrailSurrogate m then
      .ok (Char.ofNat ((n - 0xD800) * 0x400 + (m - 0xDC00) + 0x10000), c)
    else faultAt .loneSurrogate c.position

/-- What follows a backslash. -/
def readEscape (c : Cursor) : Reading (Char × Cursor) :=
  match c.rest with
  | [] => faultAt .endInString c.position
  | x :: _ =>
    match x with
    | '"' | '\\' | '/' => .ok (x, c.next)
    | 'b' => .ok ('\x08', c.next)
    | 'f' => .ok ('\x0c', c.next)
    | 'n' => .ok ('\n', c.next)
    | 'r' => .ok ('\r', c.next)
    | 't' => .ok ('\t', c.next)
    | 'u' => readNumberedChar c.next
    | _ => faultAt .invalidEscape c.nextBytePosition

/-- The rest of a string whose opening quote has been read. Every character read is one of the
text's, so the length of the text bounds the number of rounds. -/
def readStringFrom : (rounds : Nat) → Cursor → (acc : List Char) → Reading (String × Cursor)
  | 0, c, _ => faultAt .endInString c.position
  | rounds + 1, c, acc =>
    match c.rest with
    | [] => faultAt .endInString c.position
    | '"' :: _ => .ok (String.ofList acc.reverse, c.next)
    | '\\' :: _ => do
      let (x, c) ← readEscape c.next
      readStringFrom rounds c (x :: acc)
    | x :: _ =>
      if x.toNat < 0x20 then faultAt .controlCharacter c.nextBytePosition
      else readStringFrom rounds c.next (x :: acc)

/-- The rest of a string whose opening quote has been read. -/
def readString (c : Cursor) : Reading (String × Cursor) := readStringFrom (c.rest.length + 1) c []

/-! ### Numbers -/

/-- A number as it is handed on: an integer of 64 bits, or a binary64 pattern. -/
inductive Number where
  | unsigned (n : Nat)
  | negative (n : Int)
  | float (bits : Nat)
  deriving DecidableEq

/-- The largest integer kept as such; digits beyond it only scale the number. -/
def integerRange : Nat := 2 ^ 64

/-- The largest power of ten by which a number is scaled in one step. -/
def largestPower : Nat := 308

/-- The pattern of `10 ^ k`. -/
def powerOfTen (k : Nat) : Nat := FloatFormat.binary64.ofDecimal false 1 k

/-- Scales a pattern by `10 ^ e` with one rounding a step; nothing is left after three steps
down. -/
def scale (rounds : Nat) (bits : Nat) (e : Int) : Option Nat :=
  let f := FloatFormat.binary64
  if e.natAbs ≤ largestPower then
    if 0 ≤ e then
      let product := f.mul bits (powerOfTen e.toNat)
      if f.isInfinite product then none else some product
    else some (f.div bits (powerOfTen e.natAbs))
  else if f.isZero bits then some bits
  else if 0 ≤ e then none
  else
    match rounds with
    | 0 => some 0
    | rounds + 1 => scale rounds (f.div bits (powerOfTen largestPower)) (e + largestPower)

/-- The number of the digits read so far, scaled by `10 ^ e`. -/
def floatOf (positive : Bool) (significand : Nat) (e : Int) (c : Cursor) :
    Reading (Number × Cursor) :=
  let f := FloatFormat.binary64
  match scale 3 (f.ofInt significand) e with
  | none => faultAt .numberOutOfRange c.position
  | some bits => .ok (.float (f.withSign (!positive) bits), c)

def peek? (c : Cursor) : Option Char := c.rest.head?

def isDigitNext (c : Cursor) : Bool := (peek? c).any Char.isDigit

def digitValue (x : Char) : Nat := x.toNat - '0'.toNat

/-- Skips digits, and counts them. -/
def skipDigits (c : Cursor) : Nat × Cursor :=
  let n := (c.rest.takeWhile Char.isDigit).length
  (n, ⟨c.rest.drop n, ⟨c.position.line, c.position.column + n⟩⟩)

/-- Reads digits into a significand as long as it stays below `bound`. The count of the digits
read and whether one was left over are part of the answer. -/
def readDigits (bound : Nat) (significand : Nat) (c : Cursor) : Nat × Nat × Bool × Cursor :=
  go c.rest c.position significand 0
where
  go : List Char → Position → Nat → Nat → Nat × Nat × Bool × Cursor
    | [], p, s, n => (s, n, false, ⟨[], p⟩)
    | x :: xs, p, s, n =>
      if x.isDigit then
        let s' := s * 10 + digitValue x
        if s' < bound then go xs (p.past x 1) s' (n + 1) else (s, n, true, ⟨x :: xs, p⟩)
      else (s, n, false, ⟨x :: xs, p⟩)

/-- The exponent, from its letter on. -/
def readExponent (positive : Bool) (significand : Nat) (start : Int) (c : Cursor) :
    Reading (Number × Cursor) :=
  let c := c.next
  let (up, c) := match peek? c with
    | some '+' => (true, c.next)
    | some '-' => (false, c.next)
    | _ => (true, c)
  match peek? c with
  | none => faultAt .endInValue c.position
  | some x =>
    if !x.isDigit then faultAt .invalidNumber c.nextBytePosition
    else
      let (e, _, more, c) := readDigits (2 ^ 31) 0 c
      if more then
        if significand ≠ 0 ∧ up then faultAt .numberOutOfRange c.next.position
        else
          let (_, c) := skipDigits c
          .ok (.float (FloatFormat.binary64.withSign (!positive) 0), c)
      else floatOf positive significand (if up then start + e else start - e) c

def exponentOrEnd (positive : Bool) (significand : Nat) (e : Int) (c : Cursor) :
    Reading (Number × Cursor) :=
  match peek? c with
  | some 'e' | some 'E' => readExponent positive significand e c
  | _ => floatOf positive significand e c

/-- The digits after the point, from the point on. -/
def readFraction (positive : Bool) (significand : Nat) (e : Int) (c : Cursor) :
    Reading (Number × Cursor) :=
  let (s, n, more, c) := readDigits integerRange significand c.next
  if more then
    let (_, c) := skipDigits c
    exponentOrEnd positive s (e - n) c
  else if n = 0 then
    match peek? c with
    | some _ => faultAt .invalidNumber c.nextBytePosition
    | none => faultAt .endInValue c.position
  else exponentOrEnd positive s (e - n) c

/-- What follows the digits of a whole number that was read in full. -/
def afterInteger (positive : Bool) (significand : Nat) (c : Cursor) :
    Reading (Number × Cursor) :=
  match peek? c with
  | some '.' => readFraction positive significand 0 c
  | some 'e' | some 'E' => readExponent positive significand 0 c
  | _ =>
    if positive then .ok (.unsigned significand, c)
    else if significand = 0 ∨ 2 ^ 63 < significand then
      .ok (.float (FloatFormat.binary64.withSign true (FloatFormat.binary64.ofInt significand)), c)
    else .ok (.negative (-(significand : Int)), c)

/-- A number after its sign. -/
def readNumber (positive : Bool) (c : Cursor) :
    Reading (Number × Cursor) :=
  match peek? c with
  | none => faultAt .endInValue c.position
  | some '0' =>
    let c := c.next
    if isDigitNext c then faultAt .invalidNumber c.nextBytePosition else afterInteger positive 0 c
  | some x =>
    if !x.isDigit then faultAt .invalidNumber c.nextBytePosition
    else
      let (s, _, more, c) := readDigits integerRange 0 c
      if !more then afterInteger positive s c
      else
        let (n, c) := skipDigits c
        match peek? c with
        | some '.' => readFraction positive s n c
        | some 'e' | some 'E' => readExponent positive s n c
        | _ => floatOf positive s n c

end Embedder.Json
