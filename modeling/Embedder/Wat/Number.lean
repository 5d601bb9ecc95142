import Embedder.FloatFormat.Decimal

/-!
The numbers of the text format: decimal and hexadecimal digits with single underscores between
them, a point, an exponent, infinities and NaNs.

* `Wat.Number.ofChars?`: the number that a word denotes, if it is one;
* `Wat.Number.intBits?`, `Wat.Number.floatBits?`: the bits of a number of a given type.
-/

namespace Embedder.Wat

/-- A number with a point or an exponent, or none that digits can write: `digits * 10 ^ exponent`
or `digits * 2 ^ exponent`. -/
inductive FloatText where
  | infinity (negative : Bool)
  | nan (negative : Bool) (payload : Option Nat)
  | decimal (negative : Bool) (digits : Nat) (exponent : Int)
  | binary (negative : Bool) (digits : Nat) (exponent : Int)
  deriving DecidableEq

inductive Number where
  | integer (negative : Bool) (magnitude : Nat)
  | float (f : FloatText)
  deriving DecidableEq

/-! ### Digits -/

def hexDigit? (c : Char) : Option Nat :=
  if c.isDigit then some (c.toNat - 48)
  else if 'a' ≤ c ∧ c ≤ 'f' then some (c.toNat - 87)
  else if 'A' ≤ c ∧ c ≤ 'F' then some (c.toNat - 55)
  else none

def isHexDigit (c : Char) : Bool := (hexDigit? c).isSome

/-- The number whose digits are given, the highest first. -/
def numberOf (base : Nat) (digits : List Char) : Nat :=
  digits.foldl (fun n c => base * n + (hexDigit? c).getD 0) 0

/-- Every underscore stands between two digits. -/
def separated : List Char → Bool
  | [] => true
  | ['_'] => false
  | '_' :: '_' :: _ => false
  | _ :: cs => separated cs

/-- The digits in front, without the underscores between them, and what follows; at least one. -/
def digitRun (valid : Char → Bool) (cs : List Char) : Option (List Char × List Char) :=
  let p := fun c => valid c || c == '_'
  let run := cs.takeWhile p
  if (run.head?.any valid) && separated run then
    some (run.filter (· != '_'), cs.dropWhile p)
  else none

/-! ### Words -/

/-- A sign in front of a number and what follows it. -/
def splitSign : List Char → Bool × List Char
  | '-' :: cs => (true, cs)
  | '+' :: cs => (false, cs)
  | cs => (false, cs)

/-- The digits behind a point, which may be none. -/
def fractionRun (valid : Char → Bool) : List Char → Option (List Char × List Char)
  | '.' :: cs => if cs.head?.any valid then digitRun valid cs else some ([], cs)
  | cs => some ([], cs)

/-- The exponent that a text after the digits denotes; without a mark it is zero. -/
def exponentOf? (mark : Char → Bool) : List Char → Option Int
  | [] => some 0
  | c :: cs =>
    if mark c then
      let (negative, cs) := splitSign cs
      match digitRun Char.isDigit cs with
      | some (ds, []) =>
        let n : Int := numberOf 10 ds
        some (if negative then -n else n)
      | _ => none
    else none

def hexNumber? (negative : Bool) (cs : List Char) : Option Number := do
  let (whole, rest) ← digitRun isHexDigit cs
  if rest.isEmpty then some (.integer negative (numberOf 16 whole))
  else
    let (part, rest) ← fractionRun isHexDigit rest
    let e ← exponentOf? (fun c => c == 'p' || c == 'P') rest
    some (.float (.binary negative (numberOf 16 (whole ++ part)) (e - 4 * part.length)))

def decimalNumber? (negative : Bool) (cs : List Char) : Option Number := do
  let (whole, rest) ← digitRun Char.isDigit cs
  if rest.isEmpty then some (.integer negative (numberOf 10 whole))
  else
    let (part, rest) ← fractionRun Char.isDigit rest
    let e ← exponentOf? (fun c => c == 'e' || c == 'E') rest
    some (.float (.decimal negative (numberOf 10 (whole ++ part)) (e - part.length)))

/-- The number that a word without its sign denotes. -/
def unsignedNumber? (negative : Bool) : List Char → Option Number
  | ['i', 'n', 'f'] => some (.float (.infinity negative))
  | ['n', 'a', 'n'] => some (.float (.nan negative none))
  | 'n' :: 'a' :: 'n' :: ':' :: '0' :: 'x' :: cs =>
    match digitRun isHexDigit cs with
    | some (ds, []) => some (.float (.nan negative (some (numberOf 16 ds))))
    | _ => none
  | '0' :: 'x' :: cs => hexNumber? negative cs
  | cs => decimalNumber? negative cs

def Number.ofChars? (cs : List Char) : Option Number :=
  let (negative, cs) := splitSign cs
  unsignedNumber? negative cs

/-! ### Bits -/

/-- An exponent of two past which every number but zero is infinite or zero. -/
def exponentRange : Int := 4096

/-- The pattern nearest to a number; none if it is past the largest one or if it is a NaN whose
payload does not fit. -/
def FloatText.bits? (format : FloatFormat) : FloatText → Option Nat
  | .infinity negative => some (format.withSign negative format.infinity)
  | .nan negative none => some (format.withSign negative format.quietNan)
  | .nan negative (some payload) =>
    if payload ≠ 0 ∧ payload < 2 ^ format.fraction then
      some (format.withSign negative (format.infinity + payload))
    else none
  | .decimal negative digits e =>
    let bits := format.ofDecimal negative digits e
    if format.isInfinite bits then none else some bits
  | .binary negative digits e =>
    let top := e + digits.log2
    if digits = 0 ∨ top < -exponentRange then some (format.withSign negative 0)
    else if exponentRange < top then none
    else
      let bits := format.roundScaled negative digits e
      if format.isInfinite bits then none else some bits

namespace Number

/-- The bits of an integer of the given width, read with or without a sign. -/
def intBits? (width : Nat) : Number → Option Nat
  | .integer false n => if n < 2 ^ width then some n else none
  | .integer true n => if n ≤ 2 ^ (width - 1) then some ((2 ^ width - n) % 2 ^ width) else none
  | .float _ => none

/-- The pattern of a number, which may be written as an integer. -/
def floatBits? (format : FloatFormat) : Number → Option Nat
  | .integer negative n => (FloatText.decimal negative n 0).bits? format
  | .float f => f.bits? format

end Number

end Embedder.Wat
