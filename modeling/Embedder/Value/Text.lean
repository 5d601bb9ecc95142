import Embedder.Value
import Embedder.Decimal
import Embedder.FloatFormat.Decimal
import Embedder.IntegerFormat

/-!
Values as text: what a command line takes as an argument and prints as a result.

* `Value.text`: integers in signed decimal, floating-point numbers with the fewest digits that
  read back and never an exponent, vectors in hexadecimal;
* `Value.parse?`: integers signed or unsigned, floating-point numbers in decimal, vectors as
  unsigned decimal; references have no text.
-/

namespace Embedder

namespace FloatFormat

/-- A pattern in positional decimal notation. A NaN has no sign. -/
def text (f : FloatFormat) (bits : Nat) : List Char :=
  let sign := if f.isNegative bits then ['-'] else []
  if f.isNan bits then "NaN".toList
  else if f.isInfinite bits then sign ++ "inf".toList
  else if f.isZero bits then sign ++ ['0']
  else
    let (d, e) := f.shortest (f.magnitude bits)
    let (d, e) := Decimal.trimZeros d e
    sign ++ Decimal.positional (Decimal.ofNat d) e

/-- A number's magnitude as a pattern: a decimal number, or one of the names of infinity and of
NaN in any case. -/
def parseMagnitude? (f : FloatFormat) (cs : List Char) : Option Nat :=
  let name := cs.map Char.toLower
  if name = "inf".toList ∨ name = "infinity".toList then some f.infinity
  else if name = "nan".toList then some f.quietNan
  else (Decimal.scan? cs).map fun s => f.ofDecimal false s.digits s.exponent

/-- An optional sign and a magnitude. -/
def parse? (f : FloatFormat) : List Char → Option Nat
  | '+' :: cs => f.parseMagnitude? cs
  | '-' :: cs => (f.parseMagnitude? cs).map (f.withSign true)
  | cs => f.parseMagnitude? cs

end FloatFormat

namespace Value

/-- The low `32` hexadecimal digits of a vector, leading zeros kept. -/
def vectorDigits (bits : BitVec 128) : List Char :=
  let ds := Nat.toDigits 16 bits.toNat
  List.replicate (32 - ds.length) '0' ++ ds

def chars : Value → List Char
  | .i32 bits => Decimal.ofInt bits.toInt32.toInt
  | .i64 bits => Decimal.ofInt bits.toInt64.toInt
  | .f32 bits => FloatFormat.binary32.text bits.toNat
  | .f64 bits => FloatFormat.binary64.text bits.toNat
  | .v128 bits => '0' :: 'x' :: vectorDigits bits

def text (v : Value) : String := String.ofList v.chars

/-- A text that is no signed integer of a width may still be an unsigned one, which gives the same
bits. -/
def parseWord? (signed unsigned : IntegerFormat) (cs : List Char) : Option Int :=
  (signed.parse? cs).or (unsigned.parse? cs)

def parseChars? (type : ValueType) (cs : List Char) : Option Value :=
  match type with
  | .i32 => (parseWord? .int32 .uint32 cs).map fun n => .i32 (UInt32.ofInt n)
  | .i64 => (parseWord? .int64 .uint64 cs).map fun n => .i64 (UInt64.ofInt n)
  | .f32 => (FloatFormat.binary32.parse? cs).map fun bits => .f32 (UInt32.ofNat bits)
  | .f64 => (FloatFormat.binary64.parse? cs).map fun bits => .f64 (UInt64.ofNat bits)
  | .v128 => (IntegerFormat.uint128.parse? cs).map fun n => .v128 (BitVec.ofInt 128 n)
  | .externref | .funcref => none

def parse? (type : ValueType) (s : String) : Option Value := parseChars? type s.toList

end Value

end Embedder
