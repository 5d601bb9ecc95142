import Embedder.Power

/-!
Integers of a fixed number of bits, and how they are read from decimal digits.

* `IntegerFormat`, with the formats that texts are read in;
* `IntegerFormat.checked?`: arithmetic gives nothing where it leaves the range;
* `IntegerFormat.parse?`: a text is read digit by digit, and no step may leave the range.
-/

namespace Embedder

/-- Integers of `width` bits, in two's complement if they are signed. -/
structure IntegerFormat where
  width : Nat
  signed : Bool
  deriving DecidableEq

namespace IntegerFormat

def int32 : IntegerFormat := ⟨32, true⟩

def uint32 : IntegerFormat := ⟨32, false⟩

def int64 : IntegerFormat := ⟨64, true⟩

def uint64 : IntegerFormat := ⟨64, false⟩

def uint128 : IntegerFormat := ⟨128, false⟩

variable (f : IntegerFormat)

def least : Int := if f.signed then -(2 ^ (f.width - 1) : Nat) else 0

def greatest : Int := if f.signed then (2 ^ (f.width - 1) : Nat) - 1 else (2 ^ f.width : Nat) - 1

/-- The result of a calculation if it is in the range. -/
def checked? (n : Int) : Option Int := if f.least ≤ n ∧ n ≤ f.greatest then some n else none

/-- Puts a digit behind those of `n`. The digits of a negative number count downwards. -/
def push? (negative : Bool) (n : Int) (c : Char) : Option Int :=
  if c.isDigit then do
    let tens ← f.checked? (10 * n)
    let d : Int := (c.toNat - '0'.toNat : Nat)
    f.checked? (if negative then tens - d else tens + d)
  else none

/-- One or more digits. -/
def parseDigits? (negative : Bool) : List Char → Option Int
  | [] => none
  | c :: cs => (c :: cs).foldlM (f.push? negative) 0

/-- An optional sign and one or more digits. Only a signed format knows a minus sign. -/
def parse? : List Char → Option Int
  | '+' :: cs => f.parseDigits? false cs
  | '-' :: cs => if f.signed then f.parseDigits? true cs else none
  | cs => f.parseDigits? false cs

end IntegerFormat

end Embedder
