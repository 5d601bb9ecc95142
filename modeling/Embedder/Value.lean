import Embedder.Types
import Embedder.FloatFormat.Arithmetic

/-!
The values a host gives to a guest and takes from it: numbers and vectors, kept as bit patterns.
A reference is not such a value; on the guest's side it is a `Cell`.

* `Value`, its type, and equality as numbers (`Value.numericEq`);
* `Cell`: what the guest's stack, globals and tables hold;
* `Cell.ofValue`, `Cell.toValue?`: crossing between the two keeps every bit.
-/

namespace Embedder

/-- A number or vector as its bits; a vector's lane 0 is the low end. -/
inductive Value where
  | i32 (bits : UInt32)
  | i64 (bits : UInt64)
  | f32 (bits : UInt32)
  | f64 (bits : UInt64)
  | v128 (bits : BitVec 128)
  deriving DecidableEq, Inhabited

namespace Value

def type : Value → ValueType
  | .i32 _ => .i32
  | .i64 _ => .i64
  | .f32 _ => .f32
  | .f64 _ => .f64
  | .v128 _ => .v128

def ofInt32 (n : Int32) : Value := .i32 n.toUInt32

def ofInt64 (n : Int64) : Value := .i64 n.toUInt64

def asI32? : Value → Option Int32
  | .i32 bits => some bits.toInt32
  | _ => none

def asI64? : Value → Option Int64
  | .i64 bits => some bits.toInt64
  | _ => none

def asF32? : Value → Option UInt32
  | .f32 bits => some bits
  | _ => none

def asF64? : Value → Option UInt64
  | .f64 bits => some bits
  | _ => none

/-- Equality of numbers: a NaN differs from itself and the two zeros are equal. -/
def numericEq : Value → Value → Bool
  | .i32 a, .i32 b => a == b
  | .i64 a, .i64 b => a == b
  | .f32 a, .f32 b => FloatFormat.binary32.eq a.toNat b.toNat
  | .f64 a, .f64 b => FloatFormat.binary64.eq a.toNat b.toNat
  | .v128 a, .v128 b => a == b
  | _, _ => false

end Value

/-- What a guest's stack slot, local, global or table element holds: a value, a reference to a
function of the instance's store, or a null reference. -/
inductive Cell where
  | value (v : Value)
  | funcref (address : Nat)
  | nullFunc
  | nullExternal
  deriving DecidableEq, Inhabited

namespace Cell

def type : Cell → ValueType
  | .value v => v.type
  | .funcref _ | .nullFunc => .funcref
  | .nullExternal => .externref

def ofValue (v : Value) : Cell := .value v

/-- A reference is not a value of the host. -/
def toValue? : Cell → Option Value
  | .value v => some v
  | _ => none

def i32 (n : UInt32) : Cell := .value (.i32 n)

def isNull : Cell → Bool
  | .nullFunc | .nullExternal => true
  | _ => false

/-- The value a local of the given type starts with. -/
def zero : ValueType → Cell
  | .i32 => .value (.i32 0)
  | .i64 => .value (.i64 0)
  | .f32 => .value (.f32 0)
  | .f64 => .value (.f64 0)
  | .v128 => .value (.v128 0)
  | .externref => .nullExternal
  | .funcref => .nullFunc

theorem toValue?_ofValue (v : Value) : (ofValue v).toValue? = some v := rfl

theorem type_ofValue (v : Value) : (ofValue v).type = v.type := rfl

theorem type_zero (t : ValueType) : (zero t).type = t := by cases t <;> rfl

end Cell

end Embedder
