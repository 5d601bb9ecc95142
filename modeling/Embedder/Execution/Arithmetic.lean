import Embedder.Execution.Trap
import Embedder.Code.Numeric
import Embedder.FloatFormat.Arithmetic
import Embedder.Value

/-!
What the instructions on numbers compute.

* `IntBinary.eval` and its like: one family each, on bit vectors and on float patterns;
* `Numeric.eval`: every instruction on the values of its operands.
-/

namespace Embedder

open Execution (Trap Fault)

/-! ### Integers -/

def IntUnary.eval {w : Nat} (op : IntUnary) (a : BitVec w) : BitVec w :=
  match op with
  | .clz => a.clz
  | .ctz => a.ctz
  | .popcnt => a.cpop
  | .extend8 => (a.truncate 8).signExtend w
  | .extend16 => (a.truncate 16).signExtend w
  | .extend32 => (a.truncate 32).signExtend w

/-- A quotient goes toward zero. Only the least number divided by -1 has one that does not fit. -/
def divideSigned {w : Nat} (a b : BitVec w) : Except Trap (BitVec w) :=
  if b = 0 then .error .divisionByZero
  else if a = BitVec.intMin w ∧ b = -1 then .error .integerOverflow
  else .ok (a.sdiv b)

/-- Shifts and rotations count modulo the width. -/
def IntBinary.eval {w : Nat} (op : IntBinary) (a b : BitVec w) : Except Trap (BitVec w) :=
  let k := b.toNat % w
  match op with
  | .add => .ok (a + b)
  | .sub => .ok (a - b)
  | .mul => .ok (a * b)
  | .divS => divideSigned a b
  | .divU => if b = 0 then .error .divisionByZero else .ok (a / b)
  | .remS => if b = 0 then .error .divisionByZero else .ok (a.srem b)
  | .remU => if b = 0 then .error .divisionByZero else .ok (a % b)
  | .and => .ok (a &&& b)
  | .or => .ok (a ||| b)
  | .xor => .ok (a ^^^ b)
  | .shl => .ok (a <<< k)
  | .shrS => .ok (a.sshiftRight k)
  | .shrU => .ok (a >>> k)
  | .rotl => .ok (a.rotateLeft k)
  | .rotr => .ok (a.rotateRight k)

def IntCompare.eval {w : Nat} (op : IntCompare) (a b : BitVec w) : Bool :=
  match op with
  | .eq => a == b
  | .ne => a != b
  | .ltS => a.slt b
  | .ltU => a.ult b
  | .gtS => b.slt a
  | .gtU => b.ult a
  | .leS => a.sle b
  | .leU => a.ule b
  | .geS => b.sle a
  | .geU => b.ule a

/-! ### Floats -/

def FloatWidth.format : FloatWidth → FloatFormat
  | .w32 => .binary32
  | .w64 => .binary64

def FloatUnary.eval (f : FloatFormat) (op : FloatUnary) (a : Nat) : Nat :=
  match op with
  | .abs => f.abs a
  | .neg => f.neg a
  | .ceil => f.toWhole .up a
  | .floor => f.toWhole .down a
  | .trunc => f.toWhole .towardZero a
  | .nearest => f.toWhole .nearest a
  | .sqrt => f.sqrt a

def FloatBinary.eval (f : FloatFormat) (op : FloatBinary) (a b : Nat) : Nat :=
  match op with
  | .add => f.add a b
  | .sub => f.sub a b
  | .mul => f.mul a b
  | .div => f.div a b
  | .min => f.min a b
  | .max => f.max a b
  | .copysign => f.copysign a b

def FloatCompare.eval (f : FloatFormat) (op : FloatCompare) (a b : Nat) : Bool :=
  match op with
  | .eq => f.eq a b
  | .ne => !f.eq a b
  | .lt => f.lt a b
  | .gt => f.lt b a
  | .le => f.le a b
  | .ge => f.le b a

/-! ### Conversions -/

/-- The least and the greatest integer of a width. -/
def intRange (w : Nat) (signed : Bool) : Int × Int :=
  if signed then (-(2 ^ (w - 1)), 2 ^ (w - 1) - 1) else (0, 2 ^ w - 1)

/-- The integer part of a float, which must fit. -/
def truncate (f : FloatFormat) (w : Nat) (signed : Bool) (a : Nat) : Except Trap (BitVec w) :=
  if f.isNan a then .error .invalidConversion
  else
    match f.toInt? a with
    | none => .error .integerOverflow
    | some n =>
      let (least, greatest) := intRange w signed
      if least ≤ n ∧ n ≤ greatest then .ok (BitVec.ofInt w n) else .error .integerOverflow

/-- The integer part of a float; what does not fit becomes the nearest end of the range, and a NaN
becomes zero. -/
def saturate (f : FloatFormat) (w : Nat) (signed : Bool) (a : Nat) : BitVec w :=
  let (least, greatest) := intRange w signed
  if f.isNan a then 0
  else
    match f.toInt? a with
    | none => BitVec.ofInt w (if f.isNegative a then least else greatest)
    | some n => BitVec.ofInt w (max least (min greatest n))

def integerOf {w : Nat} (signed : Bool) (a : BitVec w) : Int :=
  if signed then a.toInt else a.toNat

/-! ### Values -/

def IntWidth.bits : IntWidth → Nat
  | .w32 => 32
  | .w64 => 64

def IntWidth.value : (w : IntWidth) → BitVec w.bits → Value
  | .w32, b => .i32 (.ofBitVec b)
  | .w64, b => .i64 (.ofBitVec b)

def IntWidth.ofValue? : (w : IntWidth) → Value → Option (BitVec w.bits)
  | .w32, .i32 b => some b.toBitVec
  | .w64, .i64 b => some b.toBitVec
  | _, _ => none

def FloatWidth.value : FloatWidth → Nat → Value
  | .w32, n => .f32 (.ofNat n)
  | .w64, n => .f64 (.ofNat n)

def FloatWidth.ofValue? : FloatWidth → Value → Option Nat
  | .w32, .f32 b => some b.toNat
  | .w64, .f64 b => some b.toNat
  | _, _ => none

def ofBool (b : Bool) : Value := .i32 (if b then 1 else 0)

namespace Numeric

/-- The result of a computation that may trap. -/
def trapping (r : Except Trap Value) : Except Fault Value := r.mapError .trap

/-- A computation that needs values of the right types. -/
def typed (v : Option Value) : Except Fault Value :=
  match v with
  | some v => .ok v
  | none => .error .stuck

/-- Instructions with one operand. -/
def evalUnary (n : Numeric) (a : Value) : Except Fault Value :=
  match n with
  | .eqz w => typed <| (w.ofValue? a).map fun a => ofBool (a == 0)
  | .intUnary w op => typed <| (w.ofValue? a).map fun a => w.value (op.eval a)
  | .floatUnary w op => typed <| (w.ofValue? a).map fun a => w.value (op.eval w.format a)
  | .wrap => typed <| (IntWidth.w64.ofValue? a).map fun a => IntWidth.w32.value (a.truncate 32)
  | .extend signed => typed <| (IntWidth.w32.ofValue? a).map fun a =>
      IntWidth.w64.value (if signed then a.signExtend 64 else a.zeroExtend 64)
  | .trunc t s signed =>
    match s.ofValue? a with
    | some a => trapping ((truncate s.format t.bits signed a).map t.value)
    | none => .error .stuck
  | .truncSat t s signed => typed <| (s.ofValue? a).map fun a =>
      t.value (saturate s.format t.bits signed a)
  | .convert t s signed => typed <| (s.ofValue? a).map fun a =>
      t.value (t.format.ofInt (integerOf signed a))
  | .demote => typed <| (FloatWidth.w64.ofValue? a).map fun a =>
      FloatWidth.w32.value (FloatFormat.binary64.convert .binary32 a)
  | .promote => typed <| (FloatWidth.w32.ofValue? a).map fun a =>
      FloatWidth.w64.value (FloatFormat.binary32.convert .binary64 a)
  | .floatBits .w32 => typed <| (FloatWidth.w32.ofValue? a).map fun a => .i32 (.ofNat a)
  | .floatBits .w64 => typed <| (FloatWidth.w64.ofValue? a).map fun a => .i64 (.ofNat a)
  | .bitsFloat .w32 => typed <| (IntWidth.w32.ofValue? a).map fun a => .f32 (.ofBitVec a)
  | .bitsFloat .w64 => typed <| (IntWidth.w64.ofValue? a).map fun a => .f64 (.ofBitVec a)
  | .intCompare _ _ | .floatCompare _ _ | .intBinary _ _ | .floatBinary _ _ => .error .stuck

/-- Instructions with two operands. -/
def evalBinary (n : Numeric) (a b : Value) : Except Fault Value :=
  match n with
  | .intBinary w op =>
    match w.ofValue? a, w.ofValue? b with
    | some a, some b => trapping ((op.eval a b).map w.value)
    | _, _ => .error .stuck
  | .intCompare w op =>
    match w.ofValue? a, w.ofValue? b with
    | some a, some b => .ok (ofBool (op.eval a b))
    | _, _ => .error .stuck
  | .floatBinary w op =>
    match w.ofValue? a, w.ofValue? b with
    | some a, some b => .ok (w.value (op.eval w.format a b))
    | _, _ => .error .stuck
  | .floatCompare w op =>
    match w.ofValue? a, w.ofValue? b with
    | some a, some b => .ok (ofBool (op.eval w.format a b))
    | _, _ => .error .stuck
  | _ => .error .stuck

def isBinary : Numeric → Bool
  | .intCompare _ _ | .floatCompare _ _ | .intBinary _ _ | .floatBinary _ _ => true
  | _ => false

end Numeric

end Embedder
