import Embedder.Power

/-!
Binary floating-point formats on bit patterns, in exact arithmetic.

* `FloatFormat`, with the two formats `binary32` and `binary64`;
* `FloatFormat.decode`: a pattern is a NaN, an infinity or an exact number `m * 2 ^ q`;
* `FloatFormat.round`: the pattern nearest to a quotient of natural numbers, a tie going to the
  even pattern.

Patterns are natural numbers below `2 ^ width`, so every bit of a NaN is kept.
-/

namespace Embedder

/-- An interchange format: `fraction` stored bits below the point and `exponent` exponent bits. -/
structure FloatFormat where
  fraction : Nat
  exponent : Nat
  deriving DecidableEq

/-- A bit pattern as a number; a finite one is `m * 2 ^ q` with its sign apart. -/
inductive FloatClass where
  | nan (negative : Bool)
  | infinity (negative : Bool)
  | finite (negative : Bool) (m : Nat) (q : Int)
  deriving DecidableEq

namespace FloatFormat

def binary32 : FloatFormat := ⟨23, 8⟩

def binary64 : FloatFormat := ⟨52, 11⟩

variable (f : FloatFormat)

/-- The pattern with the sign bit alone: negative zero. -/
def signBit : Nat := 2 ^ (f.fraction + f.exponent)

/-- The pattern of positive infinity: all exponent bits. -/
def infinity : Nat := (2 ^ f.exponent - 1) * 2 ^ f.fraction

/-- The quiet NaN without a sign and with no other payload bit. -/
def quietNan : Nat := f.infinity + 2 ^ (f.fraction - 1)

/-- The exponent of the unit in the last place of the smallest numbers. -/
def leastExponent : Int := 2 - (2 ^ (f.exponent - 1) : Nat) - f.fraction

def withSign (negative : Bool) (magnitude : Nat) : Nat :=
  if negative then f.signBit + magnitude else magnitude

/-! ### Reading a pattern -/

def isNegative (bits : Nat) : Bool := decide (f.signBit ≤ bits)

/-- The pattern without its sign. -/
def magnitude (bits : Nat) : Nat := bits % f.signBit

def isNan (bits : Nat) : Bool := decide (f.infinity < f.magnitude bits)

def isInfinite (bits : Nat) : Bool := f.magnitude bits == f.infinity

def isZero (bits : Nat) : Bool := f.magnitude bits == 0

/-- The exact number of a finite magnitude: a subnormal has no hidden bit. -/
def significand (magnitude : Nat) : Nat × Int :=
  let e := magnitude / 2 ^ f.fraction
  let m := magnitude % 2 ^ f.fraction
  if e = 0 then (m, f.leastExponent) else (m + 2 ^ f.fraction, f.leastExponent + (e - 1 : Nat))

def decode (bits : Nat) : FloatClass :=
  let negative := f.isNegative bits
  if f.isNan bits then .nan negative
  else if f.isInfinite bits then .infinity negative
  else
    let (m, q) := f.significand (f.magnitude bits)
    .finite negative m q

/-! ### Rounding to a pattern -/

/-- `a / b` to the nearest natural number, a tie going to the even one. -/
def divideNearest (a b : Nat) : Nat :=
  let q := a / b
  let r := a % b
  if 2 * r < b then q else if b < 2 * r then q + 1 else q + q % 2

/-- `num / den` counted in units of `2 ^ e`, as a quotient of natural numbers. -/
def scaled (num den : Nat) (e : Int) : Nat × Nat :=
  match e with
  | .ofNat k => (num, den * 2 ^ k)
  | .negSucc k => (num * 2 ^ (k + 1), den)

/-- The exponent of the last place that keeps all stored bits of `num / den`. -/
def unitExponent (num den : Nat) : Int :=
  let guess : Int := (num.log2 : Int) - den.log2 - f.fraction
  let (a, b) := scaled num den guess
  let fitted := if a < b * 2 ^ f.fraction then guess - 1 else guess
  max fitted f.leastExponent

/-- The magnitude nearest to `num / den`; what is too large becomes infinity. -/
def roundMagnitude (num den : Nat) : Nat :=
  if num = 0 then 0
  else
    let e := f.unitExponent num den
    let (a, b) := scaled num den e
    min ((e - f.leastExponent).toNat * 2 ^ f.fraction + divideNearest a b) f.infinity

/-- The pattern nearest to `num / den` with the given sign. -/
def round (negative : Bool) (num den : Nat) : Nat :=
  f.withSign negative (f.roundMagnitude num den)

/-- The pattern nearest to `m * 2 ^ q` with the given sign. -/
def roundScaled (negative : Bool) (m : Nat) (q : Int) : Nat :=
  match q with
  | .ofNat k => f.round negative (m * 2 ^ k) 1
  | .negSucc k => f.round negative m (2 ^ (k + 1))

end FloatFormat

end Embedder
