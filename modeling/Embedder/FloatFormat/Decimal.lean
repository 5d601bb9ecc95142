import Embedder.FloatFormat

/-!
Decimal numbers and floating-point patterns.

* `FloatFormat.ofDecimal`: the pattern nearest to `d * 10 ^ e`;
* `FloatFormat.shortest`: the fewest decimal digits that read back as the same pattern, and of
  those the nearest ones.
-/

namespace Embedder.FloatFormat

variable (f : FloatFormat)

/-- `d * 10 ^ e` as a quotient of natural numbers. -/
def decimalRatio (d : Nat) (e : Int) : Nat × Nat :=
  match e with
  | .ofNat k => (d * 10 ^ k, 1)
  | .negSucc k => (d, 10 ^ (k + 1))

/-- Powers of ten beyond this are past every finite number of the format, and their inverses are
below half of the smallest one. -/
def decimalRange : Nat := 2 ^ (f.exponent - 1) + f.fraction + 1

/-- The pattern nearest to `d * 10 ^ e`, decided without the power when `e` is out of range. -/
def ofDecimal (negative : Bool) (d : Nat) (e : Int) : Nat :=
  let top : Int := e + (Nat.toDigits 10 d).length
  if d = 0 then f.withSign negative 0
  else if (f.decimalRange : Int) < top then f.withSign negative f.infinity
  else if top < -(f.decimalRange : Int) then f.withSign negative 0
  else
    let (num, den) := decimalRatio d e
    f.round negative num den

/-! ### The fewest digits -/

/-- `10 ^ e ≤ num / den`. -/
def powerLe (e : Int) (num den : Nat) : Bool :=
  let (a, b) := decimalRatio 1 e
  decide (a * den ≤ num * b)

/-- The exponent of the leading decimal digit of `num / den`. -/
def leadingExponent (num den : Nat) : Int :=
  let guess := Int.fdiv (((num.log2 : Int) - den.log2) * 30103) 100000
  if powerLe (guess + 1) num den then guess + 1
  else if powerLe guess num den then guess
  else guess - 1

/-- The numbers that round to a given magnitude: between `low / den` and `high / den`, the ends
included when the magnitude is even. -/
structure Basin where
  low : Nat
  value : Nat
  high : Nat
  den : Nat
  closed : Bool

/-- The neighbours of a magnitude lie one unit above and one unit below, half a unit below at a
power of two that is not the smallest. -/
def basin (magnitude : Nat) : Basin :=
  let (m, q) := f.significand magnitude
  let atPower := m == 2 ^ f.fraction && decide (f.leastExponent < q)
  let (k, den) : Nat × Nat := match q with
    | .ofNat k => (2 ^ k, 4)
    | .negSucc k => (1, 4 * 2 ^ (k + 1))
  { low := (4 * m - if atPower then 1 else 2) * k
    value := 4 * m * k
    high := (4 * m + 2) * k
    den := den
    closed := magnitude % 2 == 0 }

namespace Basin

/-- `d * 10 ^ e` rounds to the magnitude. -/
def contains (b : Basin) (d : Nat) (e : Int) : Bool :=
  let (num, den) := decimalRatio d e
  let x := num * b.den
  let low := b.low * den
  let high := b.high * den
  if b.closed then decide (low ≤ x) && decide (x ≤ high) else decide (low < x) && decide (x < high)

/-- The point of the grid of step `10 ^ e` that lies nearest to the value and rounds to it, if
one does. -/
def nearest? (b : Basin) (e : Int) : Option Nat :=
  let (num, den) := decimalRatio 1 e
  let step := num * b.den
  let value := b.value * den
  let d := value / step
  let r := value % step
  match b.contains d e, b.contains (d + 1) e with
  | true, true => some (if 2 * r < step then d else if step < 2 * r then d + 1 else d + d % 2)
  | true, false => some d
  | false, true => some (d + 1)
  | false, false => none

/-- Tries ever finer grids, `count` of them. -/
def search (b : Basin) : (count : Nat) → (e : Int) → Nat × Int
  | 0, e => (b.value * 10 ^ e.natAbs / b.den, e)
  | count + 1, e =>
    match b.nearest? e with
    | some d => (d, e)
    | none => search b count (e - 1)

end Basin

/-- The digits and the decimal exponent of the shortest number that rounds to a positive
magnitude: `d * 10 ^ e`. -/
def shortest (magnitude : Nat) : Nat × Int :=
  let b := f.basin magnitude
  b.search (f.fraction + 2) (leadingExponent b.value b.den)

end Embedder.FloatFormat
