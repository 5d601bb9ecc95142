import Embedder.FloatFormat

/-!
Arithmetic on floating-point patterns: every operation computes the exact result and rounds it
once. A NaN operand, and an operation without a result, gives the quiet NaN.

* sums, products, quotients, square roots;
* rounding to a whole number in the four directions;
* comparisons, minimum and maximum, where NaN is unordered and `-0` is below `0` only for the
  latter two;
* conversion between formats and from and to integers.
-/

namespace Embedder.FloatFormat

variable (f : FloatFormat)

/-! ### Sign bits -/

def abs (a : Nat) : Nat := f.magnitude a

def neg (a : Nat) : Nat := f.withSign (!f.isNegative a) (f.magnitude a)

def copysign (a b : Nat) : Nat := f.withSign (f.isNegative b) (f.magnitude a)

/-! ### Sums, products, quotients, roots -/

def signed (negative : Bool) (m : Nat) : Int := if negative then -(m : Int) else m

/-- The pattern of the integer `n` counted in units of `2 ^ q`; zero takes the given sign. -/
def ofSigned (n : Int) (q : Int) (zeroNegative : Bool) : Nat :=
  if n = 0 then f.withSign zeroNegative 0 else f.roundScaled (decide (n < 0)) n.natAbs q

def add (a b : Nat) : Nat :=
  match f.decode a, f.decode b with
  | .nan _, _ | _, .nan _ => f.quietNan
  | .infinity s, .infinity t => if s == t then f.withSign s f.infinity else f.quietNan
  | .infinity s, .finite .. | .finite .., .infinity s => f.withSign s f.infinity
  | .finite s m q, .finite t n r =>
    let low := min q r
    let sum := signed s (m * 2 ^ (q - low).toNat) + signed t (n * 2 ^ (r - low).toNat)
    f.ofSigned sum low (s && t)

def sub (a b : Nat) : Nat := if f.isNan b then f.quietNan else f.add a (f.neg b)

def mul (a b : Nat) : Nat :=
  match f.decode a, f.decode b with
  | .nan _, _ | _, .nan _ => f.quietNan
  | .infinity s, .infinity t => f.withSign (s ^^ t) f.infinity
  | .infinity s, .finite t m _ | .finite s m _, .infinity t =>
    if m = 0 then f.quietNan else f.withSign (s ^^ t) f.infinity
  | .finite s m q, .finite t n r => f.roundScaled (s ^^ t) (m * n) (q + r)

def div (a b : Nat) : Nat :=
  match f.decode a, f.decode b with
  | .nan _, _ | _, .nan _ => f.quietNan
  | .infinity _, .infinity _ => f.quietNan
  | .infinity s, .finite t _ _ => f.withSign (s ^^ t) f.infinity
  | .finite s _ _, .infinity t => f.withSign (s ^^ t) 0
  | .finite s m q, .finite t n r =>
    if n = 0 then if m = 0 then f.quietNan else f.withSign (s ^^ t) f.infinity
    else
      match q - r with
      | .ofNat k => f.round (s ^^ t) (m * 2 ^ k) n
      | .negSucc k => f.round (s ^^ t) m (n * 2 ^ (k + 1))

/-- The largest number whose square is at most `n`. -/
def floorSqrt (n : Nat) : Nat :=
  if h : n = 0 then 0
  else
    let r := 2 * floorSqrt (n / 4)
    if (r + 1) * (r + 1) ≤ n then r + 1 else r
termination_by n
decreasing_by omega

/-- The root is taken with more bits than the format keeps; an odd last bit stands for what the
root leaves over, so the rounding sees on which side of a tie it lies. -/
def sqrt (a : Nat) : Nat :=
  match f.decode a with
  | .nan _ => f.quietNan
  | .infinity s => if s then f.quietNan else f.infinity
  | .finite s m q =>
    if m = 0 then f.withSign s 0
    else if s then f.quietNan
    else
      let shift : Nat := 2 * (f.fraction + 3) + (if Int.emod q 2 = 0 then 0 else 1)
      let n := m * 2 ^ shift
      let r := floorSqrt n
      f.roundScaled false (2 * r + if r * r = n then 0 else 1) (Int.fdiv (q - shift) 2 - 1)

/-! ### Whole numbers -/

inductive Direction where
  | up
  | down
  | towardZero
  | nearest
  deriving DecidableEq

/-- The whole number to which the magnitude `m * 2 ^ q` of the given sign goes. -/
def wholeMagnitude (d : Direction) (negative : Bool) (m : Nat) (q : Int) : Nat :=
  match q with
  | .ofNat k => m * 2 ^ k
  | .negSucc k =>
    let unit := 2 ^ (k + 1)
    let whole := m / unit
    let exact := m % unit == 0
    match d with
    | .up => if exact || negative then whole else whole + 1
    | .down => if exact || !negative then whole else whole + 1
    | .towardZero => whole
    | .nearest => divideNearest m unit

def toWhole (d : Direction) (a : Nat) : Nat :=
  match f.decode a with
  | .nan _ => f.quietNan
  | .infinity s => f.withSign s f.infinity
  | .finite s m q => f.round s (wholeMagnitude d s m q) 1

/-! ### Order -/

/-- A key that orders the patterns other than NaNs, the two zeros taken as equal. -/
def orderKey (a : Nat) : Int := signed (f.isNegative a) (f.magnitude a)

def ordered (a b : Nat) : Bool := !f.isNan a && !f.isNan b

def eq (a b : Nat) : Bool := f.ordered a b && f.orderKey a == f.orderKey b

def lt (a b : Nat) : Bool := f.ordered a b && decide (f.orderKey a < f.orderKey b)

def le (a b : Nat) : Bool := f.ordered a b && decide (f.orderKey a ≤ f.orderKey b)

def min (a b : Nat) : Nat :=
  if !f.ordered a b then f.quietNan
  else if f.isZero a && f.isZero b then f.withSign (f.isNegative a || f.isNegative b) 0
  else if f.lt a b then a else b

def max (a b : Nat) : Nat :=
  if !f.ordered a b then f.quietNan
  else if f.isZero a && f.isZero b then f.withSign (f.isNegative a && f.isNegative b) 0
  else if f.lt a b then b else a

/-! ### Conversions -/

/-- The same number in the format `g`, rounded if it has to be. -/
def convert (g : FloatFormat) (a : Nat) : Nat :=
  match f.decode a with
  | .nan s => g.withSign s g.quietNan
  | .infinity s => g.withSign s g.infinity
  | .finite s m q => g.roundScaled s m q

def ofInt (n : Int) : Nat := f.ofSigned n 0 false

/-- The number cut to a whole one; a NaN and an infinity have none. -/
def toInt? (a : Nat) : Option Int :=
  match f.decode a with
  | .finite s m q => some (signed s (wholeMagnitude .towardZero s m q))
  | _ => none

end Embedder.FloatFormat
