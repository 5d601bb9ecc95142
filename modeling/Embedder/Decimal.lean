import Embedder.Power

/-!
Decimal notation of integers and of decimal numbers `d * 10 ^ e`.

* `Decimal.ofInt`, `Decimal.intOf?`: writing and reading an integer;
* `Decimal.Scanned`, `Decimal.scan?`: reading a number with a point and an exponent;
* `Decimal.positional`: writing a number with a point and never an exponent.
-/

namespace Embedder.Decimal

/-! ### Integers -/

def ofNat (n : Nat) : List Char := Nat.toDigits 10 n

def ofInt : Int → List Char
  | .ofNat n => ofNat n
  | .negSucc n => '-' :: ofNat (n + 1)

/-- One or more digits. -/
def natOf? (cs : List Char) : Option Nat :=
  if cs ≠ [] ∧ cs.all Char.isDigit then some (Nat.ofDigitChars 10 cs 0) else none

/-- An optional sign and one or more digits. -/
def intOf? : List Char → Option Int
  | '+' :: cs => (natOf? cs).map Int.ofNat
  | '-' :: cs => (natOf? cs).map fun n => -(n : Int)
  | cs => (natOf? cs).map Int.ofNat

/-! ### Numbers with a point and an exponent -/

/-- The number `digits * 10 ^ exponent`. -/
structure Scanned where
  digits : Nat
  exponent : Int
  deriving DecidableEq

/-- The exponent that a text after the digits denotes, if it is one. -/
def exponentOf? : List Char → Option Int
  | [] => some 0
  | c :: cs => if c = 'e' ∨ c = 'E' then intOf? cs else none

/-- Digits with at most one point, at least one digit, and an optional exponent. -/
def scan? (cs : List Char) : Option Scanned :=
  let whole := cs.takeWhile Char.isDigit
  let rest := cs.dropWhile Char.isDigit
  let (part, tail) := match rest with
    | '.' :: r => (r.takeWhile Char.isDigit, r.dropWhile Char.isDigit)
    | r => ([], r)
  if whole.isEmpty && part.isEmpty then none
  else
    (exponentOf? tail).map fun e =>
      { digits := Nat.ofDigitChars 10 (whole ++ part) 0, exponent := e - part.length }

/-- Drops the zeros at the end of a number, which its exponent takes up. -/
def trimZeros (d : Nat) (e : Int) : Nat × Int :=
  if h : d ≠ 0 ∧ d % 10 = 0 then trimZeros (d / 10) (e + 1) else (d, e)
termination_by d
decreasing_by omega

/-- The digits `ds` with the point moved `e` places to the right, zeros filling what is missing. -/
def positional (ds : List Char) (e : Int) : List Char :=
  match e with
  | .ofNat k => ds ++ List.replicate k '0'
  | .negSucc k =>
    let places := k + 1
    if places < ds.length then ds.take (ds.length - places) ++ '.' :: ds.drop (ds.length - places)
    else '0' :: '.' :: List.replicate (places - ds.length) '0' ++ ds

end Embedder.Decimal
