import Embedder.Power

/-!
Numbers as bytes, the lowest byte first.
-/

namespace Embedder

/-- The number whose bytes are given. -/
def littleEndian (bytes : List UInt8) : Nat := bytes.foldr (fun b n => b.toNat + 256 * n) 0

/-- The lowest `count` bytes of a number. -/
def littleEndianBytes : (count : Nat) → Nat → List UInt8
  | 0, _ => []
  | count + 1, n => UInt8.ofNat (n % 256) :: littleEndianBytes count (n / 256)

theorem length_littleEndianBytes (count n : Nat) : (littleEndianBytes count n).length = count := by
  induction count generalizing n with
  | zero => rfl
  | succ count ih => simp [littleEndianBytes, ih]

theorem littleEndian_littleEndianBytes (count n : Nat) :
    littleEndian (littleEndianBytes count n) = n % 256 ^ count := by
  induction count generalizing n with
  | zero => simp [littleEndianBytes, littleEndian, Nat.mod_one]
  | succ count ih =>
    have tail : littleEndian (littleEndianBytes (count + 1) n) =
        n % 256 + 256 * littleEndian (littleEndianBytes count (n / 256)) := by
      simp [littleEndianBytes, littleEndian]
    rw [tail, ih, Nat.pow_succ, Nat.mul_comm (256 ^ count) 256, Nat.mod_mul]

end Embedder
