import Embedder.Binary.Encoder
import Embedder.Proofs.Binary.Reading
import Embedder.Proofs.Wasi.Texts

/-!
# What is written can be read

* `Binary.reads_unsignedBytes`: integers;
* `Binary.reads_sizedBytes`, `Binary.reads_nameBytes`: bytes and names behind their sizes;
* `Binary.reads_customBytes`: custom sections.
-/

namespace Embedder.Binary

open Wasi.Calling (utf8)

/-- The bytes of a size are read again, if it is not too large for the reader. -/
lemma reads_unsignedBytes {bits n : Nat} (h : n < 2 ^ bits) :
    Reads (unsigned bits) (unsignedBytes n) n := by
  induction bits using Nat.strongRecOn generalizing n with
  | ind bits ih =>
    intro rest
    rw [unsigned, unsignedBytes]
    by_cases hsmall : n < 128
    · have hbyte : (UInt8.ofNat n).toNat = n := by simp; omega
      have hlast : UInt8.ofNat n < 0x80 := UInt8.lt_iff_toNat_lt.2 (by rw [hbyte]; exact hsmall)
      have hfits : ¬ (bits < 7 ∧ 2 ^ bits ≤ (UInt8.ofNat n).toNat) := by rw [hbyte]; omega
      rw [dif_pos hsmall]
      refine bind_eq_ok_iff.2 ⟨UInt8.ofNat n, rest, rfl, ?_⟩
      rw [if_pos hlast, if_neg hfits, hbyte]
      rfl
    · have hbyte : (UInt8.ofNat (n % 128 + 128)).toNat = n % 128 + 128 := by simp; omega
      have hmore : ¬ UInt8.ofNat (n % 128 + 128) < 0x80 := fun hlt => by
        have hlt := UInt8.lt_iff_toNat_lt.1 hlt
        rw [hbyte] at hlt
        change n % 128 + 128 < 128 at hlt
        omega
      -- more than one group is needed, so the reader takes more than one
      have hbits : ¬ bits ≤ 7 := fun hle => by
        have hpow : 2 ^ bits ≤ 2 ^ 7 := Nat.pow_le_pow_right (by omega) hle
        omega
      have hhigh : n / 128 < 2 ^ (bits - 7) := by
        have hsplit : 2 ^ bits = 128 * 2 ^ (bits - 7) := by
          rw [show (128 : Nat) = 2 ^ 7 from rfl, ← Nat.pow_add, Nat.add_sub_cancel' (by omega)]
        exact Nat.div_lt_of_lt_mul (hsplit ▸ h)
      rw [dif_neg hsmall]
      refine bind_eq_ok_iff.2 ⟨UInt8.ofNat (n % 128 + 128), unsignedBytes (n / 128) ++ rest, rfl, ?_⟩
      rw [if_neg hmore, dif_neg hbits]
      refine bind_eq_ok_iff.2 ⟨n / 128, rest, ih (bits - 7) (by omega) hhigh rest, ?_⟩
      refine pure_eq_ok_iff.2 ⟨?_, rfl⟩
      rw [hbyte]
      omega

lemma reads_sizedBytes {bytes : List UInt8} (h : bytes.length < 2 ^ 32) :
    Reads byteVector (sizedBytes bytes) bytes := by
  intro rest
  have htaken : (bytes ++ rest).take bytes.length = bytes := List.take_left
  rw [sizedBytes, List.append_assoc]
  refine bind_eq_ok_iff.2 ⟨bytes.length, bytes ++ rest, reads_unsignedBytes h _, ?_⟩
  simp [take, htaken]

lemma reads_nameBytes {n : String} (h : n.utf8ByteSize ≤ maxNameSize) :
    Reads name (nameBytes n) n := by
  intro rest
  have hlength : n.toUTF8.toList.length < 2 ^ 32 := by
    have hsize := Wasi.length_utf8 n
    unfold utf8 at hsize
    unfold maxNameSize at h
    omega
  have htext : String.fromUTF8? ⟨n.toUTF8.toList.toArray⟩ = some n := Wasi.text?_utf8 n
  refine bind_eq_ok_iff.2 ⟨n, rest, bind_eq_ok_iff.2 ⟨_, rest, reads_sizedBytes hlength rest, ?_⟩, ?_⟩
  · rw [htext]
    rfl
  · rw [if_pos h]
    rfl

/-- A custom section that is not too large. -/
lemma reads_customBytes {c : CustomSection}
    (h : (nameBytes c.name ++ c.bytes).length < 2 ^ 32) :
    Reads rawSection (customBytes c) ⟨0, nameBytes c.name ++ c.bytes⟩ := by
  intro rest
  refine bind_eq_ok_iff.2 ⟨0, sizedBytes (nameBytes c.name ++ c.bytes) ++ rest, rfl, ?_⟩
  exact bind_eq_ok_iff.2 ⟨_, rest, reads_sizedBytes h rest, rfl⟩

end Embedder.Binary
