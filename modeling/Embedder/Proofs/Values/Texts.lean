import Embedder.Proofs.Values.Integers
import Mathlib.Tactic.SplitIfs

/-!
# Values as they are printed

A result is printed with its value in decimal, but for vectors, which are printed in hexadecimal.
Vectors are read in decimal.

* `Decimal.denotes_ofInt`: what is written for an integer denotes it;
* `Value.parse?_text_of_word`, `Value.parse?_text_of_vector`: which values come back from what is
  printed for them;
* `Value.newline_notMem_chars`: no value is printed in more than one line.
-/

namespace Embedder

/-! ### Integers come back -/

namespace Decimal

lemma isNumeral_ofNat (n : Nat) : IsNumeral (ofNat n) :=
  ⟨Nat.toDigits_ne_nil, fun _ hc => Nat.isDigit_of_mem_toDigits (by decide) (by decide) hc⟩

lemma denotes_ofNat (s : Sign) (n : Nat) : Denotes s (s.text ++ ofNat n) (s.apply n) := by
  have h := Denotes.intro (s := s) (isNumeral_ofNat n)
  rwa [number, ofNat, Nat.ofDigitChars_ten_toDigits] at h

/-- What is written for an integer denotes it. -/
theorem denotes_ofInt (n : Int) : ∃ s, Denotes s (ofInt n) n := by
  cases n with
  | ofNat k => exact ⟨.none, denotes_ofNat .none k⟩
  | negSucc k => exact ⟨.minus, denotes_ofNat .minus (k + 1)⟩

end Decimal

namespace Value

variable {v : Value}

/-- Bits are the residue of the integer that they are in two's complement. -/
lemma toInt_emod {w : Nat} (bits : BitVec w) : (bits.toNat : Int) = bits.toInt % (2 ^ w : Nat) := by
  have hlt : (bits.toNat : Int) < (2 ^ w : Nat) := Int.ofNat_lt.2 bits.isLt
  rw [BitVec.toInt_eq_toNat_bmod, Int.bmod_emod, Int.emod_eq_of_lt (Int.natCast_nonneg _) hlt]

/-- An integer that is printed is read back. -/
theorem parse?_text_of_word (h : v.type = .i32 ∨ v.type = .i64) : parse? v.type v.text = some v := by
  cases v with
  | i32 bits =>
    obtain ⟨s, hn⟩ := Decimal.denotes_ofInt bits.toInt32.toInt
    have hleast := bits.toInt32.le_toInt
    have hgreatest := bits.toInt32.toInt_lt
    rw [text, chars, type, parse?_i32_eq_some_iff, String.toList_ofList]
    exact ⟨s, _, bits, hn, hleast, by omega, toInt_emod bits.toBitVec, rfl⟩
  | i64 bits =>
    obtain ⟨s, hn⟩ := Decimal.denotes_ofInt bits.toInt64.toInt
    have hleast := bits.toInt64.le_toInt
    have hgreatest := bits.toInt64.toInt_lt
    rw [text, chars, type, parse?_i64_eq_some_iff, String.toList_ofList]
    exact ⟨s, _, bits, hn, hleast, by omega, toInt_emod bits.toBitVec, rfl⟩
  | _ => rcases h with h | h <;> cases h

/-- A vector that is printed is not read back: its text has a letter. -/
theorem parse?_text_of_vector (h : v.type = .v128) : parse? v.type v.text = none := by
  cases v with
  | v128 bits =>
    refine Option.eq_none_iff_forall_ne_some.2 fun v hv => ?_
    obtain ⟨s, n, _, hn, -⟩ := parse?_v128_eq_some_iff.1 hv
    rw [text, String.toList_ofList] at hn
    obtain ⟨-, hnumeral, -⟩ := (Decimal.denotes_append_iff (s := .none) rfl).1 hn
    have hletter : 'x'.isDigit = true := hnumeral.2 'x' (by simp)
    cases hletter
  | _ => cases h

end Value

/-! ### One line for a value -/

lemma newline_notMem_toDigits {b : Nat} (hb : 1 < b) (hle : b ≤ 16) (n : Nat) :
    '\n' ∉ Nat.toDigits b n := by
  have hdigit : ∀ d < 16, '\n' ≠ d.digitChar := by decide
  induction n using Nat.strongRecOn with
  | ind n ih =>
    by_cases hn : n < b
    · have hfirst := hdigit n (by omega)
      simp [Nat.toDigits_of_lt_base hn, hfirst]
    · have hrest := ih (n / b) (Nat.div_lt_self (by omega) hb)
      have hlast := hdigit (n % b) (Nat.lt_of_lt_of_le (Nat.mod_lt n (by omega)) hle)
      simp [Nat.toDigits_of_base_le hb (Nat.le_of_not_lt hn), hrest, hlast]

lemma Decimal.newline_notMem_ofNat (n : Nat) : '\n' ∉ ofNat n :=
  newline_notMem_toDigits (by decide) (by decide) n

lemma Decimal.newline_notMem_ofInt (n : Int) : '\n' ∉ ofInt n := by
  cases n with
  | ofNat k => exact newline_notMem_ofNat k
  | negSucc k => simp [ofInt, newline_notMem_ofNat]

lemma Decimal.newline_notMem_positional {ds : List Char} (h : '\n' ∉ ds) (e : Int) :
    '\n' ∉ positional ds e := by
  have htake (k : Nat) : '\n' ∉ ds.take k := fun hk => h (List.mem_of_mem_take hk)
  have hdrop (k : Nat) : '\n' ∉ ds.drop k := fun hk => h (List.mem_of_mem_drop hk)
  unfold positional
  split
  · simp [h]
  · simp only
    split
    · simp [htake, hdrop]
    · simp [h]

lemma FloatFormat.newline_notMem_text (f : FloatFormat) (bits : Nat) : '\n' ∉ f.text bits := by
  have hsign : '\n' ∉ (if f.isNegative bits then ['-'] else []) := by
    split <;> simp
  have hdigits (d : Nat) (e : Int) : '\n' ∉ Decimal.positional (Decimal.ofNat d) e :=
    Decimal.newline_notMem_positional (Decimal.newline_notMem_ofNat d) e
  unfold text
  simp only
  split_ifs <;> simp_all

/-- **No value is printed in more than one line.** -/
theorem Value.newline_notMem_chars (v : Value) : '\n' ∉ v.chars := by
  cases v with
  | i32 bits => exact Decimal.newline_notMem_ofInt _
  | i64 bits => exact Decimal.newline_notMem_ofInt _
  | f32 bits => exact FloatFormat.newline_notMem_text _ _
  | f64 bits => exact FloatFormat.newline_notMem_text _ _
  | v128 bits =>
    have hdigits := newline_notMem_toDigits (b := 16) (by decide) (by decide) bits.toNat
    simp [chars, vectorDigits, hdigits]

end Embedder
