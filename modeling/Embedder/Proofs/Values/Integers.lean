import Embedder.Value.Text
import Mathlib.Tactic.Lemma

/-!
# Which texts are integers

An integer is read digit by digit in a format that has no room for all numbers, first in one with a
sign and then in one without. What is accepted in the end are the numbers that one of the two formats
holds.

* `Decimal.Denotes`: an optional sign and decimal digits, and the integer that they denote;
* `IntegerFormat.foldlM_push?`: no step leaves the range unless the number itself is outside;
* `IntegerFormat.parse?_eq_some_iff`: what a format reads;
* `Value.parseWord?_eq_some_iff`: what two formats read one after the other;
* `Value.integers_that_fit`: which texts are values of the integer types, and which values they are.
-/

namespace Embedder

/-! ### Numerals -/

namespace Decimal

/-- What stands in front of the digits of an integer. -/
inductive Sign where
  | none
  | plus
  | minus
  deriving DecidableEq

namespace Sign

def text : Sign → List Char
  | .none => []
  | .plus => ['+']
  | .minus => ['-']

/-- The integer with the sign and an absolute value. -/
def apply : Sign → Nat → Int
  | .minus, n => -n
  | _, n => n

end Sign

/-- One or more decimal digits. -/
def IsNumeral (ds : List Char) : Prop := ds ≠ [] ∧ ∀ c ∈ ds, c.isDigit = true

/-- The number that decimal digits denote. -/
def number (ds : List Char) : Nat := Nat.ofDigitChars 10 ds 0

/-- The text is a sign, which may be missing, and a numeral; the integer is what they denote. -/
inductive Denotes (s : Sign) : List Char → Int → Prop
  | intro {ds : List Char} (h : IsNumeral ds) : Denotes s (s.text ++ ds) (s.apply (number ds))

/-- No digit is a sign. -/
lemma ne_sign_of_isDigit {c : Char} (h : c.isDigit = true) : c ≠ '+' ∧ c ≠ '-' := by
  constructor
  · rintro rfl
    cases h
  · rintro rfl
    cases h

lemma IsNumeral.exists_cons {ds : List Char} (h : IsNumeral ds) :
    ∃ c cs, ds = c :: cs ∧ c.isDigit = true := by
  obtain ⟨c, cs, rfl⟩ := List.exists_cons_of_ne_nil h.1
  exact ⟨c, cs, rfl, h.2 c List.mem_cons_self⟩

/-- A sign is told apart from the digit behind it. -/
lemma append_cons_eq_iff {s s' : Sign} {c c' : Char} {cs cs' : List Char} (hc : c.isDigit = true)
    (hc' : c'.isDigit = true) :
    s.text ++ c :: cs = s'.text ++ c' :: cs' ↔ s = s' ∧ c :: cs = c' :: cs' := by
  obtain ⟨hplus, hminus⟩ := ne_sign_of_isDigit hc
  obtain ⟨hplus', hminus'⟩ := ne_sign_of_isDigit hc'
  cases s <;> cases s' <;> simp [Sign.text, hplus, hminus, hplus'.symm, hminus'.symm]

/-- A text with a digit behind its sign is read as it stands, if it is read. -/
lemma denotes_append_iff {s s' : Sign} {c : Char} {cs : List Char} (hc : c.isDigit = true) {n : Int} :
    Denotes s' (s.text ++ c :: cs) n ↔
      s' = s ∧ IsNumeral (c :: cs) ∧ n = s.apply (number (c :: cs)) := by
  constructor
  · intro h
    generalize ht : s.text ++ c :: cs = text at h
    obtain ⟨hds⟩ := h
    obtain ⟨c', cs', rfl, hc'⟩ := hds.exists_cons
    obtain ⟨rfl, hcs⟩ := (append_cons_eq_iff hc hc').1 ht
    rw [hcs]
    exact ⟨rfl, hds, rfl⟩
  · rintro ⟨rfl, hds, rfl⟩
    exact .intro hds

/-- A text denotes one integer. -/
lemma Denotes.unique {s s' : Sign} {text : List Char} {n n' : Int} (h : Denotes s text n)
    (h' : Denotes s' text n') : s' = s ∧ n' = n := by
  obtain ⟨hds⟩ := h
  obtain ⟨c, cs, rfl, hc⟩ := hds.exists_cons
  obtain ⟨rfl, -, rfl⟩ := (denotes_append_iff hc).1 h'
  exact ⟨rfl, rfl⟩

/-! ### Zeros in front -/

lemma number_replicate_append (k : Nat) (ds : List Char) :
    number (List.replicate k '0' ++ ds) = number ds := by
  induction k with
  | zero => rfl
  | succ k ih =>
    have hzero : 10 * 0 + ('0'.toNat - '0'.toNat) = 0 := rfl
    rw [List.replicate_succ, List.cons_append, number, Nat.ofDigitChars_cons, hzero]
    exact ih

lemma isNumeral_replicate_append_iff (k : Nat) {ds : List Char} (hne : ds ≠ []) :
    IsNumeral (List.replicate k '0' ++ ds) ↔ IsNumeral ds := by
  constructor
  · rintro ⟨-, h⟩
    exact ⟨hne, fun c hc => h c (List.mem_append_right _ hc)⟩
  · rintro ⟨-, h⟩
    refine ⟨by simp [hne], fun c hc => ?_⟩
    rcases List.mem_append.1 hc with hc | hc
    · rw [List.eq_of_mem_replicate hc]
      rfl
    · exact h c hc

/-- Zeros in front of a digit do not change what a text denotes. -/
lemma denotes_replicate_iff {s s' : Sign} (k : Nat) {c : Char} {cs : List Char}
    (hc : c.isDigit = true) {n : Int} :
    Denotes s' (s.text ++ (List.replicate k '0' ++ c :: cs)) n ↔ Denotes s' (s.text ++ c :: cs) n := by
  cases k with
  | zero => rfl
  | succ k =>
    have hnumeral := isNumeral_replicate_append_iff (k + 1) (List.cons_ne_nil c cs)
    have hnumber := number_replicate_append (k + 1) (c :: cs)
    rw [List.replicate_succ, List.cons_append] at hnumeral hnumber ⊢
    rw [denotes_append_iff rfl, denotes_append_iff hc, hnumeral, hnumber]

end Decimal

open Decimal (Sign IsNumeral Denotes number)

/-! ### One format -/

namespace IntegerFormat

variable {f : IntegerFormat}

/-- A number that the format holds. -/
def Holds (f : IntegerFormat) (n : Int) : Prop := f.least ≤ n ∧ n ≤ f.greatest

lemma checked?_eq_some_iff {n m : Int} : f.checked? n = some m ↔ m = n ∧ f.Holds n := by
  unfold checked? Holds
  split
  · rename_i h
    simp [h, eq_comm]
  · rename_i h
    simp [h]

lemma least_le_zero (f : IntegerFormat) : f.least ≤ 0 := by
  have hpos : 0 < 2 ^ (f.width - 1) := Nat.two_pow_pos _
  unfold least
  split <;> omega

lemma zero_le_greatest (f : IntegerFormat) : 0 ≤ f.greatest := by
  have hsigned : 0 < 2 ^ (f.width - 1) := Nat.two_pow_pos _
  have hunsigned : 0 < 2 ^ f.width := Nat.two_pow_pos _
  unfold greatest
  split <;> omega

/-- What is held is held with every smaller absolute value. -/
lemma Holds.of_le {s : Sign} {n m : Nat} (h : f.Holds (s.apply m)) (hle : n ≤ m) :
    f.Holds (s.apply n) := by
  have hleast := f.least_le_zero
  have hgreatest := f.zero_le_greatest
  unfold Holds at h ⊢
  cases s <;> simp only [Sign.apply] at h ⊢ <;> omega

lemma le_ofDigitChars (ds : List Char) (n : Nat) : n ≤ Nat.ofDigitChars 10 ds n := by
  induction ds generalizing n with
  | nil => exact Nat.le_refl n
  | cons d ds ih =>
    rw [Nat.ofDigitChars_cons]
    have hle := ih (10 * n + (d.toNat - '0'.toNat))
    omega

/-- One digit more is put behind a number exactly if the format holds the result. -/
lemma push?_eq_some_iff {s : Sign} {n : Nat} {c : Char} {m : Int} :
    f.push? (decide (s = .minus)) (s.apply n) c = some m ↔
      c.isDigit = true ∧ m = s.apply (10 * n + (c.toNat - '0'.toNat)) ∧ f.Holds m := by
  have htens : 10 * s.apply n = s.apply (10 * n) := by
    cases s <;> simp only [Sign.apply] <;> omega
  have hsum (d : Nat) : (if decide (s = .minus) then s.apply (10 * n) - (d : Int)
      else s.apply (10 * n) + (d : Int)) = s.apply (10 * n + d) := by
    cases s with
    | none | plus => simp [Sign.apply]
    | minus =>
      simp only [decide_true, if_true, Sign.apply]
      omega
  unfold push?
  split
  · rename_i hc
    simp only [htens, Option.bind_eq_bind, Option.bind_eq_some_iff, checked?_eq_some_iff]
    constructor
    · rintro ⟨_, ⟨rfl, -⟩, rfl, h⟩
      rw [hsum] at h ⊢
      exact ⟨hc, rfl, h⟩
    · rintro ⟨-, rfl, h⟩
      -- the tens are nearer to zero than the whole number
      exact ⟨_, ⟨rfl, h.of_le (Nat.le_add_right _ _)⟩, (hsum _).symm, (hsum _).symm ▸ h⟩
  · rename_i hc
    simp [hc]

/-- Digits are put behind a number exactly if the format holds the result: on the way to it every
number is nearer to zero. -/
theorem foldlM_push? {s : Sign} {ds : List Char} {n : Nat} (hn : f.Holds (s.apply n)) {m : Int} :
    ds.foldlM (f.push? (decide (s = .minus))) (s.apply n) = some m ↔
      (∀ c ∈ ds, c.isDigit = true) ∧ m = s.apply (Nat.ofDigitChars 10 ds n) ∧ f.Holds m := by
  induction ds generalizing n with
  | nil =>
    constructor
    · intro h
      obtain rfl := Option.some.inj h
      exact ⟨by simp, rfl, hn⟩
    · rintro ⟨-, rfl, -⟩
      rfl
  | cons d ds ih =>
    rw [List.foldlM_cons, Option.bind_eq_bind, Option.bind_eq_some_iff, Nat.ofDigitChars_cons]
    constructor
    · rintro ⟨k, hk, hm⟩
      obtain ⟨hd, rfl, hk⟩ := push?_eq_some_iff.1 hk
      obtain ⟨hds, rfl, hm⟩ := (ih hk).1 hm
      exact ⟨List.forall_mem_cons.2 ⟨hd, hds⟩, rfl, hm⟩
    · rintro ⟨hds, rfl, hm⟩
      obtain ⟨hd, hds⟩ := List.forall_mem_cons.1 hds
      have hk : f.Holds (s.apply (10 * n + (d.toNat - '0'.toNat))) := hm.of_le (le_ofDigitChars ds _)
      exact ⟨_, push?_eq_some_iff.2 ⟨hd, rfl, hk⟩, (ih hk).2 ⟨hds, rfl, hm⟩⟩

lemma parseDigits?_eq_some_iff {s : Sign} {ds : List Char} {n : Int} :
    f.parseDigits? (decide (s = .minus)) ds = some n ↔
      IsNumeral ds ∧ n = s.apply (number ds) ∧ f.Holds n := by
  have hzero : s.apply 0 = 0 := by cases s <;> rfl
  have hholds : f.Holds (s.apply 0) := by
    rw [hzero]
    exact ⟨f.least_le_zero, f.zero_le_greatest⟩
  cases ds with
  | nil => simp [parseDigits?, IsNumeral]
  | cons d ds =>
    have hfold : (d :: ds).foldlM (f.push? (decide (s = .minus))) (s.apply 0) = some n ↔ _ :=
      foldlM_push? hholds
    rw [hzero] at hfold
    simp only [parseDigits?, hfold, IsNumeral, number, ne_eq, reduceCtorEq, not_false_eq_true,
      true_and]

/-- **A format reads the texts of the integers that it holds.** The minus sign is for formats with a
sign, which also read a zero with it. -/
theorem parse?_eq_some_iff {cs : List Char} {n : Int} :
    f.parse? cs = some n ↔ ∃ s, Denotes s cs n ∧ (s = .minus → f.signed = true) ∧ f.Holds n := by
  constructor
  · intro h
    unfold parse? at h
    split at h
    · obtain ⟨hds, rfl, hn⟩ := (parseDigits?_eq_some_iff (s := .plus)).1 h
      exact ⟨.plus, .intro hds, nofun, hn⟩
    · split at h
      · rename_i hsigned
        obtain ⟨hds, rfl, hn⟩ := (parseDigits?_eq_some_iff (s := .minus)).1 h
        exact ⟨.minus, .intro hds, fun _ => hsigned, hn⟩
      · cases h
    · obtain ⟨hds, rfl, hn⟩ := (parseDigits?_eq_some_iff (s := .none)).1 h
      exact ⟨.none, .intro hds, nofun, hn⟩
  · rintro ⟨s, ⟨hds⟩, hsigned, hn⟩
    have hread := parseDigits?_eq_some_iff.2 ⟨hds, rfl, hn⟩
    cases s with
    | none =>
      obtain ⟨c, cs, rfl, hc⟩ := hds.exists_cons
      obtain ⟨hplus, hminus⟩ := Decimal.ne_sign_of_isDigit hc
      simpa [parse?, Sign.text, hplus, hminus] using hread
    | plus => exact hread
    | minus => exact (if_pos (hsigned rfl)).trans hread

end IntegerFormat

/-! ### Values -/

namespace Value

open IntegerFormat (parse?_eq_some_iff)

variable {cs : List Char} {n : Int}

/-- A format with a sign and one without read the integers that one of them holds. -/
lemma parseWord?_eq_some_iff {signed unsigned : IntegerFormat} (hs : signed.signed = true)
    (hu : unsigned.signed = false) :
    parseWord? signed unsigned cs = some n ↔
      ∃ s, Denotes s cs n ∧ (signed.Holds n ∨ s ≠ .minus ∧ unsigned.Holds n) := by
  unfold parseWord?
  rw [Option.or_eq_some_iff, parse?_eq_some_iff, parse?_eq_some_iff]
  constructor
  · rintro (⟨s, hn, -, hheld⟩ | ⟨-, s, hn, hsign, hheld⟩)
    · exact ⟨s, hn, .inl hheld⟩
    · refine ⟨s, hn, .inr ⟨fun hminus => ?_, hheld⟩⟩
      rw [hsign hminus] at hu
      cases hu
  · rintro ⟨s, hn, hheld | ⟨hminus, hheld⟩⟩
    · exact .inl ⟨s, hn, fun _ => hs, hheld⟩
    · -- what the first format reads is the only integer that the text denotes
      cases hfirst : signed.parse? cs with
      | none => exact .inr ⟨rfl, s, hn, fun h => absurd h hminus, hheld⟩
      | some m =>
        obtain ⟨s', hm, hsign, hheld'⟩ := parse?_eq_some_iff.1 hfirst
        obtain ⟨rfl, rfl⟩ := hn.unique hm
        exact .inl ⟨_, hm, hsign, hheld'⟩

/-- **Two formats of one width, with and without a sign, read the integers from the least with a sign
to the greatest without one.** -/
theorem parseWord?_width {w : Nat} : parseWord? ⟨w, true⟩ ⟨w, false⟩ cs = some n ↔
    ∃ s, Denotes s cs n ∧ -(2 ^ (w - 1) : Nat) ≤ n ∧ n ≤ (2 ^ w : Nat) - 1 := by
  rw [parseWord?_eq_some_iff rfl rfl]
  refine exists_congr fun s => and_congr_right fun hn => ?_
  have hhalf : 2 ^ (w - 1) ≤ 2 ^ w := Nat.pow_le_pow_right (by decide) (Nat.sub_le w 1)
  have hpos : 0 < 2 ^ (w - 1) := Nat.two_pow_pos _
  have hsign : (s = .minus → n ≤ 0) ∧ (s ≠ .minus → 0 ≤ n) := by
    obtain ⟨hds⟩ := hn
    constructor
    · rintro rfl
      simp only [Sign.apply]
      omega
    · intro hne
      cases s with
      | minus => exact absurd rfl hne
      | none | plus => exact Int.natCast_nonneg _
  simp only [IntegerFormat.Holds, IntegerFormat.least, IntegerFormat.greatest, if_true,
    Bool.false_eq_true, if_false]
  by_cases hminus : s = .minus
  · have hle := hsign.1 hminus
    constructor
    · rintro (h | ⟨hne, -⟩)
      · omega
      · exact absurd hminus hne
    · intro h
      left
      omega
  · have hle := hsign.2 hminus
    constructor
    · rintro (h | ⟨-, h⟩) <;> omega
    · intro h
      exact .inr ⟨hminus, by omega⟩

/-- The bits of the value are the residue of the integer. -/
lemma map_parseWord?_eq_some_iff {β : Type} {w : Nat} {residue : Int → β} {toNat : β → Nat}
    (hbits : ∀ n b, (toNat b : Int) = n % 2 ^ w ↔ b = residue n) {wrap : β → Value} {v : Value} :
    (parseWord? ⟨w, true⟩ ⟨w, false⟩ cs).map (fun n => wrap (residue n)) = some v ↔
      ∃ s n bits, Denotes s cs n ∧ -(2 ^ (w - 1) : Nat) ≤ n ∧ n ≤ (2 ^ w : Nat) - 1 ∧
        (toNat bits : Int) = n % 2 ^ w ∧ v = wrap bits := by
  rw [Option.map_eq_some_iff]
  constructor
  · rintro ⟨n, hn, rfl⟩
    obtain ⟨s, hn, hleast, hgreatest⟩ := parseWord?_width.1 hn
    exact ⟨s, n, _, hn, hleast, hgreatest, (hbits n _).2 rfl, rfl⟩
  · rintro ⟨s, n, bits, hn, hleast, hgreatest, hresidue, rfl⟩
    exact ⟨n, parseWord?_width.2 ⟨s, hn, hleast, hgreatest⟩, by rw [(hbits n bits).1 hresidue]⟩

variable {text : String} {v : Value}

lemma parse?_i32_eq_some_iff : parse? .i32 text = some v ↔
    ∃ s n bits, Denotes s text.toList n ∧ -2 ^ 31 ≤ n ∧ n ≤ 2 ^ 32 - 1 ∧
      (bits.toNat : Int) = n % 2 ^ 32 ∧ v = .i32 bits := by
  refine map_parseWord?_eq_some_iff fun n bits => ?_
  have hresidue : ((UInt32.ofInt n).toNat : Int) = n % 2 ^ 32 := by
    simp only [UInt32.ofInt, UInt32.toNat_ofNat']
    omega
  rw [← hresidue, Int.natCast_inj, UInt32.toNat_inj]

lemma parse?_i64_eq_some_iff : parse? .i64 text = some v ↔
    ∃ s n bits, Denotes s text.toList n ∧ -2 ^ 63 ≤ n ∧ n ≤ 2 ^ 64 - 1 ∧
      (bits.toNat : Int) = n % 2 ^ 64 ∧ v = .i64 bits := by
  refine map_parseWord?_eq_some_iff fun n bits => ?_
  have hresidue : ((UInt64.ofInt n).toNat : Int) = n % 2 ^ 64 := by
    simp only [UInt64.ofInt, UInt64.toNat_ofNat']
    omega
  rw [← hresidue, Int.natCast_inj, UInt64.toNat_inj]

lemma parse?_v128_eq_some_iff : parse? .v128 text = some v ↔
    ∃ s n bits, Denotes s text.toList n ∧ s ≠ .minus ∧ n ≤ 2 ^ 128 - 1 ∧
      (bits.toNat : Int) = n ∧ v = .v128 bits := by
  have hbits (n : Int) (hn : 0 ≤ n ∧ n ≤ 2 ^ 128 - 1) (bits : BitVec 128) :
      (bits.toNat : Int) = n ↔ bits = BitVec.ofInt 128 n := by
    have hresidue : ((BitVec.ofInt 128 n).toNat : Int) = n := by
      rw [BitVec.toNat_ofInt]
      omega
    rw [← BitVec.toNat_inj]
    omega
  rw [parse?, parseChars?, Option.map_eq_some_iff]
  constructor
  · rintro ⟨n, hn, rfl⟩
    obtain ⟨s, hn, hsign, hheld⟩ := parse?_eq_some_iff.1 hn
    refine ⟨s, n, _, hn, fun hminus => ?_, hheld.2, (hbits n hheld _).2 rfl, rfl⟩
    cases hsign hminus
  · rintro ⟨s, n, bits, hn, hminus, hgreatest, hvalue, rfl⟩
    have hheld : 0 ≤ n ∧ n ≤ 2 ^ 128 - 1 := ⟨by omega, hgreatest⟩
    refine ⟨n, parse?_eq_some_iff.2 ⟨s, hn, fun h => absurd h hminus, hheld⟩, ?_⟩
    rw [(hbits n hheld bits).1 hvalue]

/-- Zeros in front of the digits do not matter. -/
lemma parse?_replicate {t : ValueType} (ht : t = .i32 ∨ t = .i64 ∨ t = .v128) (s : Sign) (k : Nat)
    {c : Char} (cs : List Char) (hc : c.isDigit = true) :
    parse? t (String.ofList (s.text ++ (List.replicate k '0' ++ c :: cs))) =
      parse? t (String.ofList (s.text ++ c :: cs)) := by
  refine Option.ext fun v => ?_
  rcases ht with rfl | rfl | rfl
  · simp only [parse?_i32_eq_some_iff, String.toList_ofList, Decimal.denotes_replicate_iff k hc]
  · simp only [parse?_i64_eq_some_iff, String.toList_ofList, Decimal.denotes_replicate_iff k hc]
  · simp only [parse?_v128_eq_some_iff, String.toList_ofList, Decimal.denotes_replicate_iff k hc]

/-- **The integers that fit are accepted, signed or unsigned.** A text is a value of an integer type if
and only if it is an optional sign and decimal digits that denote an integer from the least with a sign
to the greatest without one; the bits of the value are those of the integer in two's complement. For a
vector the integer is one without a minus sign, and the value is that integer. No text is a reference.
Zeros in front of the digits make no difference. -/
theorem integers_that_fit (text : String) :
    (∀ v, parse? .i32 text = some v ↔ ∃ s n bits, Denotes s text.toList n ∧
      -2 ^ 31 ≤ n ∧ n ≤ 2 ^ 32 - 1 ∧ (bits.toNat : Int) = n % 2 ^ 32 ∧ v = .i32 bits) ∧
    (∀ v, parse? .i64 text = some v ↔ ∃ s n bits, Denotes s text.toList n ∧
      -2 ^ 63 ≤ n ∧ n ≤ 2 ^ 64 - 1 ∧ (bits.toNat : Int) = n % 2 ^ 64 ∧ v = .i64 bits) ∧
    (∀ v, parse? .v128 text = some v ↔ ∃ s n bits, Denotes s text.toList n ∧ s ≠ .minus ∧
      n ≤ 2 ^ 128 - 1 ∧ (bits.toNat : Int) = n ∧ v = .v128 bits) ∧
    (∀ t : ValueType, t.isReference = true → parse? t text = none) ∧
    ∀ t, t = .i32 ∨ t = .i64 ∨ t = .v128 → ∀ (s : Sign) (k : Nat) (c : Char) (cs : List Char),
      c.isDigit = true → text = String.ofList (s.text ++ c :: cs) →
        parse? t (String.ofList (s.text ++ (List.replicate k '0' ++ c :: cs))) = parse? t text := by
  refine ⟨fun v => parse?_i32_eq_some_iff, fun v => parse?_i64_eq_some_iff,
    fun v => parse?_v128_eq_some_iff, fun t ht => ?_, ?_⟩
  · cases t with
    | externref | funcref => rfl
    | _ => cases ht
  · rintro t ht s k c cs hc rfl
    exact parse?_replicate ht s k cs hc

/-- A thousand zeros in front of the greatest number of 32 bits. -/
theorem thousand_zeros_in_front : parse? .i32 (String.ofList ('+' :: (List.replicate 1000 '0' ++
    "4294967295".toList))) = some (.i32 0xffffffff) := by
  obtain ⟨-, -, -, -, hzeros⟩ := integers_that_fit "+4294967295"
  have hsame := hzeros .i32 (.inl rfl) .plus 1000 '4' "294967295".toList rfl rfl
  exact hsame.trans (by decide)

/-- The four ends of the range of 32 bits, and the numbers next to them. -/
example : parse? .i32 "-2147483648" = some (.i32 0x80000000) ∧ parse? .i32 "-2147483649" = none ∧
    parse? .i32 "+004294967295" = some (.i32 0xffffffff) ∧ parse? .i32 "4294967296" = none ∧
    parse? .i32 "-0" = some (.i32 0) ∧ parse? .v128 "-0" = none := by
  decide

end Value

end Embedder
