import Embedder.Proofs.Json.Reading
import Embedder.Proofs.Lists

/-!
# What has been read was spelled

The other direction: whatever the readers of blanks, words, strings and natural numbers take off a
text is spelled as the grammar has it.

* `Json.blanks_skipBlanks`, `Json.readWord_eq_ok`: blanks and words;
* `Json.quotes_of_readString`: a string that was read stands between quotes;
* `Json.readNumber_eq_unsigned`: a natural number that was read is written with its digits.
-/

namespace Embedder.Json

open Elementwise (bind_eq_ok_iff)

variable {c c' : Cursor}

/-! ### Steps of reading -/

lemma rest_of_peek? {x : Char} (h : peek? c = some x) : c.rest = x :: c.next.rest := by
  obtain ⟨cs, p⟩ := c
  cases cs with
  | nil => cases h
  | cons y ys =>
    cases h
    rfl

lemma blanks_skipBlanks (c : Cursor) : Blanks c.rest c.skipBlanks.rest := by
  obtain ⟨cs, p⟩ := c
  induction cs generalizing p with
  | nil => exact .none _
  | cons x xs ih =>
    by_cases hx : IsBlank x
    · have hgo := ih (p.past x 1)
      simp only [Cursor.skipBlanks] at hgo
      simp only [Cursor.skipBlanks, Cursor.skipBlanks.go, isBlank_iff.2 hx, if_true]
      exact .more hx hgo
    · rw [skipBlanks_cons hx]
      exact .none _

lemma readWord_eq_ok {ws : List Char} (h : readWord ws c = .ok ((), c')) : c.rest = ws ++ c'.rest := by
  induction ws generalizing c with
  | nil =>
    cases h
    rfl
  | cons w ws ih =>
    obtain ⟨cs, p⟩ := c
    cases cs with
    | nil => cases h
    | cons x xs =>
      simp only [readWord] at h
      split at h
      next hx =>
        show x :: xs = w :: (ws ++ c'.rest)
        rw [hx, ← ih h]
        rfl
      · cases h

/-! ### Strings -/

lemma hexValue?_lt {x : Char} {n : Nat} (h : hexValue? x = some n) : n < 16 := by
  have hzero : '0'.toNat = 48 := rfl
  have hnine : '9'.toNat = 57 := rfl
  have ha : 'a'.toNat = 97 := rfl
  have hA : 'A'.toNat = 65 := rfl
  have hf : 'f'.toNat = 102 := rfl
  have hF : 'F'.toNat = 70 := rfl
  unfold hexValue? at h
  split at h
  next hx =>
    rw [Char.isDigit_iff_toNat] at hx
    cases h
    omega
  split at h
  next hx =>
    have hhigh : x.toNat ≤ 'f'.toNat := hx.2
    cases h
    omega
  split at h
  next hx =>
    have hhigh : x.toNat ≤ 'F'.toNat := hx.2
    cases h
    omega
  cases h

lemma readHex4_eq_ok {n : Nat} (h : readHex4 c = .ok (n, c')) :
    SpellsUnit n c.rest c'.rest ∧ n < 0x10000 := by
  unfold readHex4 at h
  split at h
  · cases h
  · split at h
    next w x y z rest hrest =>
      split at h
      next hw hx hy hz =>
        cases h
        have := hexValue?_lt hw
        have := hexValue?_lt hx
        have := hexValue?_lt hy
        have := hexValue?_lt hz
        obtain ⟨cs, p⟩ := c
        obtain rfl : cs = w :: x :: y :: z :: rest := hrest
        exact ⟨.digits hw hx hy hz rfl, by omega⟩
      · cases h
    · cases h

lemma toNat_ofNat {n : Nat} (h : n.isValidChar) : (Char.ofNat n).toNat = n := by
  unfold Char.ofNat
  rw [dif_pos h]
  rfl

lemma expectInSurrogate_eq_ok {x : Char} (h : expectInSurrogate x c = .ok ((), c')) :
    c.rest = x :: c'.rest := by
  obtain ⟨cs, p⟩ := c
  cases cs with
  | nil => cases h
  | cons y ys =>
    simp only [expectInSurrogate] at h
    split at h
    next hy =>
      cases h
      rw [hy]
      rfl
    · cases h

lemma readNumberedChar_eq_ok {x : Char} (h : readNumberedChar c = .ok (x, c')) :
    SpellsChar x ('\\' :: 'u' :: c.rest) c'.rest := by
  obtain ⟨⟨n, c₁⟩, hn, h⟩ := bind_eq_ok_iff.1 h
  obtain ⟨hunit, hlow⟩ := readHex4_eq_ok hn
  dsimp only at h
  split at h
  · cases h
  next htrail =>
    split at h
    next hlead =>
      cases h
      have hvalid : n.isValidChar := by
        rw [isTrailSurrogate_iff] at htrail
        rw [Bool.not_eq_true', ← Bool.not_eq_true, isLeadSurrogate_iff] at hlead
        simp only [Nat.isValidChar]
        omega
      refine .unit ?_
      rwa [toNat_ofNat hvalid]
    next hlead =>
      obtain ⟨⟨⟨⟩, c₂⟩, hslash, h⟩ := bind_eq_ok_iff.1 h
      obtain ⟨⟨⟨⟩, c₃⟩, hu, h⟩ := bind_eq_ok_iff.1 h
      obtain ⟨⟨m, c₄⟩, hm, h⟩ := bind_eq_ok_iff.1 h
      obtain ⟨hunit', -⟩ := readHex4_eq_ok hm
      dsimp only at h
      split at h
      next htrail' =>
        obtain ⟨rfl, rfl⟩ := Prod.mk.inj (Except.ok.inj h)
        rw [expectInSurrogate_eq_ok hslash, expectInSurrogate_eq_ok hu] at hunit
        rw [Bool.not_eq_true', Bool.not_eq_false, isLeadSurrogate_iff] at hlead
        rw [isTrailSurrogate_iff] at htrail'
        have hvalid : ((n - 0xD800) * 0x400 + (m - 0xDC00) + 0x10000).isValidChar := by
          simp only [Nat.isValidChar]
          omega
        have hn : 0xD800 + ((n - 0xD800) * 0x400 + (m - 0xDC00)) / 0x400 = n := by omega
        have hm : 0xDC00 + ((n - 0xD800) * 0x400 + (m - 0xDC00)) % 0x400 = m := by omega
        exact .pair (toNat_ofNat hvalid) (hn.symm ▸ hunit) (hm.symm ▸ hunit')
      · cases h

lemma readEscape_eq_ok {x : Char} (h : readEscape c = .ok (x, c')) :
    SpellsChar x ('\\' :: c.rest) c'.rest := by
  obtain ⟨cs, p⟩ := c
  cases cs with
  | nil => cases h
  | cons y ys =>
    simp only [readEscape] at h
    split at h
    case h_9 => exact readNumberedChar_eq_ok h
    case h_10 => cases h
    all_goals
      cases h
      exact .short (by decide)

/-- What was read of a string is put behind what was read before. -/
lemma readStringFrom_eq_ok {rounds : Nat} {acc : List Char} {s : String}
    (h : readStringFrom rounds c acc = .ok (s, c')) :
    ∃ xs, s = String.ofList (acc.reverse ++ xs) ∧ SpellsChars xs c.rest ('"' :: c'.rest) := by
  induction rounds generalizing c acc with
  | zero => cases h
  | succ n ih =>
    obtain ⟨cs, p⟩ := c
    simp only [readStringFrom] at h
    split at h
    · cases h
    · cases h
      exact ⟨[], by simp, .nil _⟩
    · obtain ⟨⟨x, c₁⟩, hx, h⟩ := bind_eq_ok_iff.1 h
      obtain ⟨xs, rfl, hxs⟩ := ih h
      exact ⟨x :: xs, by simp, .cons (readEscape_eq_ok hx) hxs⟩
    · split at h
      · cases h
      next hcontrol =>
        obtain ⟨xs, rfl, hxs⟩ := ih h
        exact ⟨_ :: xs, by simp, .cons (.plain ‹_› ‹_› (Nat.le_of_not_lt hcontrol)) hxs⟩

/-- **A string that was read** stands between its quotes. -/
lemma quotes_of_readString {s : String} (hc : peek? c = some '"')
    (h : readString c.next = .ok (s, c')) : Quotes s c.rest c'.rest := by
  obtain ⟨xs, rfl, hxs⟩ := readStringFrom_eq_ok h
  rw [rest_of_peek? hc]
  exact .quotes (by simpa using hxs)

/-! ### Numbers -/

/-- The digits that were read are the beginning of the text, and no digit follows them. -/
lemma go_eq_false {bound s v n k : Nat} {cs : List Char} {p : Position}
    (h : readDigits.go bound cs p s n = (v, k, false, c')) :
    ∃ ds, cs = ds ++ c'.rest ∧ (∀ x ∈ ds, x.isDigit = true) ∧ Undigited c'.rest ∧
      v = Nat.ofDigitChars 10 ds s ∧ (s < bound → v < bound) := by
  induction cs generalizing s p n with
  | nil =>
    cases h
    exact ⟨[], rfl, by simp, by simp [Undigited], rfl, id⟩
  | cons x xs ih =>
    simp only [readDigits.go] at h
    split at h
    next hx =>
      split at h
      next hbound =>
        obtain ⟨ds, rfl, hds, hrest, rfl, hv⟩ := ih h
        exact ⟨x :: ds, rfl, List.forall_mem_cons.2 ⟨hx, hds⟩, hrest, ofDigitChars_cons.symm,
          fun _ => hv hbound⟩
      · cases h
    next hx =>
      cases h
      exact ⟨[], rfl, by simp, by rintro _ ⟨⟩; simpa using hx, rfl, id⟩

lemma digitChar_digitValue {x : Char} (hx : x.isDigit = true) :
    digitValue x < 10 ∧ (digitValue x).digitChar = x := by
  have hall : ∀ n < 58, 48 ≤ n → digitValue (Char.ofNat n) < 10 ∧
      (digitValue (Char.ofNat n)).digitChar = Char.ofNat n := by
    decide
  rw [Char.isDigit_iff_toNat] at hx
  have hvalue := hall x.toNat (Nat.lt_succ_of_le hx.2) hx.1
  rwa [Char.ofNat_toNat] at hvalue

/-- Digits are written behind those of the number that they go on with. -/
lemma toDigits_ofDigitChars {ds : List Char} (hds : ∀ x ∈ ds, x.isDigit = true) {s : Nat}
    (hs : s ≠ 0) : Nat.toDigits 10 (Nat.ofDigitChars 10 ds s) = Nat.toDigits 10 s ++ ds := by
  induction ds generalizing s with
  | nil => simp
  | cons x xs ih =>
    obtain ⟨hx, hxs⟩ := List.forall_mem_cons.1 hds
    obtain ⟨hlow, hchar⟩ := digitChar_digitValue hx
    have hdiv : (s * 10 + digitValue x) / 10 = s := by omega
    have hmod : (s * 10 + digitValue x) % 10 = digitValue x := by omega
    rw [ofDigitChars_cons, ih hxs (by omega), Nat.toDigits_of_base_le (by omega) (by omega), hdiv,
      hmod, hchar, List.append_assoc]
    rfl

/-- Digits that do not start with a zero are those of their number. -/
lemma toDigits_digits {x : Char} {xs : List Char} (hx : x ≠ '0')
    (hds : ∀ y ∈ x :: xs, y.isDigit = true) :
    Nat.toDigits 10 (Nat.ofDigitChars 10 (x :: xs) 0) = x :: xs := by
  obtain ⟨hdigit, hxs⟩ := List.forall_mem_cons.1 hds
  obtain ⟨hlow, hchar⟩ := digitChar_digitValue hdigit
  have hzero : digitValue x ≠ 0 := by
    intro h
    rw [h] at hchar
    exact hx hchar.symm
  rw [ofDigitChars_cons, Nat.zero_mul, Nat.zero_add, toDigits_ofDigitChars hxs hzero,
    Nat.toDigits_of_lt_base hlow, hchar]
  rfl

lemma afterInteger_eq_unsigned {s n : Nat} (h : afterInteger true s c = .ok (.unsigned n, c')) :
    n = s ∧ c' = c := by
  unfold afterInteger at h
  split at h
  · exact absurd h (notUnsigned_readFraction n c')
  · exact absurd h (notUnsigned_readExponent n c')
  · exact absurd h (notUnsigned_readExponent n c')
  · cases h
    exact ⟨rfl, rfl⟩

/-- **A natural number that was read** is written with its digits, and is in range. -/
lemma readNumber_eq_unsigned {n : Nat} (h : readNumber true c = .ok (.unsigned n, c')) :
    c.rest = Nat.toDigits 10 n ++ c'.rest ∧ n < 2 ^ 64 := by
  simp only [readNumber] at h
  split at h
  · cases h
  next hpeek =>
    split at h
    · cases h
    · obtain ⟨rfl, rfl⟩ := afterInteger_eq_unsigned h
      exact ⟨rest_of_peek? hpeek, by decide⟩
  next x hzero hpeek =>
    split at h
    · cases h
    next hdigit =>
      split at h
      next hmore =>
        generalize hgo : readDigits integerRange 0 c = r at h hmore
        obtain ⟨v, k, more, c₁⟩ := r
        obtain rfl : more = false := by simpa using hmore
        obtain ⟨rfl, rfl⟩ := afterInteger_eq_unsigned h
        obtain ⟨ds, hrest, hds, hend, rfl, hlow⟩ := go_eq_false hgo
        have hcons := rest_of_peek? hpeek
        cases ds with
        | nil =>
          have hx := hend x (by rw [← List.nil_append c'.rest, ← hrest, hcons]; rfl)
          exact absurd hx (by simpa using hdigit)
        | cons y ys =>
          obtain rfl : x = y := (List.cons.inj (hcons.symm.trans hrest)).1
          refine ⟨?_, hlow (by decide)⟩
          rw [hrest, toDigits_digits (fun h => hzero h) hds]
      next hmore =>
        exfalso
        split at h
        · exact notUnsigned_readFraction n c' h
        · exact notUnsigned_readExponent n c' h
        · exact notUnsigned_readExponent n c' h
        · exact notUnsigned_floatOf n c' h

end Embedder.Json
