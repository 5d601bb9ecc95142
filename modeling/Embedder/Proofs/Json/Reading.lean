import Embedder.Proofs.Json.Grammar
import Mathlib.Tactic.Lemma

/-!
# Reading the signs of JSON

What the readers of blanks, strings and numbers make of a text that is spelled as the grammar has
it, wherever in a text it stands.

* `Reads`, `Passes`, `Refuses`, `Answers`: what a reader makes of a text;
* `skips`: blanks are passed over;
* `reads_readString`: a string is read from any of its spellings;
* `reads_readNumber`, `notUnsigned_readNumber_true`: which numbers are read as natural numbers;
* `Document.StartsWith`: what the first character tells of a document.
-/

namespace Embedder.Json

variable {cs as bs rest : List Char}

/-! ### What a reader makes of a text -/

section Readers

variable {ε α β γ : Type} {f : Cursor → Except ε (α × Cursor)} {a : α} {b : β}

/-- The reader takes `a` from the beginning of `cs` and leaves `rest`. -/
def Reads (f : Cursor → Except ε (α × Cursor)) (cs : List Char) (a : α) (rest : List Char) : Prop :=
  ∀ p, ∃ q, f ⟨cs, p⟩ = .ok (a, ⟨rest, q⟩)

/-- The reader leaves `rest` of `cs`. -/
def Passes (f : Cursor → Except ε Cursor) (cs rest : List Char) : Prop :=
  ∀ p, ∃ q, f ⟨cs, p⟩ = .ok ⟨rest, q⟩

def Refuses (f : Cursor → Except ε α) (cs : List Char) : Prop := ∀ p, ∃ e, f ⟨cs, p⟩ = .error e

/-- The reader takes the value if there is one, and refuses the text if there is none. -/
def Answers (f : Cursor → Except ε (α × Cursor)) (cs : List Char) (rest : List Char) : Option α → Prop
  | some a => Reads f cs a rest
  | none => Refuses f cs

/-- What comes after a reader goes on with what was read. -/
lemma Reads.bind_eq (hf : Reads f cs a as) (k : α × Cursor → Except ε γ) (p : Position) :
    ∃ q, (f ⟨cs, p⟩ >>= k) = k (a, ⟨as, q⟩) := by
  obtain ⟨q, hq⟩ := hf p
  exact ⟨q, by rw [hq]; rfl⟩

lemma Refuses.bind {f : Cursor → Except ε α} (hf : Refuses f cs) (k : α → Except ε γ) :
    Refuses (fun c => f c >>= k) cs := by
  intro p
  obtain ⟨e, he⟩ := hf p
  exact ⟨e, by simp only [he]; rfl⟩

lemma Passes.bind_eq {f : Cursor → Except ε Cursor} (hf : Passes f cs as) (k : Cursor → Except ε γ)
    (p : Position) : ∃ q, (f ⟨cs, p⟩ >>= k) = k ⟨as, q⟩ := by
  obtain ⟨q, hq⟩ := hf p
  exact ⟨q, by rw [hq]; rfl⟩

/-- The same answer is given of a text with which a reader goes on as another one starts. -/
lemma Answers.of_eq {g : Cursor → Except ε (α × Cursor)} {o : Option α} (h : Answers g as rest o)
    (hfg : ∀ p, ∃ q, f ⟨cs, p⟩ = g ⟨as, q⟩) : Answers f cs rest o := by
  cases o with
  | none =>
    intro p
    obtain ⟨q, hq⟩ := hfg p
    exact hq ▸ h q
  | some a =>
    intro p
    obtain ⟨q, hq⟩ := hfg p
    exact hq ▸ h q

/-- An answer is given of what follows a value. -/
lemma Reads.answers {g : α × Cursor → Except ε (β × Cursor)} {o : Option β} (hf : Reads f cs a as)
    (hg : Answers (fun c => g (a, c)) as rest o) : Answers (fun c => f c >>= g) cs rest o :=
  hg.of_eq fun p => hf.bind_eq g p

lemma Reads.bind {g : α × Cursor → Except ε (β × Cursor)} (hf : Reads f cs a as)
    (hg : Reads (fun c => g (a, c)) as b rest) : Reads (fun c => f c >>= g) cs b rest :=
  Reads.answers (o := some b) hf hg

lemma Reads.map (hf : Reads f cs a rest) (k : α → β) :
    Reads (fun c => f c >>= fun (x, c) => .ok (k x, c)) cs (k a) rest :=
  hf.bind fun p => ⟨p, rfl⟩

/-- **One answer after the other**: there is a value at the end if there is one in every step. -/
lemma Answers.bind {g : α × Cursor → Except ε (β × Cursor)} {o : Option α} {o' : α → Option β}
    (hf : Answers f cs as o) (hg : ∀ a, Answers (fun c => g (a, c)) as rest (o' a)) :
    Answers (fun c => f c >>= g) cs rest (o.bind o') := by
  cases o with
  | none => exact Refuses.bind hf g
  | some a => exact Reads.answers hf (hg a)

lemma Answers.map {o : Option α} (hf : Answers f cs rest o) (k : α → β) :
    Answers (fun c => f c >>= fun (x, c) => .ok (k x, c)) cs rest (o.map k) := by
  cases o with
  | none => exact Refuses.bind hf _
  | some a => exact Reads.map hf k

lemma Passes.answers {f : Cursor → Except ε Cursor} {g : Cursor → Except ε (β × Cursor)}
    {o : Option β} (hf : Passes f cs as) (hg : Answers g as rest o) :
    Answers (fun c => f c >>= g) cs rest o :=
  hg.of_eq fun p => hf.bind_eq g p

end Readers

/-! ### Blanks -/

lemma isBlank_iff {x : Char} : Cursor.isBlank x = true ↔ IsBlank x := by
  simp [Cursor.isBlank, IsBlank, or_assoc]

lemma not_isBlank_of_isDigit {x : Char} (h : x.isDigit = true) : ¬ IsBlank x := by
  rintro (rfl | rfl | rfl | rfl) <;> cases h

/-- The text starts with no blank. -/
def Bare (cs : List Char) : Prop := ∀ x ∈ cs.head?, ¬ IsBlank x

@[simp] lemma bare_nil : Bare [] := by simp [Bare]

@[simp] lemma bare_cons {x : Char} : Bare (x :: cs) ↔ ¬ IsBlank x := by simp [Bare]

lemma Blanks.trans (h : Blanks cs as) (h' : Blanks as rest) : Blanks cs rest := by
  induction h with
  | none => exact h'
  | more hx _ ih => exact .more hx (ih h')

lemma skipBlanks_cons {x : Char} (hx : ¬ IsBlank x) (cs : List Char) (p : Position) :
    (⟨x :: cs, p⟩ : Cursor).skipBlanks = ⟨x :: cs, p⟩ := by
  rw [← isBlank_iff] at hx
  simp [Cursor.skipBlanks, Cursor.skipBlanks.go, hx]

/-- **Blanks are passed over.** -/
lemma skips (h : Blanks cs rest) (hr : Bare rest) (p : Position) :
    ∃ q, (⟨cs, p⟩ : Cursor).skipBlanks = ⟨rest, q⟩ := by
  induction h generalizing p with
  | none rest =>
    cases rest with
    | nil => exact ⟨p, rfl⟩
    | cons x xs => exact ⟨p, skipBlanks_cons (bare_cons.1 hr) xs p⟩
  | @more x _ _ hx _ ih =>
    obtain ⟨q, hq⟩ := ih hr (p.past x 1)
    refine ⟨q, ?_⟩
    simpa only [Cursor.skipBlanks, Cursor.skipBlanks.go, isBlank_iff.2 hx, if_true] using hq

lemma bare_skipBlanks (c : Cursor) : Bare c.skipBlanks.rest := by
  obtain ⟨cs, p⟩ := c
  induction cs generalizing p with
  | nil => exact bare_nil
  | cons x xs ih =>
    by_cases hx : IsBlank x
    · have hnext := ih (p.past x 1)
      simpa only [Cursor.skipBlanks, Cursor.skipBlanks.go, isBlank_iff.2 hx, if_true] using hnext
    · rw [skipBlanks_cons hx]
      exact bare_cons.2 hx

/-- Blanks are passed over once. -/
@[simp] lemma skipBlanks_skipBlanks (c : Cursor) : c.skipBlanks.skipBlanks = c.skipBlanks := by
  have hbare := bare_skipBlanks c
  generalize c.skipBlanks = d at hbare
  obtain ⟨ds, q⟩ := d
  cases ds with
  | nil => rfl
  | cons x xs => exact skipBlanks_cons (bare_cons.1 hbare) xs q

/-! ### Words -/

lemma reads_readWord (ws rest : List Char) : Reads (readWord ws) (ws ++ rest) () rest := by
  induction ws with
  | nil => exact fun p => ⟨p, rfl⟩
  | cons w ws ih =>
    intro p
    obtain ⟨q, hq⟩ := ih (p.past w w.utf8Size)
    exact ⟨q, by simpa [readWord, Cursor.next] using hq⟩

/-! ### Strings -/

lemma reads_readHex4 {n : Nat} (h : SpellsUnit n cs rest) : Reads readHex4 cs n rest := by
  intro p
  cases h with
  | @digits w x y z _ _ _ _ rest hw hx hy hz hn =>
    have hsize : ¬ w.utf8Size + (x.utf8Size + (y.utf8Size + z.utf8Size)) < 4 := by
      have := w.utf8Size_pos
      have := x.utf8Size_pos
      have := y.utf8Size_pos
      have := z.utf8Size_pos
      omega
    exact ⟨_, by simp [readHex4, hsize, hw, hx, hy, hz, hn, Cursor.next]; rfl⟩

lemma isLeadSurrogate_iff {n : Nat} : isLeadSurrogate n = true ↔ 0xD800 ≤ n ∧ n ≤ 0xDBFF := by
  simp only [isLeadSurrogate, Bool.and_eq_true, decide_eq_true_eq]

lemma isTrailSurrogate_iff {n : Nat} : isTrailSurrogate n = true ↔ 0xDC00 ≤ n ∧ n ≤ 0xDFFF := by
  simp only [isTrailSurrogate, Bool.and_eq_true, decide_eq_true_eq]

lemma not_isSurrogate (x : Char) :
    isTrailSurrogate x.toNat = false ∧ isLeadSurrogate x.toNat = false := by
  have hx : x.toNat < 0xD800 ∨ 0xDFFF < x.toNat ∧ x.toNat < 0x110000 := x.valid
  rw [← Bool.not_eq_true, ← Bool.not_eq_true, isTrailSurrogate_iff, isLeadSurrogate_iff]
  omega

lemma reads_numbered_unit {x : Char} (h : SpellsUnit x.toNat cs rest) :
    Reads readNumberedChar cs x rest := by
  obtain ⟨htrail, hlead⟩ := not_isSurrogate x
  exact (reads_readHex4 h).bind fun p => ⟨p, by simp [htrail, hlead]⟩

lemma reads_numbered_pair {x : Char} {n : Nat} (hx : x.toNat = n + 0x10000)
    (hlead : SpellsUnit (0xD800 + n / 0x400) cs ('\\' :: 'u' :: bs))
    (htrail : SpellsUnit (0xDC00 + n % 0x400) bs rest) : Reads readNumberedChar cs x rest := by
  have hrange : x.toNat < 0xD800 ∨ 0xDFFF < x.toNat ∧ x.toNat < 0x110000 := x.valid
  have h₁ : isTrailSurrogate (0xD800 + n / 0x400) = false := by
    rw [← Bool.not_eq_true, isTrailSurrogate_iff]
    omega
  have h₂ : isLeadSurrogate (0xD800 + n / 0x400) = true := by
    rw [isLeadSurrogate_iff]
    omega
  have h₃ : isTrailSurrogate (0xDC00 + n % 0x400) = true := by
    rw [isTrailSurrogate_iff]
    omega
  have hvalue : Char.ofNat ((0xD800 + n / 0x400 - 0xD800) * 0x400 +
      (0xDC00 + n % 0x400 - 0xDC00) + 0x10000) = x := by
    rw [Nat.add_sub_cancel_left, Nat.add_sub_cancel_left, Nat.div_add_mod', ← hx, Char.ofNat_toNat]
  refine (reads_readHex4 hlead).bind fun p => ?_
  simp only [h₁, h₂, Bool.not_true, Bool.false_eq_true, if_false]
  exact (reads_readHex4 htrail).bind (fun q => ⟨q, by simp only [h₃, if_true, hvalue]⟩) _

/-- One character is read, and put on those before it. -/
lemma exists_readStringFrom_step {x : Char} (h : SpellsChar x as bs) (rounds : Nat)
    (acc : List Char) (p : Position) :
    ∃ q, readStringFrom (rounds + 1) ⟨as, p⟩ acc = readStringFrom rounds ⟨bs, q⟩ (x :: acc) := by
  have hescaped {cs : List Char} (hread : Reads readEscape cs x bs) :
      ∃ q, readStringFrom (rounds + 1) ⟨'\\' :: cs, p⟩ acc =
        readStringFrom rounds ⟨bs, q⟩ (x :: acc) :=
    hread.bind_eq (fun a => readStringFrom rounds a.2 (a.1 :: acc)) _
  cases h with
  | plain hquote hslash hcontrol =>
    exact ⟨_, by simp [readStringFrom, Cursor.next, Nat.not_lt.2 hcontrol]; rfl⟩
  | @short y _ hy =>
    refine hescaped fun p => ?_
    simp only [shortEscapes, List.mem_cons, List.not_mem_nil, or_false, Prod.mk.injEq] at hy
    rcases hy with hy | hy | hy | hy | hy | hy | hy | hy <;> obtain ⟨rfl, rfl⟩ := hy <;>
      exact ⟨_, rfl⟩
  | unit h => exact hescaped fun p => reads_numbered_unit h _
  | pair hx hlead htrail => exact hescaped fun p => reads_numbered_pair hx hlead htrail _

/-- Every round takes a character, so as many rounds as the text is long are enough. -/
lemma reads_readStringFrom {xs : List Char} (h : SpellsChars xs cs ('"' :: rest)) {rounds : Nat}
    (hr : cs.length ≤ rounds) (acc : List Char) :
    Reads (readStringFrom rounds · acc) cs (String.ofList (acc.reverse ++ xs)) rest := by
  generalize hend : '"' :: rest = last at h
  induction h generalizing rounds acc with
  | nil =>
    subst hend
    obtain ⟨n, rfl⟩ := Nat.exists_eq_succ_of_ne_zero (Nat.ne_of_gt (Nat.lt_of_lt_of_le (by simp) hr))
    exact fun p => ⟨_, by simp [readStringFrom, Cursor.next]; rfl⟩
  | @cons x xs as bs rest hx _ ih =>
    intro p
    have := hx.length_lt
    obtain ⟨n, rfl⟩ := Nat.exists_eq_succ_of_ne_zero (n := rounds) (by omega)
    have hn : bs.length ≤ n := by omega
    obtain ⟨q, hq⟩ := exists_readStringFrom_step hx n acc p
    obtain ⟨r, hr⟩ := ih hn (x :: acc) hend q
    exact ⟨r, by simpa using hq.trans hr⟩

/-- **A string is read** from any of its spellings. -/
lemma reads_readString {s : String} (h : Quotes s cs rest) : Reads (readString ·.next) cs s rest := by
  obtain ⟨h⟩ := h
  intro p
  obtain ⟨q, hq⟩ := reads_readStringFrom h (Nat.le_succ _) [] (p.past '"' ('"' : Char).utf8Size)
  exact ⟨q, hq.trans (by simp)⟩

/-! ### Numbers -/

/-- No digit is next. -/
def Undigited (cs : List Char) : Prop := ∀ x ∈ cs.head?, x.isDigit = false

/-- The text does not go on with a number. -/
def Ended (cs : List Char) : Prop :=
  ∀ x ∈ cs.head?, x.isDigit = false ∧ x ≠ '.' ∧ x ≠ 'e' ∧ x ≠ 'E'

lemma Ended.undigited (h : Ended cs) : Undigited cs := fun x hx => (h x hx).1

lemma ofDigitChars_cons {x : Char} {xs : List Char} {n : Nat} :
    Nat.ofDigitChars 10 (x :: xs) n = Nat.ofDigitChars 10 xs (n * 10 + digitValue x) := by
  simp [Nat.ofDigitChars, digitValue, Nat.mul_comm]

lemma le_ofDigitChars (xs : List Char) (n : Nat) : n ≤ Nat.ofDigitChars 10 xs n := by
  induction xs generalizing n with
  | nil => exact Nat.le_refl n
  | cons x xs ih =>
    rw [ofDigitChars_cons]
    have := ih (n * 10 + digitValue x)
    omega

lemma Blanks.ended (h : Blanks cs rest) (hr : Ended rest) : Ended cs := by
  cases h with
  | none => exact hr
  | more hx =>
    rintro _ ⟨⟩
    rcases hx with rfl | rfl | rfl | rfl <;> decide

variable {ds tail : List Char} {bound : Nat}

/-- All digits are read if their number is below the bound. -/
lemma exists_go_of_lt (hds : ∀ x ∈ ds, x.isDigit = true) (htail : Undigited tail) {s : Nat}
    (hs : Nat.ofDigitChars 10 ds s < bound) (p : Position) (n : Nat) :
    ∃ q, readDigits.go bound (ds ++ tail) p s n =
      (Nat.ofDigitChars 10 ds s, n + ds.length, false, ⟨tail, q⟩) := by
  induction ds generalizing s p n with
  | nil =>
    cases tail with
    | nil => exact ⟨p, rfl⟩
    | cons x xs => exact ⟨p, by simp [readDigits.go, htail x rfl]⟩
  | cons x xs ih =>
    rw [ofDigitChars_cons] at hs ⊢
    have hx : s * 10 + digitValue x < bound := Nat.lt_of_le_of_lt (le_ofDigitChars xs _) hs
    obtain ⟨q, hq⟩ := ih (fun y hy => hds y (List.mem_cons_of_mem _ hy)) hs (p.past x 1) (n + 1)
    refine ⟨q, ?_⟩
    simp only [List.cons_append, readDigits.go, hds x List.mem_cons_self, hx, if_true, hq,
      List.length_cons, Nat.add_right_comm n 1, Nat.add_assoc]

/-- A digit is left if their number is not below the bound. -/
lemma go_more_of_le (hds : ∀ x ∈ ds, x.isDigit = true) {s : Nat} (hlow : s < bound)
    (hs : bound ≤ Nat.ofDigitChars 10 ds s) (p : Position) (n : Nat) :
    (readDigits.go bound (ds ++ tail) p s n).2.2.1 = true := by
  induction ds generalizing s p n with
  | nil => exact absurd hs (Nat.not_le.2 hlow)
  | cons x xs ih =>
    rw [ofDigitChars_cons] at hs
    simp only [List.cons_append, readDigits.go, hds x List.mem_cons_self, if_true]
    split
    next hx => exact ih (fun y hy => hds y (List.mem_cons_of_mem _ hy)) hx hs _ _
    next => rfl

/-- The digits of a number other than zero do not start with a zero. -/
lemma exists_toDigits_eq_cons {n : Nat} (h : n ≠ 0) :
    ∃ x xs, Nat.toDigits 10 n = x :: xs ∧ x ≠ '0' ∧ x.isDigit = true := by
  have hdigit : ∀ k < 10, k ≠ 0 → k.digitChar ≠ '0' ∧ k.digitChar.isDigit = true := by decide
  induction n using Nat.strongRecOn with
  | _ n ih =>
    by_cases hn : n < 10
    · exact ⟨n.digitChar, [], Nat.toDigits_of_lt_base hn, hdigit n hn h⟩
    · obtain ⟨x, xs, hxs, hx⟩ := ih (n / 10) (by omega) (by omega)
      exact ⟨x, _, by rw [Nat.toDigits_of_base_le (by omega) (by omega), hxs]; rfl, hx⟩

lemma isDigit_toDigits (n : Nat) : ∀ x ∈ Nat.toDigits 10 n, x.isDigit = true :=
  fun _ hx => Nat.isDigit_of_mem_toDigits (by decide) (by decide) hx

/-- The whole digits of a number in range are read, and what follows them decides. -/
lemma exists_readNumber_of_lt {n : Nat} (hn : n < integerRange) (htail : Undigited tail)
    (positive : Bool) (p : Position) :
    ∃ q, readNumber positive ⟨Nat.toDigits 10 n ++ tail, p⟩ = afterInteger positive n ⟨tail, q⟩ := by
  by_cases h : n = 0
  · subst h
    have hnext (q : Position) : isDigitNext ⟨tail, q⟩ = false := by
      cases tail with
      | nil => rfl
      | cons x xs => exact htail x rfl
    exact ⟨_, by simp [readNumber, peek?, Cursor.next, hnext]; rfl⟩
  · obtain ⟨x, xs, hxs, hx, hdigit⟩ := exists_toDigits_eq_cons h
    have hvalue : Nat.ofDigitChars 10 (Nat.toDigits 10 n) 0 = n := Nat.ofDigitChars_ten_toDigits
    obtain ⟨q, hq⟩ := exists_go_of_lt (isDigit_toDigits n) htail (hvalue.symm ▸ hn) p 0
    rw [hvalue] at hq
    rw [hxs, List.cons_append] at hq ⊢
    exact ⟨q, by simp [readNumber, peek?, hdigit, readDigits, hq]⟩

/-- **A natural number in range is read** as such. -/
lemma reads_readNumber {n : Nat} (hn : n < integerRange) (hrest : Ended rest) :
    Reads (readNumber true) (Nat.toDigits 10 n ++ rest) (.unsigned n) rest := by
  intro p
  obtain ⟨q, hq⟩ := exists_readNumber_of_lt hn hrest.undigited true p
  refine ⟨q, hq.trans ?_⟩
  cases rest with
  | nil => rfl
  | cons x xs =>
    obtain ⟨-, hpoint, he, hE⟩ := hrest x rfl
    simp [afterInteger, peek?, hpoint, he, hE]

/-! ### What is no natural number -/

/-- No natural number was read. -/
def NotUnsigned (r : Reading (Number × Cursor)) : Prop := ∀ n c, r ≠ .ok (.unsigned n, c)

lemma notUnsigned_error (e : Fault × Position) : NotUnsigned (.error e) := fun _ _ h => nomatch h

lemma notUnsigned_float (bits : Nat) (c : Cursor) : NotUnsigned (.ok (.float bits, c)) :=
  fun _ _ h => nomatch h

variable {positive : Bool} {s : Nat} {e : Int} {c : Cursor}

lemma notUnsigned_floatOf : NotUnsigned (floatOf positive s e c) := by
  simp only [floatOf]
  split
  · exact notUnsigned_error _
  · exact notUnsigned_float _ _

lemma notUnsigned_readExponent : NotUnsigned (readExponent positive s e c) := by
  simp only [readExponent]
  split
  · exact notUnsigned_error _
  · split
    · exact notUnsigned_error _
    · split
      all_goals
        split
        · split
          · exact notUnsigned_error _
          · exact notUnsigned_float _ _
        · exact notUnsigned_floatOf

lemma notUnsigned_exponentOrEnd : NotUnsigned (exponentOrEnd positive s e c) := by
  simp only [exponentOrEnd]
  split
  · exact notUnsigned_readExponent
  · exact notUnsigned_readExponent
  · exact notUnsigned_floatOf

lemma notUnsigned_readFraction : NotUnsigned (readFraction positive s e c) := by
  simp only [readFraction]
  split
  · exact notUnsigned_exponentOrEnd
  · split
    · split
      · exact notUnsigned_error _
      · exact notUnsigned_error _
    · exact notUnsigned_exponentOrEnd

/-- What has a fraction or an exponent is no natural number. -/
lemma notUnsigned_afterInteger (hnext : ∃ x ∈ c.rest.head?, x = '.' ∨ x = 'e' ∨ x = 'E') :
    NotUnsigned (afterInteger positive s c) := by
  obtain ⟨x, hx, h⟩ := hnext
  rcases h with rfl | rfl | rfl
  all_goals
    simp only [afterInteger, peek?, Option.mem_def.1 hx]
  · exact notUnsigned_readFraction
  · exact notUnsigned_readExponent
  · exact notUnsigned_readExponent

/-- Behind a sign there is no natural number. -/
lemma notUnsigned_readNumber_false : NotUnsigned (readNumber false c) := by
  have hafter {s : Nat} {c : Cursor} : NotUnsigned (afterInteger false s c) := by
    unfold afterInteger
    split
    · exact notUnsigned_readFraction
    · exact notUnsigned_readExponent
    · exact notUnsigned_readExponent
    · split
      · contradiction
      · split
        · exact notUnsigned_float _ _
        · exact fun _ _ h => nomatch h
  simp only [readNumber]
  split
  · exact notUnsigned_error _
  · split
    · exact notUnsigned_error _
    · exact hafter
  · split
    · exact notUnsigned_error _
    · split
      · exact hafter
      · split
        · exact notUnsigned_readFraction
        · exact notUnsigned_readExponent
        · exact notUnsigned_readExponent
        · exact notUnsigned_floatOf

/-- A number whose digits do not fit is no natural number. -/
lemma notUnsigned_readNumber_of_le {n : Nat} (hn : integerRange ≤ n) (p : Position) :
    NotUnsigned (readNumber true ⟨Nat.toDigits 10 n ++ tail, p⟩) := by
  have hzero : n ≠ 0 := Nat.ne_of_gt (Nat.lt_of_lt_of_le (by decide) hn)
  obtain ⟨x, xs, hxs, hx, hdigit⟩ := exists_toDigits_eq_cons hzero
  have hvalue : integerRange ≤ Nat.ofDigitChars 10 (Nat.toDigits 10 n) 0 :=
    Nat.ofDigitChars_ten_toDigits.symm ▸ hn
  have hmore : (readDigits.go integerRange (Nat.toDigits 10 n ++ tail) p 0 0).2.2.1 = true :=
    go_more_of_le (isDigit_toDigits n) (by decide) hvalue p 0
  rw [hxs, List.cons_append] at hmore ⊢
  simp only [readNumber, peek?, List.head?_cons, hdigit, readDigits, hmore]
  split
  · contradiction
  · split
    · exact notUnsigned_readFraction
    · exact notUnsigned_readExponent
    · exact notUnsigned_readExponent
    · exact notUnsigned_floatOf

namespace Numeral

lemma tail_eq_nil {n : Numeral} (h : n.IsNatural) : n.tail = [] := by
  obtain ⟨-, hfraction, hexponent⟩ := h
  simp [tail, hfraction, hexponent]

/-- What is behind the digits starts with a point or with the letter of an exponent. -/
lemma exists_tail_eq_cons {n : Numeral} (h : n.fraction ≠ [] ∨ n.exponent ≠ none) :
    ∃ x xs, n.tail = x :: xs ∧ (x = '.' ∨ x = 'e' ∨ x = 'E') := by
  by_cases hfraction : n.fraction = []
  · obtain ⟨e, he⟩ := Option.ne_none_iff_exists'.1 (h.resolve_left (absurd hfraction))
    exact ⟨e.letter, e.sign ++ e.digits, by simp [tail, hfraction, he, Exponent.text],
      .inr e.isLetter⟩
  · exact ⟨'.', _, by simp only [tail, hfraction, if_false, List.cons_append]; rfl, .inl rfl⟩

lemma text_of_negative {n : Numeral} (h : n.negative = true) :
    n.text = '-' :: (Nat.toDigits 10 n.whole ++ n.tail) := by
  simp [text, sign, h]

lemma text_of_positive {n : Numeral} (h : n.negative = false) :
    n.text = Nat.toDigits 10 n.whole ++ n.tail := by
  simp [text, sign, h]

lemma text_natural (n : Nat) : (natural n).text = Nat.toDigits 10 n := by
  rw [text_of_positive rfl, tail_eq_nil ⟨rfl, rfl, rfl⟩, List.append_nil]
  rfl

lemma exists_text_eq_cons {n : Numeral} (h : n.negative = false) :
    ∃ x xs, n.text = x :: xs ∧ x.isDigit = true := by
  obtain ⟨x, xs, hxs⟩ := List.exists_cons_of_ne_nil (Nat.toDigits_ne_nil (n := n.whole) (b := 10))
  refine ⟨x, xs ++ n.tail, by rw [text_of_positive h, hxs]; rfl, isDigit_toDigits n.whole x ?_⟩
  rw [hxs]
  exact List.mem_cons_self

end Numeral

/-- **Other numbers are not read** as natural numbers. -/
lemma notUnsigned_readNumber_true {n : Numeral} (hpos : n.negative = false)
    (h : ¬ (n.IsNatural ∧ n.whole < integerRange)) (rest : List Char) (p : Position) :
    NotUnsigned (readNumber true ⟨n.text ++ rest, p⟩) := by
  rw [Numeral.text_of_positive hpos, List.append_assoc]
  by_cases hwhole : n.whole < integerRange
  · have hmore : n.fraction ≠ [] ∨ n.exponent ≠ none := by
      by_cases hfraction : n.fraction = []
      · exact .inr fun hexponent => h ⟨⟨hpos, hfraction, hexponent⟩, hwhole⟩
      · exact .inl hfraction
    obtain ⟨x, xs, htail, hx⟩ := Numeral.exists_tail_eq_cons hmore
    have hnext : Undigited (n.tail ++ rest) := by
      rw [htail]
      rintro _ ⟨⟩
      rcases hx with rfl | rfl | rfl <;> rfl
    obtain ⟨q, hq⟩ := exists_readNumber_of_lt hwhole hnext true p
    rw [hq]
    exact notUnsigned_afterInteger ⟨x, by rw [htail]; rfl, hx⟩
  · exact notUnsigned_readNumber_of_le (Nat.le_of_not_lt hwhole) p

/-! ### Documents -/

/-- What the first character of a document can be. -/
def Document.StartsWith : Document → Char → Prop
  | .null, x => x = 'n'
  | .bool b, x => x = if b then 't' else 'f'
  | .number _, x => x = '-' ∨ x.isDigit = true
  | .string _, x => x = '"'
  | .array _, x => x = '['
  | .object _, x => x = '\x7b'

lemma Spells.exists_cons {d : Document} {cs rest : List Char} (h : Spells d cs rest) :
    ∃ x xs, cs = x :: xs ∧ d.StartsWith x := by
  cases h with
  | null => exact ⟨_, _, rfl, rfl⟩
  | true => exact ⟨_, _, rfl, rfl⟩
  | false => exact ⟨_, _, rfl, rfl⟩
  | number n =>
    cases hneg : n.negative with
    | true => exact ⟨'-', _, by rw [Numeral.text_of_negative hneg]; rfl, .inl rfl⟩
    | false =>
      obtain ⟨x, xs, hxs, hdigit⟩ := Numeral.exists_text_eq_cons hneg
      exact ⟨x, _, by rw [hxs]; rfl, .inr hdigit⟩
  | string h =>
    obtain ⟨h⟩ := h
    exact ⟨_, _, rfl, rfl⟩
  | array => exact ⟨_, _, rfl, rfl⟩
  | object => exact ⟨_, _, rfl, rfl⟩

lemma Document.StartsWith.not_isBlank {d : Document} {x : Char} (h : d.StartsWith x) : ¬ IsBlank x := by
  cases d with
  | number n =>
    rcases h with rfl | h
    · decide
    · exact not_isBlank_of_isDigit h
  | bool b => cases b <;> cases h <;> decide
  | _ => cases h; decide

/-- No number starts with a sign that is neither a minus nor a digit. -/
lemma Document.StartsWith.number_ne {n : Numeral} {x y : Char}
    (h : (Document.number n).StartsWith x) (hminus : y ≠ '-') (hdigit : y.isDigit = false) :
    x ≠ y := by
  rintro rfl
  rcases h with rfl | h
  · exact hminus rfl
  · exact Bool.noConfusion (hdigit.symm.trans h)

lemma Document.StartsWith.ne_bracket {d : Document} {x : Char} (h : d.StartsWith x) : x ≠ ']' := by
  cases d with
  | number n => exact h.number_ne (by decide) (by decide)
  | bool b => cases b <;> cases h <;> decide
  | _ => cases h; decide

lemma Spells.bare {d : Document} {cs rest : List Char} (h : Spells d cs rest) : Bare cs := by
  obtain ⟨x, xs, rfl, hx⟩ := h.exists_cons
  exact bare_cons.2 hx.not_isBlank

end Embedder.Json
