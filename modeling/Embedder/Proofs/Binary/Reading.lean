import Embedder.Binary.Sections
import Mathlib.Tactic.Lemma

/-!
# Bytes that a decoder takes

A decoder takes bytes off the front of what it is given. What it makes of them does not depend on
what follows, so a file is the same sections wherever it is cut between two of them.

* `Binary.Reads`: bytes that are read as something, whatever follows;
* `Binary.TakesPrefix`: a decoder that takes such bytes or fails;
* `Binary.Framed`: the sections that bytes are put together from;
* `Binary.sections_eq_ok_iff`: a file is the header and its sections.
-/

namespace Embedder.Binary

variable {α β : Type} {bs b rest r : List UInt8}

/-! ### Steps of decoding -/

lemma bind_eq_ok_iff {p : Decoder α} {f : α → Decoder β} {y : β} :
    (p >>= f) bs = .ok (y, r) ↔ ∃ x u, p bs = .ok (x, u) ∧ f x u = .ok (y, r) := by
  show (p bs >>= fun (x, u) => f x u) = _ ↔ _
  cases p bs with
  | error e => exact iff_of_false (fun h => nomatch h) fun ⟨_, _, h, _⟩ => nomatch h
  | ok q =>
    constructor
    · intro h
      exact ⟨q.1, q.2, rfl, h⟩
    · rintro ⟨x, u, hq, h⟩
      cases hq
      exact h

lemma pure_eq_ok_iff {x y : α} : (pure x : Decoder α) bs = .ok (y, r) ↔ x = y ∧ bs = r := by
  show Except.ok (x, bs) = .ok (y, r) ↔ _
  rw [Except.ok.injEq, Prod.mk.injEq]

lemma fail_ne_ok {f : Fault} {x : α} : (fail f : Decoder α) bs ≠ .ok (x, r) := nofun

/-- Nothing is taken of the input by a decoder that has its own bytes to read. -/
lemma whole_eq_ok_iff {p : Decoder α} {bytes : List UInt8} {x : α} :
    whole p bytes bs = .ok (x, r) ↔ p bytes = .ok (x, []) ∧ r = bs := by
  unfold whole
  simp only [StateT.run]
  rcases hp : p bytes with f | ⟨y, _ | ⟨z, left⟩⟩
  · simp [fail_ne_ok]
  · refine pure_eq_ok_iff.trans ?_
    simp [eq_comm]
  · simp [fail_ne_ok]

/-! ### What follows does not matter -/

/-- The bytes are read as `x`, and whatever follows them is left. -/
def Reads (p : Decoder α) (bs : List UInt8) (x : α) : Prop := ∀ rest, p (bs ++ rest) = .ok (x, rest)

lemma Reads.eq_ok {p : Decoder α} {x : α} (h : Reads p bs x) : p bs = .ok (x, []) := by
  simpa using h []

/-- Bytes have one meaning at most at the front of others. -/
lemma Reads.unique {p : Decoder α} {x y : α} {bs' rest' : List UInt8} (h : Reads p bs x)
    (h' : Reads p bs' y) (heq : bs ++ rest = bs' ++ rest') : x = y ∧ rest = rest' := by
  have hsame := (h rest).symm.trans (heq ▸ h' rest')
  simpa using hsame

/-- What is read of bytes is read of some of the first of them, whatever follows. -/
def TakesPrefix (p : Decoder α) : Prop :=
  ∀ bs x r, p bs = .ok (x, r) → ∃ b, bs = b ++ r ∧ Reads p b x

lemma TakesPrefix.bind {p : Decoder α} {f : α → Decoder β} (hp : TakesPrefix p)
    (hf : ∀ x, TakesPrefix (f x)) : TakesPrefix (p >>= f) := by
  intro bs y r h
  obtain ⟨x, u, hx, hy⟩ := bind_eq_ok_iff.1 h
  obtain ⟨b, rfl, hb⟩ := hp _ _ _ hx
  obtain ⟨b', rfl, hb'⟩ := hf x _ _ _ hy
  refine ⟨b ++ b', (List.append_assoc ..).symm, fun rest => ?_⟩
  rw [List.append_assoc]
  exact bind_eq_ok_iff.2 ⟨x, b' ++ rest, hb _, hb' _⟩

lemma takesPrefix_pure (x : α) : TakesPrefix (pure x) := by
  intro bs y r h
  obtain ⟨rfl, rfl⟩ := pure_eq_ok_iff.1 h
  exact ⟨[], rfl, fun _ => rfl⟩

lemma takesPrefix_fail (f : Fault) : TakesPrefix (fail f : Decoder α) :=
  fun _ _ _ h => absurd h fail_ne_ok

lemma takesPrefix_byte : TakesPrefix byte := by
  intro bs x r h
  cases bs with
  | nil => cases h
  | cons b bs =>
    cases h
    exact ⟨[x], rfl, fun _ => rfl⟩

lemma takesPrefix_take (n : Nat) : TakesPrefix (take n) := by
  intro bs x r h
  by_cases hn : (bs.take n).length = n
  · simp only [take, hn, if_true] at h
    cases h
    refine ⟨bs.take n, (List.take_append_drop n bs).symm, fun rest => ?_⟩
    have htake : (bs.take n ++ rest).take n = bs.take n := List.take_left' hn
    have hdrop : (bs.take n ++ rest).drop n = rest := List.drop_left' hn
    simp only [take, htake, hdrop, hn, if_true]
  · simp only [take, hn, if_false] at h
    cases h

lemma takesPrefix_unsigned (bits : Nat) : TakesPrefix (unsigned bits) := by
  induction bits using Nat.strongRecOn with
  | _ bits ih =>
    rw [unsigned]
    refine takesPrefix_byte.bind fun b => ?_
    split
    · split
      · exact takesPrefix_fail _
      · exact takesPrefix_pure _
    · split
      · exact takesPrefix_fail _
      · exact (ih (bits - 7) (by omega)).bind fun _ => takesPrefix_pure _

lemma takesPrefix_byteVector : TakesPrefix byteVector :=
  (takesPrefix_unsigned 32).bind takesPrefix_take

lemma takesPrefix_rawSection : TakesPrefix rawSection :=
  takesPrefix_byte.bind fun _ => takesPrefix_byteVector.bind fun _ => takesPrefix_pure _

/-! ### Sections behind one another -/

/-- Bytes that are the given sections and nothing else. -/
inductive Framed : List RawSection → List UInt8 → Prop
  | nil : Framed [] []
  | cons {s : RawSection} {ss : List RawSection} {b bs : List UInt8} (h : Reads rawSection b s)
      (hs : Framed ss bs) : Framed (s :: ss) (b ++ bs)

variable {s : RawSection} {ss ts us : List RawSection}

lemma not_reads_nil : ¬ Reads rawSection [] s := fun h => nomatch h.eq_ok

lemma Framed.append (h : Framed ss bs) (h' : Framed ts rest) : Framed (ss ++ ts) (bs ++ rest) := by
  induction h with
  | nil => exact h'
  | cons hs _ ih =>
    rw [List.append_assoc]
    exact .cons hs ih

/-- Sections at the front are the first ones of all. -/
lemma Framed.of_append (h : Framed us (bs ++ rest)) (hs : Framed ss bs) :
    ∃ ts, us = ss ++ ts ∧ Framed ts rest := by
  induction hs generalizing us with
  | nil => exact ⟨us, rfl, h⟩
  | @cons s ss b bs hs _ ih =>
    rw [List.append_assoc] at h
    generalize hbytes : b ++ (bs ++ rest) = bytes at h
    cases h with
    | nil =>
      obtain ⟨rfl, -⟩ := List.append_eq_nil_iff.1 hbytes
      exact absurd hs not_reads_nil
    | cons hs' hus =>
      obtain ⟨rfl, rfl⟩ := hs.unique hs' hbytes
      obtain ⟨ts, rfl, hts⟩ := ih hus
      exact ⟨ts, rfl, hts⟩

/-- Every section takes a byte at least, so the rounds suffice. -/
lemma rawSections_eq_ok_iff {rounds : Nat} (h : bs.length < rounds) :
    rawSections rounds bs = .ok (ss, r) ↔ Framed ss bs ∧ r = [] := by
  induction rounds generalizing bs ss with
  | zero => omega
  | succ rounds ih =>
    unfold rawSections
    constructor
    · intro hread
      obtain ⟨e, u, hend, hthen⟩ := bind_eq_ok_iff.1 hread
      cases hend
      cases bs with
      | nil =>
        obtain ⟨rfl, rfl⟩ := pure_eq_ok_iff.1 hthen
        exact ⟨.nil, rfl⟩
      | cons x bs =>
        obtain ⟨s, u, hs, hrest⟩ := bind_eq_ok_iff.1 hthen
        obtain ⟨ss, v, hss, hpure⟩ := bind_eq_ok_iff.1 hrest
        obtain ⟨rfl, rfl⟩ := pure_eq_ok_iff.1 hpure
        obtain ⟨b, hb, hreads⟩ := takesPrefix_rawSection _ _ _ hs
        have hlength := congrArg List.length hb
        have hne : b ≠ [] := fun hnil => not_reads_nil (hnil ▸ hreads)
        have hpos := List.length_pos_iff.2 hne
        rw [List.length_append] at hlength
        obtain ⟨hframed, rfl⟩ := (ih (by omega)).1 hss
        rw [hb]
        exact ⟨.cons hreads hframed, rfl⟩
    · rintro ⟨hframed, rfl⟩
      refine bind_eq_ok_iff.2 ⟨bs.isEmpty, bs, rfl, ?_⟩
      cases hframed with
      | nil => rfl
      | @cons s ss b bs hs hss =>
        have hne : b ≠ [] := fun hnil => not_reads_nil (hnil ▸ hs)
        have hpos := List.length_pos_iff.2 hne
        have hempty : (b ++ bs).isEmpty = false := by simp [hne]
        rw [List.length_append] at h
        rw [hempty]
        refine bind_eq_ok_iff.2 ⟨s, bs, hs bs, bind_eq_ok_iff.2 ⟨ss, [], ?_, rfl⟩⟩
        exact (ih (by omega)).2 ⟨hss, rfl⟩

/-- **A file is the header and its sections.** -/
theorem sections_eq_ok_iff {bytes : List UInt8} :
    sections bytes = .ok ss ↔ ∃ body, bytes = header ++ body ∧ Framed ss body := by
  constructor
  · intro h
    unfold sections at h
    split at h
    · cases h
    · split at h
      · cases h
      · rename_i hheader
        simp only [Bool.not_eq_true', Bool.not_eq_false] at hheader
        obtain ⟨body, rfl⟩ := List.isPrefixOf_iff_prefix.1 hheader
        rw [List.drop_left] at h
        cases hraw : rawSections (body.length + 1) body with
        | error e =>
          simp only [StateT.run, hraw] at h
          cases h
        | ok q =>
          simp only [StateT.run, hraw] at h
          cases h
          exact ⟨body, rfl, ((rawSections_eq_ok_iff (by omega)).1 hraw).1⟩
  · rintro ⟨body, rfl, hframed⟩
    have hbinary : isBinary (header ++ body) = true :=
      List.isPrefixOf_iff_prefix.2 ⟨[0x01, 0x00, 0x00, 0x00] ++ body, rfl⟩
    have hheader : header.isPrefixOf (header ++ body) = true :=
      List.isPrefixOf_iff_prefix.2 (List.prefix_append ..)
    have hraw := (rawSections_eq_ok_iff (Nat.lt_succ_self body.length)).2 ⟨hframed, rfl⟩
    unfold sections
    rw [hbinary, hheader, List.drop_left]
    simp only [StateT.run, hraw]
    rfl

end Embedder.Binary
