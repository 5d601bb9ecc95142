import Embedder.Proofs.Lists
import Embedder.Text.Utf8
import Embedder.Wasi.Function.Call
import Mathlib.Data.String.Basic

/-!
# Texts in the memory of a guest

A guest gets its arguments and variables as bytes, with a byte of zero behind each text and `=`
between a key and its value. Nothing is escaped, so it depends on the texts alone whether they can be
told apart again. In UTF-8 a byte below 128 is always a character of its own: a text without the
character has no such byte, whatever else it consists of.

* `Wasi.mem_utf8_iff`, `Wasi.text?_utf8`: characters as bytes, and a text from its bytes;
* `Wasi.utf8_lt_iff`: texts stand in the order of their bytes;
* `Wasi.written`: texts one behind the other;
* `Wasi.texts?`, `Wasi.pairs?`: how a guest takes them apart;
* `Wasi.texts?_written`, `Wasi.pairs?_written`: it gets back what was written.
-/

namespace Embedder.Wasi

open Calling (utf8 terminated)
open Elementwise (mapM_eq_some_iff)

/-! ### Bytes of a text -/

lemma toList_loop (bytes : ByteArray) (i : Nat) (r : List UInt8) :
    ByteArray.toList.loop bytes i r = r.reverse ++ bytes.data.toList.drop i := by
  fun_induction ByteArray.toList.loop bytes i r with
  | case1 i r hi ih =>
    have hlength : i < bytes.data.toList.length := by simpa using hi
    have hget : bytes.get! i = bytes.data[i]! := by
      cases bytes
      rfl
    rw [ih, List.drop_eq_getElem_cons hlength, hget, getElem!_pos bytes.data i hi]
    simp
  | case2 i r hi =>
    rw [List.drop_eq_nil_of_le (by simpa using Nat.le_of_not_lt hi), List.append_nil]

lemma utf8_eq (s : String) : utf8 s = s.toByteArray.data.toList := by
  rw [utf8, String.toUTF8, ByteArray.toList, toList_loop]
  simp

lemma length_utf8 (s : String) : (utf8 s).length = s.utf8ByteSize := by
  rw [utf8_eq, Array.length_toList]
  rfl

lemma utf8_eq_flatMap (s : String) : utf8 s = s.toList.flatMap String.utf8EncodeChar := by
  rw [utf8_eq, ← String.utf8Encode_toList, List.utf8Encode, List.toList_data_toByteArray]

/-- Only a character below 128 has a byte below 128, which is its number. -/
lemma mem_utf8EncodeChar_iff {c d : Char} (hd : d.toNat < 128) :
    UInt8.ofNat d.toNat ∈ String.utf8EncodeChar c ↔ c = d := by
  have hone (n : Nat) : UInt8.ofNat d.toNat = UInt8.ofNat n ↔ d.toNat = n % 256 := by
    rw [← UInt8.toNat_inj, UInt8.toNat_ofNat', UInt8.toNat_ofNat']
    omega
  have hcode : c = d ↔ c.val.toNat = d.toNat := by
    rw [← Char.toNat_inj]
    rfl
  unfold String.utf8EncodeChar
  simp only [hcode]
  split
  · simp only [List.mem_singleton, hone]
    omega
  · split
    · simp only [List.mem_cons, List.not_mem_nil, or_false, hone]
      omega
    · split
      · simp only [List.mem_cons, List.not_mem_nil, or_false, hone]
        omega
      · simp only [List.mem_cons, List.not_mem_nil, or_false, hone]
        omega

/-- **A byte below 128 is a character of the text.** -/
theorem mem_utf8_iff {s : String} {d : Char} (hd : d.toNat < 128) :
    UInt8.ofNat d.toNat ∈ utf8 s ↔ d ∈ s.toList := by
  simp only [utf8_eq_flatMap, List.mem_flatMap, mem_utf8EncodeChar_iff hd, exists_eq_right]

/-- The byte that ends a text. -/
def nul : UInt8 := 0

/-- The byte between a key and its value. -/
def equals : UInt8 := 61

lemma nul_notMem_utf8 {s : String} (h : hasNul s = false) : nul ∉ utf8 s := by
  have hchar : '\x00' ∉ s.toList := by simpa [hasNul] using h
  exact mt (mem_utf8_iff (d := '\x00') (by decide)).1 hchar

lemma equals_notMem_utf8 {s : String} (h : '=' ∉ s.toList) : equals ∉ utf8 s :=
  mt (mem_utf8_iff (d := '=') (by decide)).1 h

/-- The text of bytes. -/
def text? (bytes : List UInt8) : Option String := Text.Utf8.decode? ⟨bytes.toArray⟩

lemma text?_utf8 (s : String) : text? (utf8 s) = some s := by
  have hbytes : (⟨(utf8 s).toArray⟩ : ByteArray) = s.toByteArray := by
    rw [utf8_eq]
  rw [text?, hbytes, Text.Utf8.decode?, String.fromUTF8?, dif_pos s.isValidUTF8]
  rfl

/-! ### The order of texts -/

lemma toNat_lt (c : Char) : c.val.toNat < 1114112 := by
  have hvalid := c.valid
  unfold UInt32.isValidChar Nat.isValidChar at hvalid
  omega

/-- The first byte that differs decides: of two characters the larger one has more bytes, which the
first byte tells, or it has as many and a larger one of them. -/
lemma utf8EncodeChar_append_lt {c d : Char} (h : c < d) (xs ys : List UInt8) :
    String.utf8EncodeChar c ++ xs < String.utf8EncodeChar d ++ ys := by
  have hlt : c.val.toNat < d.val.toNat := h
  have hbyte {m n : Nat} (hm : m < 256) (hn : n < 256) : UInt8.ofNat m < UInt8.ofNat n ↔ m < n := by
    rw [UInt8.lt_iff_toNat_lt, UInt8.toNat_ofNat_of_lt' hm, UInt8.toNat_ofNat_of_lt' hn]
  have hsame {m n : Nat} (hm : m < 256) (hn : n < 256) : UInt8.ofNat m = UInt8.ofNat n ↔ m = n := by
    rw [← UInt8.toNat_inj, UInt8.toNat_ofNat_of_lt' hm, UInt8.toNat_ofNat_of_lt' hn]
  have hdigits (e : Char) : e.val.toNat / 64 / 64 = e.val.toNat / 4096 ∧
      e.val.toNat / 4096 / 64 = e.val.toNat / 262144 ∧ e.val.toNat / 262144 < 5 := by
    have he := toNat_lt e
    omega
  have hc := hdigits c
  have hd := hdigits d
  unfold String.utf8EncodeChar
  dsimp only
  split_ifs <;>
    simp (disch := omega) only [List.cons_append, List.nil_append, List.cons_lt_cons_iff, hbyte,
      hsame] <;>
    omega

lemma flatMap_utf8EncodeChar_lt {cs ds : List Char} (h : cs < ds) :
    cs.flatMap String.utf8EncodeChar < ds.flatMap String.utf8EncodeChar := by
  induction (List.lt_iff_lex_lt cs ds).1 h with
  | @nil d ds =>
    obtain ⟨b, bs, hb⟩ := List.exists_cons_of_ne_nil (String.utf8EncodeChar_ne_nil (c := d))
    rw [List.flatMap_nil, List.flatMap_cons, hb]
    exact List.nil_lt_cons ..
  | @rel c cs d ds hcd =>
    rw [List.flatMap_cons, List.flatMap_cons]
    exact utf8EncodeChar_append_lt hcd _ _
  | @cons c cs ds hlt ih =>
    rw [List.flatMap_cons, List.flatMap_cons]
    exact List.append_left_lt (ih hlt)

/-- **The order of texts is that of their bytes.** -/
theorem utf8_lt_iff {s t : String} : utf8 s < utf8 t ↔ s < t := by
  have hlt {s t : String} (h : s < t) : utf8 s < utf8 t := by
    rw [utf8_eq_flatMap, utf8_eq_flatMap]
    exact flatMap_utf8EncodeChar_lt (String.lt_iff_toList_lt.1 h)
  refine ⟨fun h => ?_, hlt⟩
  rcases lt_trichotomy s t with hst | rfl | hts
  · exact hst
  · exact absurd h (List.lt_irrefl _)
  · exact absurd h (List.lt_asymm (hlt hts))

lemma utf8_le_iff {s t : String} : utf8 s ≤ utf8 t ↔ s ≤ t := by
  rw [← not_lt, ← utf8_lt_iff]
  exact List.not_lt.symm

/-! ### Texts one behind the other -/

/-- The bytes of texts that are given in pieces. -/
def written (texts : List (List (List UInt8))) : List UInt8 := (texts.flatMap terminated).flatten

lemma written_cons (pieces : List (List UInt8)) (texts : List (List (List UInt8))) :
    written (pieces :: texts) = pieces.flatten ++ nul :: written texts := by
  simp [written, terminated, nul]

/-- What ends with a byte of zero each. -/
def pieces (bytes : List UInt8) : List (List UInt8) := (bytes.splitOn nul).dropLast

/-- Texts without a byte of zero come apart where they were put together. -/
lemma pieces_written {texts : List (List (List UInt8))} (h : ∀ t ∈ texts, nul ∉ t.flatten) :
    pieces (written texts) = texts.map List.flatten := by
  have hsplit : (written texts).splitOn nul = texts.map List.flatten ++ [[]] := by
    induction texts with
    | nil => rfl
    | cons t texts ih =>
      obtain ⟨ht, hts⟩ := List.forall_mem_cons.1 h
      rw [written_cons, List.splitOn_append_cons_self_of_not_mem ht, ih hts, List.map_cons,
        List.cons_append]
  rw [pieces, hsplit, List.dropLast_concat]

/-! ### Taking them apart -/

/-- The texts that end with a byte of zero each. -/
def texts? (bytes : List UInt8) : Option (List String) := (pieces bytes).mapM text?

/-- A key and its value, which stands behind the first `=`. -/
def pair? (piece : List UInt8) : Option (String × String) :=
  match piece.dropWhile (· != equals) with
  | _ :: value => do return (← text? (piece.takeWhile (· != equals)), ← text? value)
  | [] => none

/-- The keys and values of texts that end with a byte of zero each. -/
def pairs? (bytes : List UInt8) : Option (List (String × String)) := (pieces bytes).mapM pair?

/-- The pieces of a key and a value. -/
def assignment (e : String × String) : List (List UInt8) := [utf8 e.1, utf8 "=", utf8 e.2]

lemma flatten_assignment (e : String × String) :
    (assignment e).flatten = utf8 e.1 ++ equals :: utf8 e.2 := by
  have hequals : utf8 "=" = [equals] := by
    rw [utf8_eq_flatMap]
    rfl
  simp [assignment, hequals]

/-- The first `=` is the one behind the key, even if there are others in the value. -/
lemma pair?_assignment {e : String × String} (h : '=' ∉ e.1.toList) :
    pair? (assignment e).flatten = some e := by
  have hkey : ∀ b ∈ utf8 e.1, (b != equals) = true := by
    intro b hb
    rw [bne_iff_ne]
    rintro rfl
    exact equals_notMem_utf8 h hb
  rw [flatten_assignment, pair?, List.dropWhile_append_of_pos hkey,
    List.takeWhile_append_of_pos hkey]
  simp [text?_utf8]

variable {texts : List String} {vars : List (String × String)}

/-- **Texts come back.** -/
theorem texts?_written (h : ∀ s ∈ texts, hasNul s = false) :
    texts? (written (texts.map fun s => [utf8 s])) = some texts := by
  have hnul : ∀ t ∈ texts.map fun s => [utf8 s], nul ∉ t.flatten := by
    intro t ht
    obtain ⟨s, hs, rfl⟩ := List.mem_map.1 ht
    simpa using nul_notMem_utf8 (h s hs)
  rw [texts?, pieces_written hnul, List.map_map, mapM_eq_some_iff, List.forall₂_map_left_iff,
    List.forall₂_same]
  intro s _
  simp [text?_utf8]

/-- **Keys and values come back.** -/
theorem pairs?_written (h : ∀ e ∈ vars, variableFault? e.1 e.2 = none) :
    pairs? (written (vars.map assignment)) = some vars := by
  have hsound : ∀ e ∈ vars, '=' ∉ e.1.toList ∧ hasNul e.1 = false ∧ hasNul e.2 = false := by
    intro e he
    have hfault := h e he
    unfold variableFault? at hfault
    split_ifs at hfault with _ hequals hnul
    · simp_all
  have hnul : ∀ t ∈ vars.map assignment, nul ∉ t.flatten := by
    intro t ht
    obtain ⟨e, he, rfl⟩ := List.mem_map.1 ht
    obtain ⟨-, hkey, hvalue⟩ := hsound e he
    rw [flatten_assignment, List.mem_append, List.mem_cons]
    rintro (hn | hn | hn)
    · exact nul_notMem_utf8 hkey hn
    · exact absurd hn (by decide)
    · exact nul_notMem_utf8 hvalue hn
  rw [pairs?, pieces_written hnul, List.map_map, mapM_eq_some_iff, List.forall₂_map_left_iff,
    List.forall₂_same]
  exact fun e he => pair?_assignment (hsound e he).1

end Embedder.Wasi
