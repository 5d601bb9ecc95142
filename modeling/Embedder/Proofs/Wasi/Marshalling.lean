import Embedder.Proofs.Memories.Writes
import Embedder.Proofs.Wasi.Plain
import Embedder.Proofs.Wasi.Texts

/-!
# What the system interface writes for its caller

A guest that wants its arguments asks for their number and size first, makes room for them, and then
has them written there: the texts one behind the other, and their addresses in a table.

* `Wasi.Room`: a table and a buffer that are large enough;
* `Wasi.Laid`: texts in a buffer and their addresses in a table;
* `Memory.layout`, `Wasi.laid_layout`: what is written to a memory with enough room;
* `Calling.ends_writeTexts`, `Calling.ends_writeSizes`: how the computations end that write it.
-/

namespace Embedder

/-! ### Memories -/

namespace Memory

variable {m : Memory} {start a n : Nat} {bytes : List UInt8}

lemma byteSize_write : (m.write start bytes).byteSize = m.byteSize := by
  rw [byteSize, size_write, byteSize]

lemma slice_add (m : Memory) (start a b : Nat) :
    m.slice start (a + b) = m.slice start a ++ m.slice (start + a) b := by
  simp [slice, List.range_add, Nat.add_assoc]

lemma write_append (m : Memory) (start : Nat) (xs ys : List UInt8) :
    m.write start (xs ++ ys) = (m.write start xs).write (start + xs.length) ys := by
  induction xs generalizing m start with
  | nil => rfl
  | cons x xs ih =>
    rw [List.cons_append, write, ih, write, List.length_cons, Nat.add_right_comm, Nat.add_assoc]

lemma slice_write_self (h : start + bytes.length ≤ m.byteSize) :
    (m.write start bytes).slice start bytes.length = bytes := by
  refine List.ext_getElem? fun j => ?_
  by_cases hj : j < bytes.length
  · rw [getElem?_slice _ hj, List.getElem?_eq_getElem hj,
      get_write h (List.getElem?_eq_getElem hj)]
  · rw [List.getElem?_eq_none (by rw [length_slice]; omega), List.getElem?_eq_none (by omega)]

lemma slice_write_of_apart (h : a + n ≤ start ∨ start + bytes.length ≤ a) :
    (m.write start bytes).slice a n = m.slice a n :=
  slice_congr fun _ _ => get_write_of_outside (by omega)

lemma number_write {count : Nat} (h : start + count ≤ m.byteSize) (hn : n < 256 ^ count) :
    (m.write start (littleEndianBytes count n)).number start count = n := by
  have hself := slice_write_self (show start + (littleEndianBytes count n).length ≤ m.byteSize by
    rwa [length_littleEndianBytes])
  rw [length_littleEndianBytes] at hself
  rw [number, hself, littleEndian_littleEndianBytes, Nat.mod_eq_of_lt hn]

/-- A memory after texts and their addresses were written, text by text. -/
def layout (m : Memory) (addresses start : Nat) : List (List (List UInt8)) → Memory
  | [] => m
  | pieces :: rest =>
    let bytes := (Wasi.Calling.terminated pieces).flatten
    ((m.write addresses (littleEndianBytes 4 start)).write start bytes).layout (addresses + 4)
      (start + bytes.length) rest

end Memory

namespace Wasi

open Calling (terminated)

/-! ### Tables of texts -/

/-- A table for addresses and a buffer for texts that are large enough. They lie in the memory, where
32 bits lead to, and apart from each other. -/
structure Room (m : Memory) (addresses start count size : Nat) : Prop where
  aligned : addresses % 4 = 0
  table_le : addresses + 4 * count ≤ m.byteSize
  buffer_le : start + size ≤ m.byteSize
  reach : start + size ≤ 2 ^ 32
  apart : addresses + 4 * count ≤ start ∨ start + size ≤ addresses

/-- The second memory is the first one with texts in a buffer, and with a table that leads to each of
them in their order. -/
structure Laid (m m' : Memory) (addresses start : Nat) (texts : List (List (List UInt8))) :
    Prop where
  size_eq : m'.size = m.size
  buffer : m'.slice start (written texts).length = written texts
  table : ∀ i < texts.length,
    m'.number (addresses + 4 * i) 4 = start + (written (texts.take i)).length
  rest : ∀ a, a < addresses ∨ addresses + 4 * texts.length ≤ a →
    a < start ∨ start + (written texts).length ≤ a → m'.get a = m.get a

variable {m m' : Memory} {addresses start : Nat} {texts : List (List (List UInt8))}

lemma flatten_terminated (pieces : List (List UInt8)) :
    (terminated pieces).flatten = pieces.flatten ++ [nul] := by
  simp [terminated, nul]

lemma written_cons_eq (pieces : List (List UInt8)) (texts : List (List (List UInt8))) :
    written (pieces :: texts) = (terminated pieces).flatten ++ written texts := by
  rw [written_cons, flatten_terminated, List.append_assoc, List.singleton_append]

lemma written_append (texts texts' : List (List (List UInt8))) :
    written (texts ++ texts') = written texts ++ written texts' := by
  simp [written]

lemma Room.tail {t : List (List UInt8)}
    (h : Room m addresses start (t :: texts).length (written (t :: texts)).length)
    (hm : m'.byteSize = m.byteSize) :
    Room m' (addresses + 4) (start + (terminated t).flatten.length) texts.length
      (written texts).length := by
  obtain ⟨haligned, htable, hbuffer, hreach, hapart⟩ := h
  rw [written_cons_eq, List.length_append] at hbuffer hreach hapart
  rw [List.length_cons] at htable hapart
  exact ⟨by omega, by omega, by omega, by omega, by omega⟩

/-- A text and its address come before the others. -/
lemma Laid.cons {t : List (List UInt8)}
    (hroom : Room m addresses start (t :: texts).length (written (t :: texts)).length)
    (h : Laid ((m.write addresses (littleEndianBytes 4 start)).write start (terminated t).flatten) m'
      (addresses + 4) (start + (terminated t).flatten.length) texts) :
    Laid m m' addresses start (t :: texts) := by
  obtain ⟨haligned, htable, hbuffer, hreach, hapart⟩ := hroom
  rw [written_cons_eq, List.length_append] at hbuffer hreach hapart
  rw [List.length_cons] at htable hapart
  have hpos : 0 < (terminated t).flatten.length := by simp [flatten_terminated]
  have hword := length_littleEndianBytes 4 start
  obtain ⟨hsize, hothers, hnext, hkept⟩ := h
  constructor
  · rw [hsize, Memory.size_write, Memory.size_write]
  · rw [written_cons_eq, List.length_append, Memory.slice_add, hothers,
      Memory.slice_congr fun j hj => hkept _ (by omega) (by omega),
      Memory.slice_write_self (by rw [Memory.byteSize_write]; omega)]
  · intro i hi
    cases i with
    | zero =>
      have hnumber : m'.number addresses 4 = start := by
        rw [Memory.number, Memory.slice_congr fun j hj => hkept _ (by omega) (by omega),
          Memory.slice_write_of_apart (by omega), ← Memory.number]
        exact Memory.number_write (by omega) (by omega)
      simpa [written] using hnumber
    | succ i =>
      rw [Nat.mul_succ, Nat.add_comm (4 * i) 4, ← Nat.add_assoc, List.take_succ_cons,
        written_cons_eq, List.length_append, ← Nat.add_assoc]
      exact hnext i (by simpa using hi)
  · intro a htable' hbuffer'
    rw [List.length_cons] at htable'
    rw [written_cons_eq, List.length_append] at hbuffer'
    rw [hkept a (by omega) (by omega), Memory.get_write_of_outside (by omega),
      Memory.get_write_of_outside (by omega)]

/-- **With enough room the texts are laid out.** -/
theorem laid_layout (h : Room m addresses start texts.length (written texts).length) :
    Laid m (m.layout addresses start texts) addresses start texts := by
  induction texts generalizing m addresses start with
  | nil => exact ⟨rfl, rfl, by simp, fun _ _ _ => rfl⟩
  | cons t texts ih => exact .cons h (ih (h.tail (by rw [Memory.byteSize_write, Memory.byteSize_write])))

/-- An address of the table leads to its text, behind which is a byte of zero. -/
theorem Laid.text (h : Laid m m' addresses start texts) {i : Nat} {t : List (List UInt8)}
    (ht : texts[i]? = some t) :
    m'.slice (m'.number (addresses + 4 * i) 4) (t.flatten.length + 1) = t.flatten ++ [nul] := by
  obtain ⟨hi, rfl⟩ := List.getElem?_eq_some_iff.1 ht
  have hsplit : written texts =
      written (texts.take i) ++ ((texts[i].flatten ++ [nul]) ++ written (texts.drop (i + 1))) := by
    rw [← flatten_terminated, ← written_cons_eq, ← List.drop_eq_getElem_cons hi, ← written_append,
      List.take_append_drop]
  have hbuffer := h.buffer
  rw [hsplit, List.length_append, Memory.slice_add] at hbuffer
  have hrest := (List.append_inj hbuffer (by rw [Memory.length_slice])).2
  rw [List.length_append, Memory.slice_add] at hrest
  rw [h.table i hi]
  have htext := (List.append_inj hrest (by rw [Memory.length_slice])).1
  rwa [List.length_append] at htext

end Wasi

/-! ### Computations that write -/

namespace Wasi

/-- A state after bytes were written. -/
def CallState.store (s : CallState) (start : Nat) (bytes : List UInt8) : CallState :=
  { s with memory := s.memory.write start bytes }

/-- A state with another memory. -/
def CallState.withMemory (s : CallState) (memory : Memory) : CallState := { s with memory }

lemma CallState.store_store (s : CallState) (a b : Nat) (xs ys : List UInt8) :
    (s.store a xs).store b ys = s.withMemory ((s.memory.write a xs).write b ys) := rfl

lemma CallState.memory_withMemory (s : CallState) (m : Memory) : (s.withMemory m).memory = m := rfl

lemma CallState.withMemory_withMemory (s : CallState) (m m' : Memory) :
    (s.withMemory m).withMemory m' = s.withMemory m' := rfl

namespace Calling

variable {s : CallState} {start : Nat}

lemma ends_writeBytes {bytes : List UInt8} (h : start + bytes.length ≤ s.memory.byteSize) :
    (writeBytes start bytes).ends s = (.ok (), s.store start bytes) := by
  unfold writeBytes
  split
  · rename_i hempty
    rw [List.isEmpty_iff.1 hempty]
    rfl
  · rw [ends_bind_of_ok (ends_get s)]
    simp only [Memory.inBounds, h, decide_true, if_true, ends_modify]
    rfl

lemma ends_checkWord {size : Nat} (h : start + size ≤ s.memory.byteSize)
    (haligned : start % size = 0) : (checkWord size start).ends s = (.ok (), s) := by
  rw [checkWord, ends_bind_of_ok (ends_get s)]
  simp only [Memory.inBounds, h, decide_true, haligned, if_true, ends_pure]

lemma ends_readBytes {length : Nat} {bytes : List UInt8}
    (h : s.memory.read? start length = some bytes) :
    (readBytes start length).ends s = (.ok bytes, s) := by
  unfold readBytes
  rw [ends_bind_of_ok (ends_get s)]
  simp only [h, ends_pure]

lemma ends_readWord {size : Nat} {bytes : List UInt8} (h : s.memory.read? start size = some bytes)
    (haligned : start % size = 0) :
    (readWord size start).ends s = (.ok (littleEndian bytes), s) := by
  have hbounds : start + size ≤ s.memory.byteSize := by
    by_contra hlt
    simp [Memory.read?, Memory.inBounds, hlt] at h
  rw [readWord, ends_bind_of_ok (ends_checkWord hbounds haligned),
    ends_bind_of_ok (ends_readBytes h), ends_pure]

lemma ends_writeWord {size : Nat} (h : start + size ≤ s.memory.byteSize)
    (haligned : start % size = 0) (n : Nat) :
    (writeWord size start n).ends s = (.ok (), s.store start (littleEndianBytes size n)) := by
  rw [writeWord, ends_bind_of_ok (ends_checkWord h haligned)]
  exact ends_writeBytes (by rwa [length_littleEndianBytes])

lemma ends_writePieces {pieces : List (List UInt8)}
    (h : start + pieces.flatten.length ≤ s.memory.byteSize) :
    (writePieces start pieces).ends s =
      (.ok (start + pieces.flatten.length), s.store start pieces.flatten) := by
  induction pieces generalizing s start with
  | nil => rfl
  | cons piece pieces ih =>
    rw [List.flatten_cons, List.length_append] at h
    have hwrite : (writeBytes start piece).ends s = (.ok (), s.store start piece) :=
      ends_writeBytes (by omega)
    have hrest : (writePieces (start + piece.length) pieces).ends (s.store start piece) =
        (.ok (start + piece.length + pieces.flatten.length),
          (s.store start piece).store (start + piece.length) pieces.flatten) :=
      ih (by
        rw [CallState.store, Memory.byteSize_write]
        omega)
    have hstore : s.store start (piece ++ pieces.flatten) =
        (s.store start piece).store (start + piece.length) pieces.flatten := by
      simp only [CallState.store, Memory.write_append]
    rw [writePieces, ends_bind_of_ok hwrite, List.flatten_cons, List.length_append, ← Nat.add_assoc,
      hstore]
    exact hrest

/-- **With enough room the texts and their addresses are written.** -/
theorem ends_writeTexts {addresses : Nat} {texts : List (List (List UInt8))}
    (h : Room s.memory addresses start texts.length (written texts).length) :
    (writeTexts addresses start texts).ends s =
      (.ok (), s.withMemory (s.memory.layout addresses start texts)) := by
  induction texts generalizing s addresses start with
  | nil => rfl
  | cons t texts ih =>
    have hsize : ((s.store addresses (littleEndianBytes 4 start)).store start
        (terminated t).flatten).memory.byteSize = s.memory.byteSize := by
      simp only [CallState.store, Memory.byteSize_write]
    have hroom := h.tail hsize
    obtain ⟨haligned, htable, hbuffer, -, -⟩ := h
    rw [written_cons_eq, List.length_append] at hbuffer
    rw [List.length_cons] at htable
    have hword : (writeWord 4 addresses start).ends s =
        (.ok (), s.store addresses (littleEndianBytes 4 start)) :=
      ends_writeWord (by omega) haligned start
    have hpieces : (writePieces start (terminated t)).ends
        (s.store addresses (littleEndianBytes 4 start)) =
          (.ok (start + (terminated t).flatten.length),
            (s.store addresses (littleEndianBytes 4 start)).store start (terminated t).flatten) :=
      ends_writePieces (by
        rw [CallState.store, Memory.byteSize_write]
        omega)
    rw [writeTexts, ends_bind_of_ok hword, ends_bind_of_ok hpieces, ih hroom,
      CallState.store_store, CallState.withMemory_withMemory, CallState.memory_withMemory,
      Memory.layout]

/-- Two words that do not overlap. -/
structure Words (m : Memory) (a b : Nat) : Prop where
  first_aligned : a % 4 = 0
  second_aligned : b % 4 = 0
  first_le : a + 4 ≤ m.byteSize
  second_le : b + 4 ≤ m.byteSize
  apart : a + 4 ≤ b ∨ b + 4 ≤ a

/-- **The number of the texts and their size are written.** -/
theorem ends_writeSizes {count size : Nat} {texts : List (List (List UInt8))}
    (h : Words s.memory count size) (hcount : texts.length < 2 ^ 32)
    (hsize : (written texts).length < 2 ^ 32) :
    ∃ m, (writeSizes count size texts).ends s = (.ok (), s.withMemory m) ∧
      m.size = s.memory.size ∧ m.number count 4 = texts.length ∧
      m.number size 4 = (written texts).length ∧
      ∀ a, a < count ∨ count + 4 ≤ a → a < size ∨ size + 4 ≤ a → m.get a = s.memory.get a := by
  obtain ⟨hcount', hsize', hcount_le, hsize_le, hapart⟩ := h
  have hlength := length_littleEndianBytes 4
  refine ⟨(s.memory.write count (littleEndianBytes 4 texts.length)).write size
    (littleEndianBytes 4 (written texts).length), ?_, ?_, ?_, ?_, ?_⟩
  · have hword : (writeWord 4 count texts.length).ends s =
        (.ok (), s.store count (littleEndianBytes 4 texts.length)) :=
      ends_writeWord hcount_le hcount' _
    rw [writeSizes, ends_bind_of_ok hword,
      ends_writeWord (by rwa [CallState.store, Memory.byteSize_write]) hsize', CallState.store_store,
      written]
  · rw [Memory.size_write, Memory.size_write]
  · rw [Memory.number, Memory.slice_write_of_apart (by rw [hlength]; omega), ← Memory.number]
    exact Memory.number_write hcount_le hcount
  · exact Memory.number_write (by rwa [Memory.byteSize_write]) hsize
  · intro a hoff hoff'
    rw [Memory.get_write_of_outside (by rwa [hlength]), Memory.get_write_of_outside (by rwa [hlength])]

end Calling

end Wasi

end Embedder
