import Embedder.Proofs.Memories.Views

/-!
# Writing through one view, reading through another

The elements of views of one memory overlap in every way: they have one, two or four bytes, a sign or
none, and they start anywhere. What is written as an element of one view is seen as bytes by every
other one, by reading bytes, and by the loads of the guest. Those are the loads of numbers: loads of vectors
and atomic ones have no meaning here.

* `ViewElement.InRange`: the integers of an element;
* `ViewElement.getElem?_encode`, `ViewElement.decode_spec`: its bytes, the lowest first, in both
  directions;
* `View.Stored`: a memory in which an element of a view was changed;
* `Guest.Loads`: what a load of the guest puts on the stack;
* `Moment.writes_seen_by_all`: all of it for an exported memory, at every moment.
-/

namespace Embedder

open Execution (Guest Program Machine)

variable {σ α : Type}

/-! ### Integers as bytes -/

/-- A remainder by a product is one of the quotient and one of the number. -/
lemma emod_mul_eq (n : Int) {a b : Int} (ha : 0 < a) (hb : 0 < b) :
    n % (a * b) = a * (n / a % b) + n % a := by
  have hlow := Int.emod_nonneg n (Int.ne_of_gt ha)
  have hhigh := Int.emod_lt_of_pos n ha
  have hlow' := Int.emod_nonneg (n / a) (Int.ne_of_gt hb)
  have hhigh' := Int.emod_lt_of_pos (n / a) hb
  have hn := Int.mul_ediv_add_emod n a
  have hq := Int.mul_ediv_add_emod (n / a) b
  have hsum : a * (n / a % b) + n % a + a * b * (n / a / b) = n := by
    rw [Int.mul_assoc, Int.add_right_comm, ← Int.mul_add, Int.add_comm (n / a % b), hq, hn]
  have hnonneg : 0 ≤ a * (n / a % b) := Int.mul_nonneg (Int.le_of_lt ha) hlow'
  have hle : a * (n / a % b) ≤ a * (b - 1) :=
    Int.mul_le_mul_of_nonneg_left (by omega) (Int.le_of_lt ha)
  rw [Int.mul_sub, Int.mul_one] at hle
  exact ((Int.ediv_emod_unique (Int.mul_pos ha hb)).2 ⟨hsum, by omega, by omega⟩).2

/-- The bytes of a number modulo a power are digits of the number itself. -/
lemma getElem?_littleEndianBytes (n : Int) {count j : Nat} (hj : j < count) :
    (littleEndianBytes count (n % 256 ^ count).toNat)[j]? = some (UInt8.ofInt (n / 256 ^ j)) := by
  induction count generalizing n j with
  | zero => omega
  | succ count ih =>
    have hpos : (0 : Int) < 256 ^ count := Int.pow_pos (by decide)
    have hlow' := Int.emod_nonneg (n / 256) (Int.ne_of_gt hpos)
    rw [Int.pow_succ, Int.mul_comm, emod_mul_eq n (by decide) hpos]
    have hfirst : (256 * (n / 256 % 256 ^ count) + n % 256).toNat % 256 = (n % 256).toNat := by
      omega
    have hrest : (256 * (n / 256 % 256 ^ count) + n % 256).toNat / 256 =
        (n / 256 % 256 ^ count).toNat := by
      omega
    rw [littleEndianBytes, hfirst, hrest]
    cases j with
    | zero =>
      rw [List.getElem?_cons_zero, Int.pow_zero, Int.ediv_one]
      rfl
    | succ j =>
      have hdiv : n / 256 / 256 ^ j = n / 256 ^ (j + 1) := by
        rw [Int.ediv_ediv_of_nonneg (by decide), Int.pow_succ, Int.mul_comm]
      rw [List.getElem?_cons_succ, ih _ (by omega), hdiv]

lemma littleEndian_lt (bytes : List UInt8) : littleEndian bytes < 256 ^ bytes.length := by
  induction bytes with
  | nil => simp [littleEndian]
  | cons b bytes ih =>
    have hb := b.toNat_lt
    have hcons : littleEndian (b :: bytes) = b.toNat + 256 * littleEndian bytes := rfl
    rw [hcons, List.length_cons, Nat.pow_succ]
    omega

namespace ViewElement

variable (e : ViewElement)

/-- The integers that an element can be. -/
def InRange (n : Int) : Prop :=
  if e.isSigned then -2 ^ (8 * e.width - 1) ≤ n ∧ n < 2 ^ (8 * e.width - 1)
  else 0 ≤ n ∧ n < 2 ^ (8 * e.width)

instance (n : Int) : Decidable (e.InRange n) :=
  inferInstanceAs (Decidable
    (if e.isSigned then -2 ^ (8 * e.width - 1) ≤ n ∧ n < 2 ^ (8 * e.width - 1)
      else 0 ≤ n ∧ n < 2 ^ (8 * e.width)))

/-- There are as many elements as there are groups of bytes. -/
lemma two_pow_width : ((2 ^ (8 * e.width) : Nat) : Int) = 256 ^ e.width := by
  cases e <;> rfl

/-- The bytes of an integer in two's complement, the lowest first. -/
theorem getElem?_encode (n : Int) {j : Nat} (hj : j < e.width) :
    (e.encode n)[j]? = some (UInt8.ofInt (n / 256 ^ j)) := by
  rw [encode, BitVec.toNat_ofInt, two_pow_width]
  exact getElem?_littleEndianBytes n hj

lemma littleEndian_encode (n : Int) : (littleEndian (e.encode n) : Int) = n % 256 ^ e.width := by
  have hpos : (0 : Int) < 256 ^ e.width := Int.pow_pos (by decide)
  have hlow := Int.emod_nonneg n (Int.ne_of_gt hpos)
  have hhigh := Int.emod_lt_of_pos n hpos
  rw [encode, littleEndian_littleEndianBytes, BitVec.toNat_ofInt, two_pow_width,
    Int.natCast_emod, Int.toNat_of_nonneg hlow, Int.natCast_pow]
  exact Int.emod_eq_of_lt hlow hhigh

/-- The integer that bytes stand for has the sign of the element, and modulo the number of elements
there are it is the number of the bytes. -/
theorem decode_spec (bytes : List UInt8) :
    e.InRange (e.decode bytes) ∧ (256 : Int) ^ e.width ∣ e.decode bytes - littleEndian bytes := by
  cases e <;>
    simp only [InRange, decode, isSigned, width, BitVec.toInt_eq_toNat_cond, BitVec.toNat_ofNat,
      if_true, Bool.false_eq_true, if_false] <;>
    omega

/-- No other integer does. -/
lemma eq_of_inRange {x y : Int} (hx : e.InRange x) (hy : e.InRange y)
    (h : (256 : Int) ^ e.width ∣ x - y) : x = y := by
  cases e <;>
    simp only [InRange, isSigned, width, if_true, Bool.false_eq_true, if_false] at hx hy h <;>
    omega

/-- An integer of the element comes back from its bytes. -/
theorem decode_encode {n : Int} (hn : e.InRange n) : e.decode (e.encode n) = n := by
  obtain ⟨hrange, hdvd⟩ := e.decode_spec (e.encode n)
  refine e.eq_of_inRange hrange hn ?_
  rw [littleEndian_encode] at hdvd
  have hself : (256 : Int) ^ e.width ∣ n - n % 256 ^ e.width := Int.dvd_self_sub_emod
  have hsub : e.decode (e.encode n) - n =
      e.decode (e.encode n) - n % 256 ^ e.width - (n - n % 256 ^ e.width) := by omega
  rw [hsub]
  exact Int.dvd_sub hdvd hself

/-- As many bits as the element has are the bits of the bytes. -/
lemma ofInt_decode (bytes : List UInt8) :
    BitVec.ofInt (8 * e.width) (e.decode bytes) =
      BitVec.ofNat (8 * e.width) (littleEndian bytes) := by
  unfold decode
  cases e.isSigned with
  | true => exact BitVec.ofInt_toInt
  | false =>
    show BitVec.ofInt _ ((BitVec.ofNat (8 * e.width) (littleEndian bytes)).toNat : Int) = _
    rw [BitVec.ofInt_natCast, BitVec.ofNat_toNat, BitVec.setWidth_eq]

/-- More bits are those of the bytes and the sign. -/
lemma ofInt_decode_of_signed (bytes : List UInt8) (h : e.isSigned = true) (bits : Nat) :
    BitVec.ofInt bits (e.decode bytes) =
      (BitVec.ofNat (8 * e.width) (littleEndian bytes)).signExtend bits := by
  rw [decode, h]
  rfl

/-- More bits are those of the bytes and zeros. -/
lemma ofInt_decode_of_unsigned {bytes : List UInt8} (h : e.isSigned = false)
    (hlength : bytes.length = e.width) (bits : Nat) :
    BitVec.ofInt bits (e.decode bytes) = BitVec.ofNat bits (littleEndian bytes) := by
  have hlt : littleEndian bytes < 2 ^ (8 * e.width) := by
    have hlt := littleEndian_lt bytes
    rwa [hlength, show (256 : Nat) = 2 ^ 8 from rfl, ← Nat.pow_mul] at hlt
  rw [decode, h]
  show BitVec.ofInt _ ((BitVec.ofNat (8 * e.width) (littleEndian bytes)).toNat : Int) = _
  rw [BitVec.toNat_ofNat, Nat.mod_eq_of_lt hlt, BitVec.ofInt_natCast]

end ViewElement

/-! ### Loads -/

namespace Access

/-- The load reads elements of this kind: as many bits, and if it extends them, then with the same
sign. -/
def Reads (a : Access) (e : ViewElement) : Prop :=
  a ∈ loads ∧ a.bits = 8 * e.width ∧ (a.isPartial = true → a.signed = e.isSigned)

/-- The value that the load has for an integer. -/
def valueOf (a : Access) (x : Int) : Value :=
  match a.type with
  | .i64 => .i64 (.ofBitVec (.ofInt 64 x))
  | .f32 => .f32 (.ofBitVec (.ofInt 32 x))
  | _ => .i32 (.ofBitVec (.ofInt 32 x))

/-- A load has 64 bits, or it takes the 32 bits of a value as they are, or it extends an integer. -/
lemma loads_cases : ∀ a ∈ loads, a.bits = 64 ∨
    (a.bits = 32 ∧ a.signed = false ∧ (a.type = .i32 ∨ a.type = .f32)) ∨
    (a.isPartial = true ∧ (a.type = .i32 ∨ a.type = .i64)) := by
  decide

/-- A load gives the integer that a view has for the bytes. -/
theorem Reads.loaded_eq {a : Access} {e : ViewElement} (h : a.Reads e) {bytes : List UInt8}
    (hlength : bytes.length = e.width) :
    Machine.loaded a (littleEndian bytes) = some (a.valueOf (e.decode bytes)) := by
  obtain ⟨ha, hbits, hsigned⟩ := h
  rcases loads_cases a ha with hwide | ⟨hwhole, hs, htype⟩ | ⟨hp, htype⟩
  · rw [hwide] at hbits
    cases e <;> cases hbits
  · have hsame := e.ofInt_decode bytes
    rw [← hbits, hwhole] at hsame
    rcases htype with htype | htype
    · simp only [Machine.loaded, valueOf, htype, hs, hsame, Bool.false_eq_true, if_false]
    · simp only [Machine.loaded, valueOf, htype, hsame]
      rfl
  · have hsign := hsigned hp
    cases he : e.isSigned with
    | true =>
      have hextend := e.ofInt_decode_of_signed bytes he
      rw [← hbits] at hextend
      rcases htype with htype | htype <;>
        simp only [Machine.loaded, valueOf, htype, hsign, he, hextend, if_true]
    | false =>
      have hextend := e.ofInt_decode_of_unsigned he hlength
      rcases htype with htype | htype <;>
        simp only [Machine.loaded, valueOf, htype, hsign, he, hextend, Bool.false_eq_true, if_false]

end Access

/-- A load of the guest at an address of a memory puts a value on the stack. -/
def Execution.Guest.Loads (g : Guest) (a : Access) (memory address : Nat) (v : Value) : Prop :=
  ∀ (p : Program) (m : Machine) (arg : MemArg) (base : UInt32) (stack : List Cell) (rest : Code),
    m.current.code = .op (.load a arg) rest → m.current.stack = .value (.i32 base) :: stack →
    arg.memory = memory → base.toNat + arg.offset = address →
    m.step p g =
      .next { m with current := { m.current with stack := .value v :: stack, code := rest } } g

/-- A load of the guest observes what a view has. -/
lemma Execution.Guest.loads_of_reads {g : Guest} {i : Nat} {mem : Memory}
    (hm : g.memories[i]? = some mem) {a : Access} {e : ViewElement} (ha : a.Reads e) {address : Nat}
    (hin : address + e.width ≤ mem.byteSize) :
    g.Loads a i address (a.valueOf (e.decode (mem.slice address e.width))) := by
  intro p m arg base stack rest hcode hstack hmemory haddress
  have hbytes : a.bits / 8 = e.width := by
    rw [ha.2.1]
    exact Nat.mul_div_cancel_left _ (by decide)
  have hinside : mem.inBounds address e.width = true := decide_eq_true hin
  have hloaded := ha.loaded_eq (mem.length_slice address e.width)
  rw [← Memory.number] at hloaded
  simp only [Machine.step, hcode, Machine.stepOp, hstack, Machine.onMemory, hmemory, haddress, hm,
    hbytes, hinside, if_true, hloaded, Machine.after]

/-! ### Memories -/

namespace Memory

variable {m : Memory}

lemma get_write_of_outside {start a : Nat} {bytes : List UInt8}
    (h : a < start ∨ start + bytes.length ≤ a) : (m.write start bytes).get a = m.get a := by
  induction bytes generalizing m start with
  | nil => rfl
  | cons b bytes ih =>
    rw [List.length_cons] at h
    rw [write, ih (by omega), m.get_set_of_ne _ _ _ (by omega)]

lemma get_write {start j : Nat} {bytes : List UInt8} {b : UInt8}
    (h : start + bytes.length ≤ m.byteSize) (hb : bytes[j]? = some b) :
    (m.write start bytes).get (start + j) = b := by
  induction bytes generalizing m start j with
  | nil => cases hb
  | cons x bytes ih =>
    rw [List.length_cons] at h
    have hsize : (m.set start x).byteSize = m.byteSize := by
      rw [byteSize, size_set, byteSize]
    cases j with
    | zero =>
      cases hb
      show ((m.set start b).write (start + 1) bytes).get start = b
      rw [get_write_of_outside (.inl (Nat.lt_succ_self start)), m.get_set_self _ _ (by omega)]
    | succ j =>
      rw [write, ← Nat.add_assoc, Nat.add_right_comm]
      exact ih (by omega) hb

/-- Where the bytes are the same, so is what is read. -/
lemma slice_congr {m' : Memory} {start length : Nat}
    (h : ∀ j < length, m'.get (start + j) = m.get (start + j)) :
    m'.slice start length = m.slice start length :=
  List.map_congr_left fun j hj => h j (List.mem_range.1 hj)

end Memory

/-- The second memory is the first one with an integer as an element of the view: its bytes in two's
complement stand there, the lowest first, and everything else is as it was. -/
structure View.Stored (v : View) (index : Nat) (n : Int) (m m' : Memory) : Prop where
  size_eq : m'.size = m.size
  maximum_eq : m'.maximum = m.maximum
  bytes : ∀ j < v.element.width,
    m'.get (index * v.element.width + v.offset + j) = UInt8.ofInt (n / 256 ^ j)
  rest : ∀ a, a < index * v.element.width + v.offset ∨
    index * v.element.width + v.offset + v.element.width ≤ a → m'.get a = m.get a

namespace View

variable {v : View} {index : Nat} {n : Int} {m m' : Memory}

lemma stored_write (h : index < v.lengthWithin m.byteSize) (n : Int) :
    v.Stored index n m
      (m.write (index * v.element.width + v.offset) (v.element.encode n)) := by
  have hin := (v.lt_lengthWithin_iff index m.byteSize).1 h
  have hlength := v.element.length_encode n
  refine ⟨m.size_write _ _, m.maximum_write _ _, fun j hj => ?_, fun a ha => ?_⟩
  · exact Memory.get_write (by rwa [hlength]) (v.element.getElem?_encode n hj)
  · exact Memory.get_write_of_outside (by rwa [hlength])

lemma Stored.byteSize_eq (h : v.Stored index n m m') : m'.byteSize = m.byteSize := by
  rw [Memory.byteSize, h.size_eq, Memory.byteSize]

/-- The integer is the element of the view. -/
lemma Stored.getElem?_elements (h : v.Stored index n m m') (hn : v.element.InRange n)
    (hlt : index < v.lengthWithin m.byteSize) : (v.elements m')[index]? = some n := by
  have hslice : m'.slice (index * v.element.width + v.offset) v.element.width =
      v.element.encode n := by
    apply List.ext_getElem?
    intro j
    by_cases hj : j < v.element.width
    · rw [m'.getElem?_slice hj, h.bytes j hj, v.element.getElem?_encode n hj]
    · rw [List.getElem?_eq_none (by rw [m'.length_slice]; omega),
        List.getElem?_eq_none (by rw [v.element.length_encode]; omega)]
  rw [v.getElem?_elements (by rwa [h.byteSize_eq]), hslice, v.element.decode_encode hn]

/-- The other elements of the view are what they were. -/
lemma Stored.getElem?_elements_of_ne (h : v.Stored index n m m') {other : Nat} (hne : other ≠ index) :
    (v.elements m')[other]? = (v.elements m)[other]? := by
  by_cases hlt : other < v.lengthWithin m.byteSize
  · have hslice : m'.slice (other * v.element.width + v.offset) v.element.width =
        m.slice (other * v.element.width + v.offset) v.element.width := by
      refine Memory.slice_congr fun j hj => h.rest _ ?_
      rcases Nat.lt_or_gt_of_ne hne with hless | hmore
      · have hmul := Nat.mul_le_mul_right v.element.width hless
        rw [Nat.succ_mul] at hmul
        omega
      · have hmul := Nat.mul_le_mul_right v.element.width hmore
        rw [Nat.succ_mul] at hmul
        omega
    rw [v.getElem?_elements (by rwa [h.byteSize_eq]), v.getElem?_elements hlt, hslice]
  · rw [List.getElem?_eq_none (by rw [v.length_elements, h.byteSize_eq]; omega),
      List.getElem?_eq_none (by rw [v.length_elements]; omega)]

end View

/-! ### At every moment -/

namespace Moment

variable {w₀ w₁ w : World σ} {m : Module} {o : ImportObject σ} {i : Instance} {t : Moment σ α}

/-- How getting an element ends, whether there is one or not. -/
lemma ends_get_of_elements {v : View} {g : Guest} {mem : Memory}
    (hg : t.world.guest? v.memory.address.owner = some g)
    (hm : g.memories[v.memory.address.index]? = some mem)
    (hlimit : mem.byteSize ≤ View.addressLimit) (index : Nat) :
    (t.turn (v.get index)).ends =
      (.done (((v.elements mem)[index]?).elim (.error (v.outside index)) .ok), t.guest, t.world) := by
  cases hx : (v.elements mem)[index]? with
  | some x => exact ends_get hg hm hlimit hx
  | none =>
    rw [List.getElem?_eq_none_iff, v.length_elements] at hx
    exact (ends_outside hg hm hx).1

/-- Setting an element leaves a memory in which it is stored, and everything else as it is. -/
lemma exists_stored {v : View} {g : Guest} {mem : Memory}
    (hg : t.world.guest? v.memory.address.owner = some g)
    (hm : g.memories[v.memory.address.index]? = some mem)
    (hlimit : mem.byteSize ≤ View.addressLimit) {index : Nat}
    (hlt : index < v.lengthWithin mem.byteSize) (n : Int) :
    ∃ mem', v.Stored index n mem mem' ∧ (t.turn (v.set index n)).ends =
      (.done (.ok ()), t.guest, t.world.setGuest v.memory.address.owner
        (some (Machine.changeMemory g v.memory.address.index fun _ => mem'))) := by
  refine ⟨_, View.stored_write hlt n, ?_⟩
  have hchange : (Machine.changeMemory g v.memory.address.index fun m =>
      m.write (index * v.element.width + v.offset) (v.element.encode n)) =
      Machine.changeMemory g v.memory.address.index fun _ =>
        mem.write (index * v.element.width + v.offset) (v.element.encode n) := by
    refine congrArg (fun memories => { g with memories }) (Elementwise.modify_congr fun x hx => ?_)
    rw [Option.some.inj (hx.symm.trans hm)]
  rw [← hchange]
  exact ends_set hg hm hlimit hlt n

/-- **What is written through one view is seen everywhere.** At every moment after the instance was made
at which it is at rest, an integer is written as an element of a view of an exported memory. Then the
bytes of the element are those of the integer in two's complement, the lowest first; all other bytes
and the size of the memory are what they were, and so is every other entity. Getting the element gives
the integer, and getting another one gives what it gave before. An element of any other view of the
memory is the integer, with a sign if the view has one, that its bytes stand for now. These are the
bytes that the host reads there, and a load of the guest that reads as many of them and extends them in
the same way has the same integer. -/
theorem writes_seen_by_all (h₀ : w₀.Reached) (hi : w₀.instantiate m o = (.made i, w₁))
    (hw : World.Leads w₁ w) {name : String} {h : Handle MemoryType}
    (hx : i.exports.memory name = .ok h) (ht : t.Occurs w) (hrun : i.number ∉ t.running) :
    ∃ g mem, t.world.guest? h.address.owner = some g ∧
      g.memories[h.address.index]? = some mem ∧
      ∀ (v : View) index n, v.memory = h → v.element.InRange n →
        index < v.lengthWithin mem.byteSize →
        ∃ mem' g' w', v.Stored index n mem mem' ∧
          g' = Machine.changeMemory g h.address.index (fun _ => mem') ∧
          w' = t.world.setGuest h.address.owner (some g') ∧
          w'.guest? h.address.owner = some g' ∧ g'.memories[h.address.index]? = some mem' ∧
          (∀ s y, (s, y) ≠ (.memory, h.address) → w'.content? s y = t.world.content? s y) ∧
          (t.turn (v.set index n)).ends = (.done (.ok ()), t.guest, w') ∧
          (t.turn (v.set index n >>= fun _ => v.get index)).ends = (.done (.ok n), t.guest, w') ∧
          (∀ other, other ≠ index →
            (t.turn (v.set index n >>= fun _ => v.get other)).ends.1 =
              (t.turn (v.get other)).ends.1) ∧
          ∀ (u : View) k, u.memory = h → k < u.lengthWithin mem.byteSize →
            ∃ x, u.element.InRange x ∧ (256 : Int) ^ u.element.width ∣ x - littleEndian
                (mem'.slice (k * u.element.width + u.offset) u.element.width) ∧
              (t.turn (v.set index n >>= fun _ => u.get k)).ends = (.done (.ok x), t.guest, w') ∧
              (t.turn (v.set index n >>= fun _ =>
                h.read (k * u.element.width + u.offset) u.element.width)).ends =
                (.done (.ok (mem'.slice (k * u.element.width + u.offset) u.element.width)),
                  t.guest, w') ∧
              ∀ a : Access, a.Reads u.element → g'.Loads a h.address.index
                (k * u.element.width + u.offset) (a.valueOf x) := by
  obtain ⟨g, mem, hg, hmem, -, hwithin⟩ := ht.exists_memory h₀ hi hw hx hrun
  have hlimit := hwithin.byteSize_le
  refine ⟨g, mem, hg, hmem, fun v index n hv hn hlt => ?_⟩
  subst hv
  obtain ⟨mem', hstored, hset⟩ := exists_stored hg hmem hlimit hlt n
  let g' := Machine.changeMemory g v.memory.address.index fun _ => mem'
  let w' := t.world.setGuest v.memory.address.owner (some g')
  let t' : Moment σ α := { t with world := w' }
  have hg' : w'.guest? v.memory.address.owner = some g' := by
    rw [World.guest?_setGuest, if_pos ⟨rfl, World.lt_size_of_guest? _ _ hg⟩]
  have hmem' : g'.memories[v.memory.address.index]? = some mem' := by
    simp only [g', Machine.changeMemory, Array.getElem?_modify, if_true, hmem, Option.map_some]
  have hlimit' : mem'.byteSize ≤ View.addressLimit := by
    rw [hstored.byteSize_eq]
    exact hlimit
  have hother : ∀ s y, (s, y) ≠ (.memory, v.memory.address) →
      w'.content? s y = t.world.content? s y := by
    intro s y hne
    calc w'.content? s y = (t.turn (v.set index n)).ends.2.2.content? s y := by rw [hset]
      _ = t.world.content? s y :=
        (Use.on (u := .viewSet v index n) rfl).content?_run hne t.memory t.guest t.world
  refine ⟨mem', g', w', hstored, rfl, rfl, hg', hmem', hother, hset, ?_, fun other hne => ?_,
    fun u k hu hk => ?_⟩
  · rw [ends_bind hset]
    exact ends_get (t := t') hg' hmem' hlimit' (hstored.getElem?_elements hn hlt)
  · have hbefore := ends_get_of_elements (t := t) hg hmem hlimit other
    have hafter := ends_get_of_elements (t := t') hg' hmem' hlimit' other
    rw [hstored.getElem?_elements_of_ne hne] at hafter
    rw [ends_bind hset, hbefore]
    show (t'.turn (v.get other)).ends.1 = _
    rw [hafter]
  · rw [← hstored.byteSize_eq] at hk
    have hin := (u.lt_lengthWithin_iff k _).1 hk
    obtain ⟨hrange, hdvd⟩ := u.element.decode_spec
      (mem'.slice (k * u.element.width + u.offset) u.element.width)
    refine ⟨_, hrange, hdvd, ?_, ?_, fun a ha => Guest.loads_of_reads hmem' ha hin⟩
    · rw [← hu] at hg' hmem'
      rw [ends_bind hset]
      exact ends_get (t := t') hg' hmem' hlimit' (u.getElem?_elements hk)
    · rw [ends_bind hset]
      exact ends_read (t := t') hg' hmem' hin

/-- Two bytes are written at an odd address, and the second one alone is read with its sign. -/
theorem high_byte_has_the_sign :
    ∃ (h : Handle MemoryType) (t : Moment Unit Unit), t.Occurs .threePages ∧
      (t.turn (View.set ⟨h, .u16, 1⟩ 0 0x80ff >>= fun _ => View.get ⟨h, .u16, 1⟩ 0)).ends.1 =
        .done (.ok 0x80ff) ∧
      (t.turn (View.set ⟨h, .u16, 1⟩ 0 0x80ff >>= fun _ => View.get ⟨h, .i8, 2⟩ 0)).ends.1 =
        .done (.ok (-128)) := by
  have hx : Exports.memory ⟨[⟨"m", .memory ⟨⟨0, 0⟩, ⟨1, some 5, false, false⟩⟩⟩]⟩ "m" =
    .ok ⟨⟨0, 0⟩, ⟨1, some 5, false, false⟩⟩ := rfl
  have ht := Occurs.perform (w := World.threePages) (.done ())
  obtain ⟨g, mem, hg, hmem, hwrites⟩ :=
    writes_seen_by_all ⟨(), _, .refl⟩ World.instantiate_threePages .refl hx ht (by simp)
  have hsize : mem.byteSize = 131072 := by
    have hmemory := World.memory?_threePages
    rw [World.memory?, hg, Option.bind_some, hmem] at hmemory
    rw [Option.some.inj hmemory]
    simp [Memory.byteSize, Memory.size, Memory.ofType, pageSize]
  have hin : ∀ (e : ViewElement) offset, offset < 4 →
      0 < View.lengthWithin ⟨⟨⟨0, 0⟩, ⟨1, some 5, false, false⟩⟩, e, offset⟩ mem.byteSize := by
    intro e offset hoffset
    rw [View.lt_lengthWithin_iff, hsize]
    cases e <;> simp only [ViewElement.width] <;> omega
  obtain ⟨mem', g', w', hstored, -, -, -, -, -, -, hget, -, hviews⟩ :=
    hwrites ⟨_, .u16, 1⟩ 0 0x80ff rfl (by decide) (hin .u16 1 (by decide))
  obtain ⟨x, hrange, hdvd, hx, -, -⟩ := hviews ⟨_, .i8, 2⟩ 0 rfl (hin .i8 2 (by decide))
  have hbyte : mem'.get 2 = 0x80 := hstored.bytes 1 (by decide)
  have hslice : mem'.slice 2 1 = [0x80] := by
    simp [Memory.slice, hbyte]
  have hvalue : x = -128 := by
    have hdvd : (256 : Int) ∣ x - littleEndian (mem'.slice 2 1) := hdvd
    have hrange : -128 ≤ x ∧ x < 128 := hrange
    rw [hslice, show littleEndian [0x80] = 128 from rfl] at hdvd
    omega
  rw [hvalue] at hx
  exact ⟨_, _, ht, congrArg Prod.fst hget, congrArg Prod.fst hx⟩

end Moment

end Embedder
