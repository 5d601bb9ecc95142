import Embedder.Proofs.World.Refusals

/-!
# The elements of a view

A view is told how many elements it has, it gives and changes one of them, and it gives all of them.
Each of these finds the end of the memory in its own way, and all of them find the same.

* `View.elements`: the elements of a view in a memory;
* `View.lt_lengthWithin_iff`: an element belongs to a view if and only if all its bytes exist;
* `View.decodeAll_slice`: reading everything at once gives the elements;
* `Moment.ends_bind`: how one action ends after another;
* `Moment.ends_get`, `Moment.ends_set`, `Moment.ends_toList`: what a host is told;
* `Moment.views_agree_on_bounds`: all of it for an exported memory, at every moment.
-/

namespace Embedder

open Execution (Guest)

variable {σ α β γ : Type}

/-! ### Ranges of bytes -/

namespace Memory

variable (m : Memory)

lemma length_slice (start length : Nat) : (m.slice start length).length = length := by
  simp [slice]

lemma getElem?_slice {start length j : Nat} (hj : j < length) :
    (m.slice start length)[j]? = some (m.get (start + j)) := by
  simp [slice, hj]

/-- A part of a range is a range. -/
lemma extract_slice {start length i width : Nat} (h : i + width ≤ length) :
    ((m.slice start length).toArray.extract i (i + width)).toList = m.slice (start + i) width := by
  apply List.ext_getElem?
  intro j
  rw [Array.toList_extract, List.extract_eq_take_drop, Nat.add_sub_cancel_left]
  by_cases hj : j < width
  · have hin : i + j < length := by omega
    rw [List.getElem?_take_of_lt hj, List.getElem?_drop, m.getElem?_slice hin, m.getElem?_slice hj,
      Nat.add_assoc]
  · have hout : width ≤ j := by omega
    rw [List.getElem?_eq_none (by simp only [List.length_take]; omega),
      List.getElem?_eq_none (by rw [length_slice]; exact hout)]

end Memory

/-! ### Elements -/

namespace View

variable (v : View)

/-- The elements of the view in a memory. -/
def elements (m : Memory) : List Int :=
  (List.range (v.lengthWithin m.byteSize)).map fun index =>
    v.element.decode (m.slice (v.offset + index * v.element.width) v.element.width)

/-- What a host is told of an element that the view does not have. If no address belongs to it, then
the start of the view stands in for it. -/
def outside (index : Nat) : MemoryError :=
  let start := index * v.element.width + v.offset
  .outOfBounds (if start < addressLimit then start else v.offset) v.element.width

lemma length_elements (m : Memory) : (v.elements m).length = v.lengthWithin m.byteSize := by
  simp [elements]

/-- An element belongs to the view if and only if the memory does not end before it does. -/
theorem lt_lengthWithin_iff (index byteSize : Nat) :
    index < v.lengthWithin byteSize ↔
      index * v.element.width + v.offset + v.element.width ≤ byteSize := by
  have hpos := v.element.width_pos
  have hdiv : index < v.lengthWithin byteSize ↔
      (index + 1) * v.element.width ≤ byteSize - v.offset :=
    Nat.le_div_iff_mul_le hpos
  rw [hdiv, Nat.succ_mul]
  omega

lemma getElem?_elements {m : Memory} {index : Nat} (h : index < v.lengthWithin m.byteSize) :
    (v.elements m)[index]? = some (v.element.decode
      (m.slice (index * v.element.width + v.offset) v.element.width)) := by
  simp [elements, h, Nat.add_comm]

/-- The bytes behind the start of the view, cut into elements. -/
theorem decodeAll_slice {m : Memory} (h : v.offset ≤ m.byteSize) :
    v.element.decodeAll (m.slice v.offset (m.byteSize - v.offset)) = v.elements m := by
  simp only [ViewElement.decodeAll, elements, m.length_slice]
  refine List.map_congr_left fun index hindex => ?_
  have hlt : index < v.lengthWithin m.byteSize := List.mem_range.1 hindex
  have hle := (v.lt_lengthWithin_iff index m.byteSize).1 hlt
  rw [Nat.succ_mul, m.extract_slice (by omega)]

/-- A view that starts behind the end of a memory has no elements. -/
lemma elements_eq_nil {m : Memory} (h : m.byteSize ≤ v.offset) : v.elements m = [] := by
  have hlength : (v.elements m).length = 0 := by
    rw [length_elements, lengthWithin, Nat.sub_eq_zero_of_le h, Nat.zero_div]
  exact List.length_eq_zero_iff.1 hlength

variable {v} {m : Memory} {index : Nat}

/-- An element that belongs to the view has an address. -/
lemma address_eq_ok (hlimit : m.byteSize ≤ addressLimit) (h : index < v.lengthWithin m.byteSize) :
    v.address index = .ok (index * v.element.width + v.offset) := by
  have hpos := v.element.width_pos
  have hle := (v.lt_lengthWithin_iff index m.byteSize).1 h
  exact if_pos (by omega)

/-- An index has no address, or the address is what a host is told if the bytes do not exist. -/
lemma address_cases (index : Nat) :
    v.address index = .error (v.outside index) ∨
      v.address index = .ok (index * v.element.width + v.offset) ∧
      v.outside index = .outOfBounds (index * v.element.width + v.offset) v.element.width := by
  unfold address outside
  simp only
  split
  · exact .inr ⟨rfl, rfl⟩
  · exact .inl rfl

end View

/-! ### What a host is told -/

/-- No memory has more bytes than there are addresses. -/
lemma Memory.Within.byteSize_le {mem : Memory} {type : MemoryType} (h : mem.Within type) :
    mem.byteSize ≤ View.addressLimit :=
  Nat.le_trans (Nat.mul_le_mul_right _ h.allows.2) (by decide)

namespace Moment

/-- An action that goes on with the answer of another one ends as it does from where that one ends. -/
lemma ends_bind {t : Moment σ α} {a : Action σ β} {f : β → Action σ γ} {r : β} {g : Guest}
    {v : World σ} (h : (t.turn a).ends = (.done r, g, v)) :
    (t.turn (a >>= f)).ends = (({ t with guest := g, world := v } : Moment σ α).turn (f r)).ends := by
  simp only [ends, turn] at h
  simp only [ends, turn, World.run_bind, h]

section AtRest

variable {t : Moment σ α} {h : Handle MemoryType} {g : Guest} {mem : Memory}

lemma ends_read (hg : t.world.guest? h.address.owner = some g)
    (hm : g.memories[h.address.index]? = some mem) {start length : Nat}
    (hin : start + length ≤ mem.byteSize) :
    (t.turn (h.read start length)).ends = (.done (.ok (mem.slice start length)), t.guest, t.world) := by
  have hread : mem.read? start length = some (mem.slice start length) :=
    if_pos (decide_eq_true hin)
  simp only [ends, turn, Handle.read, World.run, World.operate_of_guest? _ _ hg,
    Operation.perform, hm, Option.bind_some, hread, World.setGuest_self _ _ hg]

lemma ends_read_of_lt (hg : t.world.guest? h.address.owner = some g)
    (hm : g.memories[h.address.index]? = some mem) {start length : Nat}
    (hlt : mem.byteSize < start + length) :
    (t.turn (h.read start length)).ends =
      (.done (.error (.outOfBounds start length)), t.guest, t.world) := by
  have hread : mem.read? start length = none := by
    rw [Memory.read?, Memory.inBounds, decide_eq_false (by omega)]
    rfl
  simp only [ends, turn, Handle.read, World.run, World.operate_of_guest? _ _ hg,
    Operation.perform, hm, Option.bind_some, hread, World.setGuest_self _ _ hg]

lemma ends_write (hg : t.world.guest? h.address.owner = some g)
    (hm : g.memories[h.address.index]? = some mem) {start : Nat} {bytes : List UInt8}
    (hin : start + bytes.length ≤ mem.byteSize) :
    (t.turn (h.write start bytes)).ends = (.done (.ok ()), t.guest,
      t.world.setGuest h.address.owner
        (some (Execution.Machine.changeMemory g h.address.index fun m => m.write start bytes))) := by
  have hin : Execution.Machine.inMemory g h.address.index start bytes.length = true := by
    rw [Execution.Machine.inMemory, hm, Option.any_some]
    exact decide_eq_true hin
  simp only [ends, turn, Handle.write, World.run, World.operate_of_guest? _ _ hg,
    Operation.perform, hin, if_true]

variable {v : View}

lemma ends_length (hg : t.world.guest? v.memory.address.owner = some g)
    (hm : g.memories[v.memory.address.index]? = some mem) :
    (t.turn v.length).ends = (.done (.ok (v.elements mem).length), t.guest, t.world) := by
  rw [View.length, ends_bind (ends_byteSize hg hm), v.length_elements]
  rfl

lemma ends_isEmpty (hg : t.world.guest? v.memory.address.owner = some g)
    (hm : g.memories[v.memory.address.index]? = some mem) :
    (t.turn v.isEmpty).ends = (.done (.ok (v.elements mem).isEmpty), t.guest, t.world) := by
  have hempty : (v.elements mem).isEmpty = ((v.elements mem).length == 0) := by
    cases v.elements mem <;> rfl
  rw [View.isEmpty, ends_bind (ends_length hg hm), hempty]
  rfl

/-- Reading everything gives the elements, also where the view starts behind the memory. -/
lemma ends_toList (hg : t.world.guest? v.memory.address.owner = some g)
    (hm : g.memories[v.memory.address.index]? = some mem) :
    (t.turn v.toList).ends = (.done (.ok (v.elements mem)), t.guest, t.world) := by
  rw [View.toList, ends_bind (ends_byteSize hg hm)]
  show (t.turn (if mem.byteSize < v.offset then _ else _)).ends = _
  by_cases hoffset : mem.byteSize < v.offset
  · rw [if_pos hoffset, v.elements_eq_nil (Nat.le_of_lt hoffset)]
    rfl
  · have hin : v.offset + (mem.byteSize - v.offset) ≤ mem.byteSize := by omega
    rw [if_neg hoffset, ← v.decodeAll_slice (Nat.le_of_not_lt hoffset)]
    exact ends_bind (ends_read hg hm hin)

lemma ends_get (hg : t.world.guest? v.memory.address.owner = some g)
    (hm : g.memories[v.memory.address.index]? = some mem)
    (hlimit : mem.byteSize ≤ View.addressLimit) {index : Nat} {x : Int}
    (hx : (v.elements mem)[index]? = some x) :
    (t.turn (v.get index)).ends = (.done (.ok x), t.guest, t.world) := by
  have hlt : index < v.lengthWithin mem.byteSize := by
    rw [← v.length_elements]
    exact (List.getElem?_eq_some_iff.1 hx).1
  rw [v.getElem?_elements hlt] at hx
  obtain rfl := Option.some.inj hx
  rw [View.get, View.address_eq_ok hlimit hlt]
  exact ends_bind (ends_read hg hm ((v.lt_lengthWithin_iff _ _).1 hlt))

lemma ends_set (hg : t.world.guest? v.memory.address.owner = some g)
    (hm : g.memories[v.memory.address.index]? = some mem)
    (hlimit : mem.byteSize ≤ View.addressLimit) {index : Nat}
    (hlt : index < v.lengthWithin mem.byteSize) (n : Int) :
    (t.turn (v.set index n)).ends = (.done (.ok ()), t.guest,
      t.world.setGuest v.memory.address.owner
        (some (Execution.Machine.changeMemory g v.memory.address.index fun m =>
          m.write (index * v.element.width + v.offset) (v.element.encode n)))) := by
  rw [View.set, View.address_eq_ok hlimit hlt]
  refine ends_write hg hm ?_
  rw [v.element.length_encode]
  exact (v.lt_lengthWithin_iff _ _).1 hlt

/-- An element that the view does not have is neither given nor changed. -/
lemma ends_outside (hg : t.world.guest? v.memory.address.owner = some g)
    (hm : g.memories[v.memory.address.index]? = some mem) {index : Nat}
    (hle : v.lengthWithin mem.byteSize ≤ index) :
    (t.turn (v.get index)).ends = (.done (.error (v.outside index)), t.guest, t.world) ∧
      ∀ n, (t.turn (v.set index n)).ends = (.done (.error (v.outside index)), t.guest, t.world) := by
  have hlt : mem.byteSize < index * v.element.width + v.offset + v.element.width :=
    Nat.lt_of_not_le (mt (v.lt_lengthWithin_iff _ _).2 (Nat.not_lt.2 hle))
  rcases v.address_cases index with haddress | ⟨haddress, houtside⟩
  · simp only [View.get, View.set, haddress]
    exact ⟨rfl, fun _ => rfl⟩
  · constructor
    · rw [houtside, View.get, haddress]
      exact ends_bind (ends_read_of_lt hg hm hlt)
    · intro n
      have hlength := v.element.length_encode n
      rw [houtside, View.set, haddress, ← hlength]
      exact ends_write_of_lt hg hm (hlength ▸ hlt)

end AtRest

/-! ### At every moment -/

variable {w₀ w₁ w : World σ} {m : Module} {o : ImportObject σ} {i : Instance} {t : Moment σ α}

/-- What a host is told of an element of a view while the instance is running. -/
lemma Sound.ends_view_of_running (ht : t.Sound) (v : View)
    (hsize : v.memory.address.owner < t.world.slots.size)
    (hrun : v.memory.address.owner ∈ t.running) (index : Nat) :
    let e := if index * v.element.width + v.offset < View.addressLimit then .reentrant
      else v.outside index
    (t.turn (v.get index)).ends = (.done (.error e), t.guest, t.world) ∧
      ∀ n, (t.turn (v.set index n)).ends = (.done (.error e), t.guest, t.world) := by
  by_cases hlt : index * v.element.width + v.offset < View.addressLimit
  · simp only [if_pos hlt]
    exact ⟨ht.ends_of_running (u := .viewGet v index) hlt hsize hrun,
      fun n => ht.ends_of_running (u := .viewSet v index n) hlt hsize hrun⟩
  · simp only [if_neg hlt]
    rcases v.address_cases index with haddress | ⟨haddress, -⟩
    · simp only [View.get, View.set, haddress]
      exact ⟨rfl, fun _ => rfl⟩
    · exact absurd ((v.lt_addressLimit_iff index).2 ⟨_, haddress⟩) hlt

/-- **All that a view does finds the same end of the memory.** At every moment after the instance was
made, a view of an exported memory has some elements, as many as fit between its offset and the end of
the memory. While the instance is at rest, the host is told their number, whether there are none, and
all of them. It gets the element of any index that is less than their number, which is the one in the
list, and can change it. With any other index, however large, it is told that the bytes do not exist,
and nothing has changed. While the instance is running, the host is told so, unless no address belongs
to the index. -/
theorem views_agree_on_bounds (h₀ : w₀.Reached) (hi : w₀.instantiate m o = (.made i, w₁))
    (hw : World.Leads w₁ w) {name : String} {v : View} (hx : i.exports.memory name = .ok v.memory)
    (ht : t.Occurs w) :
    (i.number ∉ t.running → ∃ mem xs, t.memory? v.memory.address = some mem ∧
      xs.length = (mem.byteSize - v.offset) / v.element.width ∧
      (t.turn v.length).ends = (.done (.ok xs.length), t.guest, t.world) ∧
      (t.turn v.isEmpty).ends = (.done (.ok xs.isEmpty), t.guest, t.world) ∧
      (t.turn v.toList).ends = (.done (.ok xs), t.guest, t.world) ∧
      ∀ index,
        (∀ x, xs[index]? = some x →
          (t.turn (v.get index)).ends = (.done (.ok x), t.guest, t.world) ∧
          ∀ n, ∃ w', (t.turn (v.set index n)).ends = (.done (.ok ()), t.guest, w')) ∧
        (xs.length ≤ index →
          (t.turn (v.get index)).ends = (.done (.error (v.outside index)), t.guest, t.world) ∧
          ∀ n, (t.turn (v.set index n)).ends =
            (.done (.error (v.outside index)), t.guest, t.world))) ∧
    (i.number ∈ t.running →
      (t.turn v.length).ends = (.done (.error .reentrant), t.guest, t.world) ∧
      (t.turn v.isEmpty).ends = (.done (.error .reentrant), t.guest, t.world) ∧
      (t.turn v.toList).ends = (.done (.error .reentrant), t.guest, t.world) ∧
      ∀ index,
        let e := if index * v.element.width + v.offset < View.addressLimit then .reentrant
          else v.outside index
        (t.turn (v.get index)).ends = (.done (.error e), t.guest, t.world) ∧
        ∀ n, (t.turn (v.set index n)).ends = (.done (.error e), t.guest, t.world)) := by
  constructor
  · intro hrun
    obtain ⟨g, mem, hg, hmem, hseen, hwithin⟩ := ht.exists_memory h₀ hi hw hx hrun
    have hlimit := hwithin.byteSize_le
    refine ⟨mem, v.elements mem, hseen, v.length_elements mem, ends_length hg hmem,
      ends_isEmpty hg hmem, ends_toList hg hmem, fun index => ⟨fun x hx => ?_, fun hle => ?_⟩⟩
    · have hlt := (List.getElem?_eq_some_iff.1 hx).1
      rw [v.length_elements] at hlt
      exact ⟨ends_get hg hmem hlimit hx, fun n => ⟨_, ends_set hg hmem hlimit hlt n⟩⟩
    · rw [v.length_elements] at hle
      exact ends_outside hg hmem hle
  · intro hrun
    obtain ⟨-, -, -, -, hexports, -⟩ := World.outline_instantiate_made hi
    obtain ⟨hown, -⟩ := m.memory_eq_ok hexports hx
    have hsound := ht.sound ((h₀.made hi).leads hw).atRest
    have hsize := ht.lt_size (hw.lt_size (World.lt_size_of_made hi))
    rw [← hown] at hrun hsize
    exact ⟨hsound.ends_of_running (u := .viewLength v) trivial hsize hrun,
      hsound.ends_of_running (u := .viewIsEmpty v) trivial hsize hrun,
      hsound.ends_of_running (u := .viewToList v) trivial hsize hrun,
      hsound.ends_view_of_running v hsize hrun⟩

end Moment

/-- The last three bytes of two pages as integers of two bytes. -/
def View.lastBytes : View := ⟨⟨⟨0, 0⟩, ⟨1, some 5, false, false⟩⟩, .u16, 131069⟩

lemma View.outside_lastBytes :
    View.lastBytes.outside 1 = .outOfBounds 131071 2 ∧
      View.lastBytes.outside (2 ^ 63) = .outOfBounds 131069 2 := by
  simp [View.lastBytes, View.outside, View.addressLimit, ViewElement.width]

namespace Moment

/-- Three bytes hold one integer of two bytes. The byte behind it belongs to none, and an index whose
address would be too large is not the first one again. -/
theorem view_of_last_bytes :
    ∃ t : Moment Unit Unit, t.Occurs .threePages ∧
      (t.turn View.lastBytes.length).ends.1 = .done (.ok 1) ∧
      (t.turn (View.lastBytes.get 1)).ends.1 = .done (.error (.outOfBounds 131071 2)) ∧
      (t.turn (View.lastBytes.set (2 ^ 63) 7)).ends =
        (.done (.error (.outOfBounds 131069 2)), t.guest, t.world) := by
  have hx : Exports.memory ⟨[⟨"m", .memory ⟨⟨0, 0⟩, ⟨1, some 5, false, false⟩⟩⟩]⟩ "m" =
    .ok View.lastBytes.memory := rfl
  have ht := Occurs.perform (w := World.threePages) (.done ())
  obtain ⟨hrest, -⟩ :=
    views_agree_on_bounds ⟨(), _, .refl⟩ World.instantiate_threePages .refl hx ht
  obtain ⟨mem, xs, hmem, hsize, hlength, -, -, hindex⟩ := hrest (by simp)
  obtain rfl := Option.some.inj ((memory?_of_world World.memory?_threePages).symm.trans hmem)
  have hone : xs.length = 1 := by
    rw [hsize]
    simp [View.lastBytes, Memory.byteSize, Memory.size, Memory.ofType, pageSize, ViewElement.width]
  rw [hone] at hlength hindex
  obtain ⟨hget, -⟩ := (hindex 1).2 (Nat.le_refl 1)
  obtain ⟨-, hset⟩ := (hindex (2 ^ 63)).2 (by decide)
  rw [View.outside_lastBytes.1] at hget
  rw [View.outside_lastBytes.2] at hset
  exact ⟨_, ht, congrArg Prod.fst hlength, congrArg Prod.fst hget, hset 7⟩

end Moment

end Embedder
