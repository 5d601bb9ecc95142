import Embedder.Proofs.Memories.Lending

/-!
# Accesses from within a call and from outside

A function of the host finds the end of a range by a sum that it checks, and then it uses the bytes up to
there. From outside a range is handed to the engine, which looks whether the bytes exist. No memory is
so large that the two differ.

* `World.BoundExist`, `Moment.Occurs.exists_lends`: whoever is lent a memory is lent one that exists,
  with no more pages than 32 bits can address;
* `Memory.SameContent`, `Memory.Overwritten`: what of memories can be read, and what a write does to it;
* `Moment.SameAccess`: what each access from within and from outside does;
* `Moment.same_access_within_and_outside`: it is the same, at every moment, for every content.
-/

namespace Embedder

open Execution (Guest Machine)

variable {σ τ α β : Type}

/-! ### Whoever is lent a memory -/

namespace World

/-- The bound memories of all instances exist. -/
def BoundExist (w : World σ) : Prop :=
  ∀ n o k, w.outline[n]? = some o → o.boundMemory = some k →
    ∃ g, w.guest? n = some g ∧ g.HasMemory k

lemma BoundExist.of_outline {w v : World σ} (h : w.BoundExist) (ho : v.outline = w.outline)
    (hgrows : w.Grows v) : v.BoundExist := by
  intro n o k hn hk
  rw [ho] at hn
  obtain ⟨g, hg, hmem⟩ := h n o k hn hk
  obtain ⟨g', hg', hg''⟩ := hgrows n g hg
  exact ⟨g', hg', hmem.grows hg''⟩

/-- The bound memory of a new instance is one of those that were allocated for it. -/
lemma BoundExist.made {w w' : World σ} {m : Module} {o : ImportObject σ} {i : Instance}
    (h : w.BoundExist) (hi : w.instantiate m o = (.made i, w')) : w'.BoundExist := by
  have hgrows := instantiate_grows w m o
  rw [hi] at hgrows
  obtain ⟨ps, -, hnumber, -, -, houtline⟩ := outline_instantiate_made hi
  intro n o' k hn hk
  rw [houtline, Array.getElem?_push] at hn
  split at hn
  · -- the instance is the new one
    rename_i hlast
    obtain rfl := Option.some.inj hn
    obtain ⟨-, hspace⟩ := Option.filter_eq_some_iff.1 hk
    obtain ⟨t, ht, -⟩ := (Option.any_eq_true _ _).1 hspace
    obtain ⟨ps', g, hps, hg, hallocated⟩ := exists_allocated hi
    obtain ⟨mem, hmem, hwithin⟩ := Guest.allocate_within hps ht
    have hlast : i.number = n := by rw [hnumber, hlast, size_outline]
    have hfirst : (Guest.allocate m.definition (Provided.supplied ps')).HasMemory k :=
      ⟨mem, hmem, hwithin.size_le_limit⟩
    exact ⟨g, hlast ▸ hg, hfirst.grows hallocated⟩
  · obtain ⟨g, hg, hmem⟩ := h n o' k hn hk
    obtain ⟨g', hg', hg''⟩ := hgrows n g hg
    exact ⟨g', hg', hmem.grows hg''⟩

theorem Reached.boundExist {w : World σ} (h : w.Reached) : w.BoundExist := by
  obtain ⟨host, system, h⟩ := h
  induction h with
  | refl =>
    intro n o k hn
    simp [create, outline] at hn
  | @tail v _ _ he ih =>
    cases he with
    | perform _ a => exact ih.of_outline (outline_perform _ a) (perform_grows _ a)
    | system _ s => exact ih.of_outline rfl (.of_eq fun _ => rfl)
    | instantiate _ m o =>
      have hgrows := instantiate_grows v m o
      cases hi : v.instantiate m o with
      | mk r v' =>
        rw [hi] at hgrows
        cases r with
        | made i => exact ih.made hi
        | refused e => exact ih.of_outline (outline_instantiate (by simp) hi) hgrows
        | panicked => exact ih.of_outline (outline_instantiate (by simp) hi) hgrows

end World

namespace Moment

open World (callWithin hostCall outline_hostCall outline_callWithin)

variable {running : List Nat} {d owner k : Nat} {cells : List Cell} {g : Guest} {w : World σ}

/-- What a function of the host is lent is the bound memory of its caller. -/
lemma Begins.bound {u : Moment σ (List Value)} (hu : Begins running d owner k cells g w u) {j : Nat}
    (hj : u.memory = some j) :
    ∃ o, u.world.outline[owner]? = some o ∧ o.boundMemory = some j := by
  cases hu with
  | @intro s f values hs hf hv hm =>
    refine ⟨s.outline, ?_, ?_⟩
    · rw [World.outline_getElem?, hs, Option.map_some]
    · simp only at hj
      split at hj
      · exact hj
      · cases hj

lemma Begins.world_eq {u : Moment σ (List Value)} (hu : Begins running d owner k cells g w u) :
    u.world = w := by
  cases hu
  rfl

lemma Begins.running_eq {u : Moment σ (List Value)} (hu : Begins running d owner k cells g w u) :
    u.running = running := by
  cases hu
  rfl

/-- A memory that is lent is the bound memory of the instance that has called the action. -/
lemma Occurs.exists_lender {t : Moment σ α} (h : t.Occurs w) (hk : t.memory = some k) :
    ∃ n o, t.running.head? = some n ∧ t.world.outline[n]? = some o ∧ o.boundMemory = some k := by
  induction h with
  | perform a => cases hk
  | start hs hps hg hf hc ht =>
    obtain ⟨o, ho, hbound⟩ := ht.bound hk
    exact ⟨_, o, by rw [ht.running_eq, List.head?_cons], ho, hbound⟩
  | @step _ t t' _ hs ih =>
    have hmemory : t.memory = some k := by
      cases hs <;> exact hk
    have hbeside := hs.beside
    rw [hbeside.running, hbeside.outline]
    exact ih hmemory
  | enter _ he ih =>
    cases he with
    | call hs hg hc ht =>
      obtain ⟨o, ho, hbound⟩ := ht.bound hk
      exact ⟨_, o, by rw [ht.running_eq, List.head?_cons], ho, hbound⟩

/-- No memory is bound while the host does something. -/
lemma Occurs.bound_before {t : Moment σ α} (h : t.Occurs w) {n : Nat} {o : Outline σ}
    (ho : t.world.outline[n]? = some o) (hk : o.boundMemory = some k) :
    ∃ o', w.outline[n]? = some o' ∧ o'.boundMemory = some k := by
  induction h generalizing o with
  | perform a => exact ⟨o, ho, hk⟩
  | @start m _ ps c _ _ w' _ _ _ t hs hps hg hf hc ht =>
    have houtline : w'.outline = (w.addSlot m ps c).outline :=
      hc.keeps World.outline (outline_hostCall (outline_callWithin _) w.slots.size false)
    rw [ht.world_eq, houtline, World.outline_addSlot, Array.getElem?_push] at ho
    split at ho
    · obtain rfl := Option.some.inj ho
      cases hk
    · exact ⟨o, ho, hk⟩
  | step _ hs ih =>
    rw [hs.outline_eq] at ho
    exact ih ho hk
  | enter _ he ih =>
    cases he with
    | call hs hg hc ht =>
      rw [ht.world_eq, hc.outline_eq (outline_callWithin _), World.outline_setGuest,
        Array.getElem?_modify] at ho
      split at ho
      · obtain ⟨o', ho', rfl⟩ := Option.map_eq_some_iff.1 ho
        exact ih ho' hk
      · exact ih ho hk

/-- **Whoever is lent a memory is lent one that exists**, and no more pages than 32 bits can address. -/
theorem Occurs.exists_lends (hw : w.Reached) {t : Moment σ α} (h : t.Occurs w)
    (hk : t.memory = some k) :
    ∃ a mem, a.index = k ∧ t.Lends a mem ∧ t.guest.memories[k]? = some mem ∧
      mem.size ≤ maxPages := by
  obtain ⟨n, o, hhead, ho, hbound⟩ := h.exists_lender hk
  obtain ⟨o', ho', hbound'⟩ := h.bound_before ho hbound
  obtain ⟨g, hg, hmem⟩ := hw.boundExist n o' k ho' hbound'
  have hsize := World.lt_size_of_guest? _ _ hg
  -- the lender is running, so what it owns is not in the world but with the moment
  have haway : t.world.guest? n = none :=
    ((h.sound hw.atRest).running_iff n (h.lt_size hsize)).2 (List.mem_of_head? hhead)
  have hseen : t.guest? n = some t.guest := by
    rw [guest?, haway, if_pos hhead]
    rfl
  obtain ⟨g', hg', hgrows⟩ := h.grows hsize hseen
  cases hg.symm.trans hg'
  obtain ⟨mem, hmem, hle⟩ := hmem.grows hgrows
  have hborrows : t.Borrows ⟨n, k⟩ := ⟨hk, hhead, haway, mem, hmem, hle⟩
  obtain ⟨mem', hlends⟩ := hborrows.exists_lends
  have hsame : t.guest.memories[k]? = some mem' := (hborrows.memory?_eq t.guest).symm.trans hlends.seen
  cases hmem.symm.trans hsame
  exact ⟨⟨n, k⟩, mem, rfl, hlends, hmem, Nat.le_trans hle mem.limit_le_maxPages⟩

end Moment

/-! ### The content of a memory -/

namespace Memory

variable {m m' m₁ m₁' : Memory} {start length : Nat} {bytes : List UInt8}

/-- Memories of which the same can be read, whatever limits they have. -/
structure SameContent (m m' : Memory) : Prop where
  byteSize_eq : m'.byteSize = m.byteSize
  get_eq : ∀ a, m'.get a = m.get a

/-- The second memory is the first one with bytes in place of as many others. -/
structure Overwritten (start : Nat) (bytes : List UInt8) (m m' : Memory) : Prop where
  size_eq : m'.size = m.size
  maximum_eq : m'.maximum = m.maximum
  written : ∀ j b, bytes[j]? = some b → m'.get (start + j) = b
  rest : ∀ a, a < start ∨ start + bytes.length ≤ a → m'.get a = m.get a

lemma overwritten_write (h : start + bytes.length ≤ m.byteSize) :
    m.Overwritten start bytes (m.write start bytes) where
  size_eq := m.size_write start bytes
  maximum_eq := m.maximum_write start bytes
  written _ _ hb := get_write h hb
  rest _ ha := get_write_of_outside ha

lemma SameContent.slice_eq (h : m.SameContent m') (start length : Nat) :
    m'.slice start length = m.slice start length :=
  slice_congr fun j _ => h.get_eq (start + j)

/-- Where the content is the same before a write, it is after it. -/
lemma SameContent.overwritten (h : m.SameContent m') (hm : m.Overwritten start bytes m₁)
    (hm' : m'.Overwritten start bytes m₁') : m₁.SameContent m₁' := by
  refine ⟨?_, fun a => ?_⟩
  · have hbefore := h.byteSize_eq
    simp only [byteSize] at hbefore ⊢
    rw [hm.size_eq, hm'.size_eq, hbefore]
  · by_cases ha : a < start ∨ start + bytes.length ≤ a
    · rw [hm.rest a ha, hm'.rest a ha, h.get_eq]
    · obtain ⟨j, rfl⟩ := Nat.exists_eq_add_of_le (show start ≤ a by omega)
      have hj : j < bytes.length := by omega
      have hb := List.getElem?_eq_getElem hj
      rw [hm.written j _ hb, hm'.written j _ hb]

end Memory

/-- A change of a memory puts another one in its place. -/
lemma Execution.Machine.changeMemory_eq {g : Guest} {i : Nat} {mem : Memory}
    (hm : g.memories[i]? = some mem) (f : Memory → Memory) :
    changeMemory g i f = changeMemory g i fun _ => f mem := by
  refine congrArg (fun memories => { g with memories }) (Elementwise.modify_congr fun x hx => ?_)
  rw [Option.some.inj (hx.symm.trans hm)]

/-! ### Accesses -/

namespace Moment

variable {u : Moment σ α} {a : Address} {k start length : Nat} {mem : Memory}

section Within

variable (h : u.Lends a mem)
include h

lemma Lends.ends_read (hin : start + length ≤ mem.byteSize) :
    (u.turn (CallerMemory.read start length)).ends =
      (.done (.ok (mem.slice start length)), u.guest, u.world) := by
  rw [h.read, Memory.answer, Memory.inBounds, if_pos (decide_eq_true hin)]

lemma Lends.ends_read_of_lt (hlt : mem.byteSize < start + length) :
    (u.turn (CallerMemory.read start length)).ends =
      (.done (.error (.outOfBounds start length)), u.guest, u.world) := by
  have hout : ¬ start + length ≤ mem.byteSize := Nat.not_le.2 hlt
  rw [h.read, Memory.answer, Memory.inBounds, decide_eq_false hout, if_neg Bool.false_ne_true]

lemma Lends.ends_edit (hin : start + length ≤ mem.byteSize) (change : List UInt8 → List UInt8) :
    (u.turn (CallerMemory.edit start length change)).ends =
      (u.turn (CallerMemory.write start (change (mem.slice start length)))).ends := by
  have hslice : (u.turn (CallerMemory.slice start length)).ends = _ := h.ends_read hin
  rw [CallerMemory.edit, ends_bind hslice]

lemma Lends.ends_edit_of_lt (hlt : mem.byteSize < start + length)
    (change : List UInt8 → List UInt8) :
    (u.turn (CallerMemory.edit start length change)).ends =
      (.done (.error (.outOfBounds start length)), u.guest, u.world) := by
  have hslice : (u.turn (CallerMemory.slice start length)).ends = _ := h.ends_read_of_lt hlt
  rw [CallerMemory.edit, ends_bind hslice]
  rfl

end Within

/-- The accesses to a memory `mem` that a function of the host is lent as the memory `k`, and those of
the host to a memory `mem'` that it sees through a handle. -/
structure SameAccess (u : Moment σ α) (k : Nat) (mem : Memory) (t : Moment τ β)
    (h : Handle MemoryType) (g : Guest) (mem' : Memory) : Prop where
  /-- The same bytes are read if all of them exist. Nothing has changed. -/
  read : ∀ start length, start + length ≤ mem.byteSize →
    (u.turn (CallerMemory.read start length)).ends =
      (.done (.ok (mem.slice start length)), u.guest, u.world) ∧
    (u.turn (CallerMemory.slice start length)).ends =
      (.done (.ok (mem.slice start length)), u.guest, u.world) ∧
    (t.turn (h.read start length)).ends =
      (.done (.ok (mem.slice start length)), t.guest, t.world)
  /-- The same bytes are written, and they are the same memories afterwards but for these bytes.
  Nothing else has changed. -/
  write : ∀ start bytes, start + bytes.length ≤ mem.byteSize → ∃ m m',
    mem.Overwritten start bytes m ∧ mem'.Overwritten start bytes m' ∧ m.SameContent m' ∧
    (u.turn (CallerMemory.write start bytes)).ends =
      (.done (.ok ()), Machine.changeMemory u.guest k fun _ => m, u.world) ∧
    (t.turn (h.write start bytes)).ends = (.done (.ok ()), t.guest,
      t.world.setGuest h.address.owner
        (some (Machine.changeMemory g h.address.index fun _ => m')))
  /-- Bytes that are changed in place are those that are read, and they are written where they were. -/
  edit : ∀ start length change, start + length ≤ mem.byteSize →
    (u.turn (CallerMemory.edit start length change)).ends =
      (u.turn (CallerMemory.write start (change (mem.slice start length)))).ends
  /-- All accesses are refused if some of the bytes do not exist. Nothing has changed. -/
  refused : ∀ start length, mem.byteSize < start + length →
    (u.turn (CallerMemory.read start length)).ends =
      (.done (.error (.outOfBounds start length)), u.guest, u.world) ∧
    (u.turn (CallerMemory.slice start length)).ends =
      (.done (.error (.outOfBounds start length)), u.guest, u.world) ∧
    (∀ change, (u.turn (CallerMemory.edit start length change)).ends =
      (.done (.error (.outOfBounds start length)), u.guest, u.world)) ∧
    (t.turn (h.read start length)).ends =
      (.done (.error (.outOfBounds start length)), t.guest, t.world) ∧
    ∀ bytes, bytes.length = length →
      (u.turn (CallerMemory.write start bytes)).ends =
        (.done (.error (.outOfBounds start length)), u.guest, u.world) ∧
      (t.turn (h.write start bytes)).ends =
        (.done (.error (.outOfBounds start length)), t.guest, t.world)

/-- **The host accesses a memory in the same way from within a call and from outside.** At every moment
at which a function of the host is lent a memory, and at every moment at which the host sees a memory with
the same content through a handle, an access to the same range does the same. It succeeds if and only if
the sum of offset and length, without wrapping around, is no more than the size in bytes. -/
theorem same_access_within_and_outside {w : World σ} (hw : w.Reached) (hu : u.Occurs w)
    (hk : u.memory = some k) :
    ∃ a mem, a.index = k ∧ u.Lends a mem ∧ u.guest.memories[k]? = some mem ∧
      ∀ {τ β : Type} (t : Moment τ β) (h : Handle MemoryType) (g : Guest) (mem' : Memory),
        t.world.guest? h.address.owner = some g → g.memories[h.address.index]? = some mem' →
        mem.SameContent mem' → u.SameAccess k mem t h g mem' := by
  obtain ⟨a, mem, ha, hlends, hmem, hpages⟩ := hu.exists_lends hw hk
  refine ⟨a, mem, ha, hlends, hmem, fun t h g mem' hg hmem' hsame => ?_⟩
  have hsize : mem.byteSize < 2 ^ 64 :=
    Nat.lt_of_le_of_lt (Nat.mul_le_mul_right pageSize hpages) (by decide)
  have hbytes := hsame.byteSize_eq
  refine ⟨fun start length hin => ?_, fun start bytes hin => ?_, fun start length change hin => ?_,
    fun start length hlt => ?_⟩
  · have hin' : start + length ≤ mem'.byteSize := by rwa [hbytes]
    have hread := hlends.ends_read hin
    have houtside := ends_read (t := t) hg hmem' hin'
    rw [hsame.slice_eq] at houtside
    exact ⟨hread, hread, houtside⟩
  · have hin' : start + bytes.length ≤ mem'.byteSize := by rwa [hbytes]
    have hwritten := Memory.overwritten_write hin
    have hwritten' := Memory.overwritten_write hin'
    refine ⟨_, _, hwritten, hwritten', hsame.overwritten hwritten hwritten', ?_, ?_⟩
    · rw [ends_callerWrite hk hmem hsize hin, Machine.changeMemory_eq hmem]
    · rw [ends_write hg hmem' hin', Machine.changeMemory_eq hmem']
  · exact hlends.ends_edit hin change
  · have hlt' : mem'.byteSize < start + length := by rwa [hbytes]
    have hread := hlends.ends_read_of_lt hlt
    refine ⟨hread, hread, hlends.ends_edit_of_lt hlt, ends_read_of_lt hg hmem' hlt', ?_⟩
    rintro bytes rfl
    exact ⟨hlends.refuse start bytes hlt, ends_write_of_lt hg hmem' hlt'⟩

/-- At the end of its memory no byte can be read from within a call, and from outside. Behind the end
that is refused. -/
theorem mark_at_the_end :
    ∃ u : Moment Unit (List Value), u.Occurs .lender ∧
      (u.turn (CallerMemory.slice 65536 0)).ends.1 = .done (.ok []) ∧
      (beforeMark.turn (World.marked.read 65536 0)).ends.1 = .done (.ok []) ∧
      (u.turn (CallerMemory.slice 65537 0)).ends.1 = .done (.error (.outOfBounds 65537 0)) ∧
      (beforeMark.turn (World.marked.read 65537 0)).ends.1 =
        .done (.error (.outOfBounds 65537 0)) := by
  have hreached : World.lender.Reached := by
    have hbare : World.Reached (World.bare : World Unit) := ⟨(), _, .refl⟩
    exact hbare.made World.instantiate_lender
  have hbegins : Begins [0] 0 0 0 [] World.unmarked (World.lender.setGuest 0 none)
      ⟨[0], 0, some 0, HostFunction.marker.body [], World.unmarked, World.lender.setGuest 0 none⟩ :=
    begins_of_bound [0] rfl rfl rfl rfl rfl
  have hoccurs : Occurs World.lender _ :=
    .enter (.perform (World.mark.call [])) (reachesHost_mark.enters hbegins)
  obtain ⟨a, mem, -, -, hmem, hall⟩ := same_access_within_and_outside hreached hoccurs rfl
  obtain rfl : Memory.ofType ⟨1, none, false, false⟩ = mem := Option.some.inj hmem
  have hsame := hall beforeMark World.marked World.unmarked _ rfl rfl ⟨rfl, fun _ => rfl⟩
  have hsize : (Memory.ofType ⟨1, none, false, false⟩).byteSize = 65536 := by
    simp [Memory.byteSize, Memory.size, Memory.ofType, pageSize]
  obtain ⟨-, hslice, hread⟩ := hsame.read 65536 0 (by omega)
  obtain ⟨-, hslice', -, hread', -⟩ := hsame.refused 65537 0 (by omega)
  exact ⟨_, hoccurs, congrArg Prod.fst hslice, congrArg Prod.fst hread, congrArg Prod.fst hslice',
    congrArg Prod.fst hread'⟩

end Moment

end Embedder
