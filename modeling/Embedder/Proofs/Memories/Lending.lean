import Embedder.Proofs.Calls.Start
import Embedder.Proofs.Memories.Writes
import Embedder.Proofs.Modules.Compiling

/-!
# The memory that an instance lends

A function of the host can ask for the memory of the instance that calls it. The instance lends the
memory that it exports under the name `memory`. That memory is bound when the instance has been made,
so there is none for the functions that its start function calls. Code gets as far as its first vector
or atomic instruction here, and a call to the host behind that is not seen.

* `Module.boundMemory_eq_some_iff`: which memory is bound;
* `World.StartReaches`, `Moment.refused_of_startReaches`: a start function comes to a function that uses
  the memory, and the instantiation fails;
* `CallerMemory.rangeEnd?_eq`: the sum that is checked is the sum of the numbers;
* `Moment.Lends`, `Moment.LentThroughout`: what a function is lent, and for how long;
* `Moment.ReachesHost`, `Moment.GoesOn`: a call comes to a function of the host, and goes on after it;
* `Moment.ReachesHost.exists_begins`, `Moment.ReachesHost.exists_shows`,
  `Moment.ReachesHost.unbound`: the function begins with the memory, what it leaves there is seen, and
  without a memory it does not run;
* `Moment.memory_lent_once_made`: all of this, for every module and import object.
-/

namespace Embedder

open Execution (Program Guest Machine Stop Outcome)

variable {σ α : Type}

/-! ### Which memory is bound -/

namespace Module

variable {m : Module} {number : Nat} {es : Exports}

/-- A memory that the host can hold is not shared. -/
lemma not_shared_of_exportsOf (h : m.exportsOf number = .ok es) {e : ExportEntry}
    (he : e ∈ m.definition.exports) {t : MemoryType}
    (ht : m.definition.entityType? e.space e.index = some (.memory t)) : t.shared = false := by
  obtain ⟨x, hx, hex⟩ := Elementwise.exists_mem_of_forall₂
    (Elementwise.mapM_eq_some_iff.1 m.exports_eq) he
  rw [Definition.exportType?, ht] at hex
  cases hex
  unfold exportsOf at h
  split at h
  · cases h
  · rename_i hnone
    have hhidden := List.find?_eq_none.1 hnone _ hx
    simpa [isHidden] using hhidden

/-- **The memory that is bound is the export of that name**, if it is a memory. -/
theorem boundMemory_eq_some_iff (h : m.exportsOf number = .ok es) (k : Nat) :
    m.boundMemory = some k ↔ ∃ x, es.memory "memory" = .ok x ∧ x.address = ⟨number, k⟩ := by
  constructor
  · intro hbound
    obtain ⟨hexported, -⟩ := Option.filter_eq_some_iff.1 hbound
    obtain ⟨e, hfind, rfl⟩ := Option.map_eq_some_iff.1 hexported
    have hmatches := List.find?_some hfind
    simp only [Bool.and_eq_true, beq_iff_eq] at hmatches
    obtain ⟨hname, hspace⟩ := hmatches
    obtain ⟨t, ht, hget⟩ := m.get_exportsOf h (List.mem_of_find?_eq_some hfind)
    obtain ⟨type, htype, rfl⟩ := Option.map_eq_some_iff.1 ht
    rw [hspace] at htype
    obtain ⟨type, -, rfl⟩ := Option.map_eq_some_iff.1 htype
    rw [hname] at hget
    refine ⟨⟨⟨number, e.index⟩, type⟩, ?_, rfl⟩
    rw [Exports.memory, hget]
    rfl
  · rintro ⟨x, hx, haddress⟩
    have haccess : es.access "memory" .memory = .ok (.memory x) := congrArg (Functor.map Entity.memory) hx
    obtain ⟨e, he, hname, type, htype, hentity⟩ := m.access_eq_ok h haccess
    cases type <;> cases hentity
    have hshared := m.not_shared_of_exportsOf h he htype
    obtain ⟨hspace, hmemory⟩ := Definition.entityType?_eq_some_iff.1 htype
    have hfind : (m.definition.exports.find? fun e => e.name == "memory" && e.space == .memory) =
        some e := by
      cases hfound : m.definition.exports.find? fun e => e.name == "memory" && e.space == .memory with
      | none =>
        have hno := List.find?_eq_none.1 hfound e he
        simp [hname, hspace] at hno
      | some e' =>
        have hmatches := List.find?_some hfound
        simp only [Bool.and_eq_true, beq_iff_eq] at hmatches
        have hfirst := Elementwise.find?_eq_some_of_nodup m.exportNames_nodup he
        have hsecond := Elementwise.find?_eq_some_of_nodup m.exportNames_nodup
          (List.mem_of_find?_eq_some hfound)
        rw [hmatches.1, ← hname] at hsecond
        exact hsecond.symm.trans hfirst
    have hexported : m.exportedMemory = some e.index := by
      rw [exportedMemory, hfind, Option.map_some]
    cases haddress
    rw [boundMemory, hexported]
    simp [hmemory, hshared]

end Module

namespace World

/-- The memory that an instance exports under the name is bound. -/
lemma boundMemory_of_made {w w' : World σ} {m : Module} {o : ImportObject σ} {i : Instance}
    (hi : w.instantiate m o = (.made i, w')) {x : Handle MemoryType}
    (hx : i.exports.memory "memory" = .ok x) :
    x.address.owner = i.number ∧ m.boundMemory = some x.address.index ∧
      m.exportedMemory = some x.address.index := by
  obtain ⟨-, -, -, -, hexports, -⟩ := outline_instantiate_made hi
  obtain ⟨howner, -⟩ := m.memory_eq_ok hexports hx
  have hbound := (m.boundMemory_eq_some_iff hexports x.address.index).2 ⟨x, hx, by rw [← howner]⟩
  exact ⟨howner, hbound, (Option.filter_eq_some_iff.1 hbound).1⟩

lemma boundMemory_of_made_of_none {w w' : World σ} {m : Module} {o : ImportObject σ} {i : Instance}
    (hi : w.instantiate m o = (.made i, w')) (hx : ∀ x, i.exports.memory "memory" ≠ .ok x) :
    m.boundMemory = none := by
  obtain ⟨-, -, -, -, hexports, -⟩ := outline_instantiate_made hi
  refine Option.eq_none_iff_forall_ne_some.2 fun j hj => ?_
  obtain ⟨x, hfound, -⟩ := (m.boundMemory_eq_some_iff hexports j).1 hj
  exact hx x hfound

end World

/-! ### Before the memory is bound -/

namespace World

variable {w : World σ} {s : Slot σ} {f : HostFunction σ} {owner k : Nat}

/-- What a function that uses the memory fails with while there is none. -/
def unboundMessage : String := "host function called before the instance memory was bound"

/-- A function that uses the memory does not run while there is none. References are noticed before. -/
lemma hostCall_of_unbound (calls : Calls σ) (cells : List Cell) (g : Guest)
    (hs : w.slots[owner]? = some s) (hk : s.imported[k]? = some (.host f)) (hm : f.usesMemory = true)
    (hb : s.boundMemory = none) (direct : Bool) :
    ∃ message, hostCall calls owner direct k cells g w = ⟨.error (.failed message), g, w⟩ ∧
      ∀ values : List Value, cells = values.map Cell.ofValue → message = unboundMessage := by
  have hcall : hostCall calls owner direct k cells g w = callHost calls none f cells g w := by
    simp [hostCall, hs, hk, hb]
  rw [hcall, callHost]
  cases hv : cells.mapM Cell.toValue? with
  | none =>
    refine ⟨_, rfl, fun values hvalues => ?_⟩
    rw [Cell.mapM_toValue?_eq_some_iff.2 hvalues] at hv
    cases hv
  | some values =>
    simp only [hm, Option.isNone_none, Bool.and_self, if_true]
    exact ⟨_, rfl, fun _ _ => rfl⟩

/-- Code gives the host values alone if the function that it calls takes no references. -/
lemma CodeTyped.exists_values {contexts : Nat → Validation.Context} {d : Nat} {p : Program} {m : Machine}
    {g g' : Guest} {w' : World σ} {cells : List Cell} (h : CodeTyped contexts owner p m g w)
    (hc : Execution.CallsHost p (hostCall (callWithin d) owner false) k cells g' w' m g w)
    (hs : w'.slots[owner]? = some s) (hk : s.imported[k]? = some (.host f))
    (href : ∀ u ∈ f.type.params, u.isReference = false) :
    ∃ values : List Value, cells = values.map Cell.ofValue := by
  obtain ⟨type, htype, hcells, hw'⟩ := h.callsHost hc
  have hslot := hw'.outline owner s.outline (by rw [World.outline_getElem?, hs]; rfl)
  cases htype.symm.trans (hslot.imported k _ hk)
  exact Cell.exists_values (by rwa [hcells])

/-- The start function of a new instance comes to a function `x` of the host, after a number of
steps. -/
inductive StartReaches (w : World σ) (m : Module) (o : ImportObject σ) (x : HostFunction σ)
    (steps k : Nat) (cells : List Cell) (g : Guest) (v : World σ) : Prop
  | intro {c : Wasi.Context} {ps : List (Provided σ)} {g₀ : Guest} {f : Nat}
      (hp : w.Prepares m o c ps g₀) (hf : m.definition.start = some f)
      (hk : (Provided.functions ps)[k]? = some (.host x))
      (hr : Execution.CallsHostAfter m.program
        (hostCall (callWithin (w.addSlot m ps c).resting) w.slots.size false) k cells g v steps
        (m.program.entry f []) g₀ (w.addSlot m ps c))

end World

namespace Moment

open World (callWithin hostCall outline_hostCall outline_callWithin)

variable {running : List Nat} {d owner k : Nat} {cells : List Cell} {g : Guest} {w : World σ}
  {s : Slot σ} {f : HostFunction σ}

lemma not_begins_of_unbound (hs : w.slots[owner]? = some s) (hk : s.imported[k]? = some (.host f))
    (hm : f.usesMemory = true) (hb : s.boundMemory = none) (u : Moment σ (List Value)) :
    ¬ Begins running d owner k cells g w u := by
  rintro ⟨hs', hk', -, hbound⟩
  cases hs.symm.trans hs'
  cases hk.symm.trans hk'
  rw [hm, hb] at hbound
  cases hbound

/-- **No function of the host that uses the memory runs while the start function does.** -/
theorem refused_of_startReaches {m : Module} {o : ImportObject σ} {v : World σ} {steps : Nat}
    (h₀ : w.Reached) (hr : w.StartReaches m o f steps k cells g v) (hm : f.usesMemory = true) :
    (∀ running d u, ¬ Begins running d w.slots.size k cells g v u) ∧ ∃ message,
      ((∀ u ∈ f.type.params, u.isReference = false) → message = World.unboundMessage) ∧
      (steps < m.engine.patience → w.instantiate m o = (.refused (.trap message), v.dropSlot)) ∧
      (m.engine.patience ≤ steps → (w.instantiate m o).1 = .refused (.trap "out of fuel")) := by
  cases hr with
  | @intro c ps g₀ start hp hf hk hr =>
    have houtline : v.outline = (w.addSlot m ps c).outline :=
      hr.callsHost.keeps World.outline (outline_hostCall (outline_callWithin _) w.slots.size false)
    obtain ⟨s, hs, hsame⟩ := World.exists_slot houtline (World.slots_addSlot w m ps c)
    have himported : s.imported = (Provided.functions ps).toArray := congrArg Outline.imported hsame
    have hunbound : s.boundMemory = none := congrArg Outline.boundMemory hsame
    have hk : s.imported[k]? = some (.host f) := by rw [himported, List.getElem?_toArray, hk]
    obtain ⟨message, hcall, hmessage⟩ := World.hostCall_of_unbound
      (callWithin (w.addSlot m ps c).resting) cells g hs hk hm hunbound false
    obtain ⟨hrun, hfuel⟩ := hr.run_eq hcall m.program.steps
    have hstart := World.instantiate_of_start hp hf
    rw [World.startRun, Execution.invoke_eq_run] at hstart
    refine ⟨fun running d u => not_begins_of_unbound hs hk hm hunbound u, message, fun href => ?_,
      fun hlt => ?_, fun hle => ?_⟩
    · obtain ⟨contexts, hw⟩ := h₀.exists_typed
      obtain ⟨contexts', hcode⟩ := hw.start c hp.imports hp.segments hf
      obtain ⟨values, hvalues⟩ := hcode.exists_values hr.callsHost hs hk href
      exact hmessage values hvalues
    · rw [hstart, hrun hlt]
      rfl
    · rw [hstart, hfuel hle]
      rfl

/-- With a memory such a function begins. -/
lemma begins_of_bound (running : List Nat) (hs : w.slots[owner]? = some s)
    (hk : s.imported[k]? = some (.host f)) (hm : f.usesMemory = true) {j : Nat}
    (hb : s.boundMemory = some j) {values : List Value} (hv : cells = values.map Cell.ofValue) :
    Begins running d owner k cells g w ⟨running, d, some j, f.body values, g, w⟩ := by
  have hbegins : Begins running d owner k cells g w
      ⟨running, d, if f.usesMemory then s.boundMemory else none, f.body values, g, w⟩ :=
    .intro hs hk (Cell.mapM_toValue?_eq_some_iff.2 hv) (by rw [hm, hb]; rfl)
  rwa [hm, if_pos rfl, hb] at hbegins

end Moment

/-! ### The end of a range -/

namespace CallerMemory

lemma checkedAdd_eq_some_iff {a b c : Nat} : checkedAdd a b = some c ↔ a + b < 2 ^ 64 ∧ a + b = c := by
  unfold checkedAdd
  split
  · rename_i h
    rw [Option.some.injEq]
    exact (and_iff_right h).symm
  · rename_i h
    exact iff_of_false (Option.some_ne_none c).symm fun h' => h h'.1

/-- The range ends where it should, if the memory does not end before. -/
lemma rangeEnd?_eq {size : Nat} (hsize : size < 2 ^ 64) (start length : Nat) :
    rangeEnd? size start length = if start + length ≤ size then some (start + length) else none := by
  split
  · rename_i h
    have hsum : checkedAdd start length = some (start + length) :=
      checkedAdd_eq_some_iff.2 ⟨Nat.lt_of_le_of_lt h hsize, rfl⟩
    rw [rangeEnd?, hsum, Option.filter_some, if_pos (decide_eq_true h)]
  · rename_i h
    rw [rangeEnd?, Option.filter_eq_none_iff]
    intro stop hstop
    obtain ⟨-, rfl⟩ := checkedAdd_eq_some_iff.1 hstop
    simpa using h

end CallerMemory

/-! ### What is lent -/

/-- What reading a memory answers. -/
def Memory.answer (m : Memory) (start length : Nat) : Except MemoryError (List UInt8) :=
  if m.inBounds start length then .ok (m.slice start length) else .error (.outOfBounds start length)

/-- What the next step of an action leaves of the memory that the action is lent. -/
def Action.leaves (m : Memory) : Action σ α → Memory
  | .memory (.write start bytes) _ => if m.inBounds start bytes.length then m.write start bytes else m
  | _ => m

namespace Moment

open World (callWithin hostCall outline_callWithin)

variable {t t' : Moment σ α} {a : Address} {mem : Memory}

/-- The action is lent the memory at an address: it is told the size of this memory, it reads the bytes
of this memory, and it writes to it. -/
structure Lends (t : Moment σ α) (a : Address) (mem : Memory) : Prop where
  seen : t.memory? a = some mem
  size : (t.turn CallerMemory.size).ends = (.done mem.byteSize, t.guest, t.world)
  read : ∀ start length, (t.turn (CallerMemory.read start length)).ends =
    (.done (mem.answer start length), t.guest, t.world)
  write : ∀ start bytes, start + bytes.length ≤ mem.byteSize → ∃ g,
    (t.turn (CallerMemory.write start bytes)).ends = (.done (.ok ()), g, t.world) ∧
      ({ t with guest := g } : Moment σ α).memory? a = some (mem.write start bytes)
  refuse : ∀ start bytes, mem.byteSize < start + bytes.length →
    (t.turn (CallerMemory.write start bytes)).ends =
      (.done (.error (.outOfBounds start bytes.length)), t.guest, t.world)

/-- The action has been called by an instance, which lends it the memory at an address. -/
structure Borrows (t : Moment σ α) (a : Address) : Prop where
  memory_eq : t.memory = some a.index
  head_eq : t.running.head? = some a.owner
  away : t.world.guest? a.owner = none
  hasMemory : t.guest.HasMemory a.index

lemma Borrows.memory?_eq (h : t.Borrows a) (g : Guest) :
    ({ t with guest := g } : Moment σ α).memory? a = g.memories[a.index]? := by
  rw [memory?, guest?, h.away, Option.none_or, if_pos h.head_eq, Option.bind_some]

section Requests

variable {k start : Nat} (hk : t.memory = some k) (hm : t.guest.memories[k]? = some mem)
include hk hm

lemma ends_callerSize :
    (t.turn CallerMemory.size).ends = (.done mem.byteSize, t.guest, t.world) := by
  simp only [ends, turn, CallerMemory.size, World.run, World.request, hk, hm, Option.elim_some]

lemma ends_range (hsize : mem.byteSize < 2 ^ 64) (start length : Nat) :
    (t.turn (CallerMemory.range start length)).ends =
      (.done (if start + length ≤ mem.byteSize then .ok (start + length)
        else .error (.outOfBounds start length)), t.guest, t.world) := by
  rw [CallerMemory.range, ends_bind (ends_callerSize hk hm), CallerMemory.rangeEnd?_eq hsize]
  by_cases hin : start + length ≤ mem.byteSize
  · simp only [if_pos hin]
    rfl
  · simp only [if_neg hin]
    rfl

lemma ends_fetch {stop : Nat} (hle : start ≤ stop) (hin : stop ≤ mem.byteSize) :
    (t.turn (CallerMemory.fetch start stop)).ends =
      (.done (mem.slice start (stop - start)), t.guest, t.world) := by
  have hinside : mem.inBounds start (stop - start) = true := decide_eq_true (by omega)
  have hread : (Operation.memoryRead k start (stop - start)).perform t.guest =
      (some (mem.slice start (stop - start)), t.guest) := by
    simp [Operation.perform, hm, Memory.read?, hinside]
  simp only [ends, turn, CallerMemory.fetch, World.run, World.request, hk, hread]

lemma ends_store {bytes : List UInt8} (hin : start + bytes.length ≤ mem.byteSize) :
    (t.turn (CallerMemory.store start bytes)).ends =
      (.done (), Machine.changeMemory t.guest k fun m => m.write start bytes, t.world) := by
  have hinside : Machine.inMemory t.guest k start bytes.length = true := by
    rw [Machine.inMemory, hm, Option.any_some]
    exact decide_eq_true hin
  simp only [ends, turn, CallerMemory.store, World.run, World.request, hk, Operation.perform,
    hinside, if_true]

/-- A slice is what is there, and all of it has to be. -/
lemma ends_slice (hsize : mem.byteSize < 2 ^ 64) (start length : Nat) :
    (t.turn (CallerMemory.slice start length)).ends =
      (.done (mem.answer start length), t.guest, t.world) := by
  rw [CallerMemory.slice, ends_bind (ends_range hk hm hsize start length), Memory.answer,
    Memory.inBounds]
  by_cases hin : start + length ≤ mem.byteSize
  · rw [if_pos hin, decide_eq_true hin, if_pos rfl]
    refine (ends_bind (ends_fetch hk hm (Nat.le_add_right ..) hin)).trans ?_
    rw [Nat.add_sub_cancel_left]
    rfl
  · rw [if_neg hin, decide_eq_false hin, if_neg Bool.false_ne_true]
    rfl

lemma ends_callerWrite (hsize : mem.byteSize < 2 ^ 64) {bytes : List UInt8}
    (hin : start + bytes.length ≤ mem.byteSize) :
    (t.turn (CallerMemory.write start bytes)).ends =
      (.done (.ok ()), Machine.changeMemory t.guest k fun m => m.write start bytes, t.world) := by
  rw [CallerMemory.write, ends_bind (ends_range hk hm hsize start bytes.length), if_pos hin]
  exact ends_bind (ends_store hk hm hin)

lemma ends_callerWrite_of_lt (hsize : mem.byteSize < 2 ^ 64) {bytes : List UInt8}
    (hlt : mem.byteSize < start + bytes.length) :
    (t.turn (CallerMemory.write start bytes)).ends =
      (.done (.error (.outOfBounds start bytes.length)), t.guest, t.world) := by
  rw [CallerMemory.write, ends_bind (ends_range hk hm hsize start bytes.length),
    if_neg (Nat.not_le.2 hlt)]
  rfl

end Requests

/-- An action that borrows a memory is lent it. -/
theorem Borrows.exists_lends (h : t.Borrows a) : ∃ mem, t.Lends a mem := by
  obtain ⟨mem, hmem, hle⟩ := h.hasMemory
  have hsize := Memory.byteSize_lt hle
  refine ⟨mem, (h.memory?_eq t.guest).trans hmem, ends_callerSize h.memory_eq hmem,
    ends_slice h.memory_eq hmem hsize, fun start bytes hin => ?_,
    fun start bytes hlt => ends_callerWrite_of_lt h.memory_eq hmem hsize hlt⟩
  refine ⟨_, ends_callerWrite h.memory_eq hmem hsize hin, ?_⟩
  rw [h.memory?_eq]
  simp only [Machine.changeMemory, Array.getElem?_modify, if_true, hmem, Option.map_some]

/-- A step leaves the memory to the action. -/
lemma Borrows.step (h : t.Borrows a) (hs : t.Step t') : t'.Borrows a := by
  have hbeside := hs.beside
  refine ⟨?_, ?_, ?_, h.hasMemory.grows hbeside.guest⟩
  · cases hs <;> exact h.memory_eq
  · rw [hbeside.running]
    exact h.head_eq
  · rw [← Option.isNone_iff_eq_none, ← Option.not_isSome,
      World.isSome_guest?_congr _ a.owner hbeside.outline, h.away]
    rfl

/-- A step changes the memory by what it writes, and not else. -/
lemma Borrows.memory?_step (h : t.Borrows a) (hs : t.Step t') (hm : t.memory? a = some mem) :
    t'.memory? a = some (t.action.leaves mem) := by
  have hmem : t.guest.memories[a.index]? = some mem := (h.memory?_eq t.guest).symm.trans hm
  refine ((h.step hs).memory?_eq t'.guest).trans ?_
  cases hs with
  | memory r next =>
    obtain rfl : _ = some a.index := h.memory_eq
    cases r with
    | write start bytes =>
      by_cases hin : start + bytes.length ≤ mem.byteSize <;>
        simp [World.request, Operation.perform, Machine.inMemory, Machine.changeMemory,
          Array.getElem?_modify, Action.leaves, Memory.inBounds, hmem, hin]
    | _ => exact hmem
  | _ => exact hmem

/-- For as long as the action goes on it is lent the memory at an address, and nothing but what it
writes changes this memory. -/
def LentThroughout (t : Moment σ α) (a : Address) : Prop :=
  ∀ t', Relation.ReflTransGen Step t t' → ∃ mem, t'.Lends a mem ∧
    ∀ t'', t'.Step t'' → t''.memory? a = some (t'.action.leaves mem)

lemma Borrows.steps (h : t.Borrows a) (hs : Relation.ReflTransGen Step t t') : t'.Borrows a := by
  induction hs with
  | refl => exact h
  | tail _ hs ih => exact ih.step hs

theorem Borrows.lentThroughout (h : t.Borrows a) : t.LentThroughout a := by
  intro t' hsteps
  obtain ⟨mem, hmem⟩ := (h.steps hsteps).exists_lends
  exact ⟨mem, hmem, fun t'' hs => (h.steps hsteps).memory?_step hs hmem.seen⟩

/-- An action comes to a last moment, and leaves its caller as it is then. -/
lemma exists_last (t : Moment σ α) : ∃ last, Relation.ReflTransGen Step t last ∧
    (∀ t', ¬ last.Step t') ∧ last.guest = t.finish.guest := by
  obtain ⟨running, d, memory, a, g, w⟩ := t
  -- A step does not change the end, so what the rest comes to is what the action comes to.
  have hstep : ∀ {t t' : Moment σ α}, t.Step t' → (∃ last, Relation.ReflTransGen Step t' last ∧
      (∀ u, ¬ last.Step u) ∧ last.guest = t'.finish.guest) →
      ∃ last, Relation.ReflTransGen Step t last ∧ (∀ u, ¬ last.Step u) ∧
        last.guest = t.finish.guest := by
    rintro t t' hs ⟨last, hsteps, hlast, hguest⟩
    refine ⟨last, .head hs hsteps, hlast, hguest.trans ?_⟩
    rw [finish, finish, hs.ends_eq]
  induction a generalizing g w with
  | done a => exact ⟨_, .refl, (fun t' hs => by cases hs), rfl⟩
  | fail message => exact ⟨_, .refl, (fun t' hs => by cases hs), rfl⟩
  | panic => exact ⟨_, .refl, (fun t' hs => by cases hs), rfl⟩
  | update change next ih => exact hstep (.update change next) (ih _ g _)
  | memory r next ih => exact hstep (.memory r next) (ih _ _ w)
  | operate owner o next ih => exact hstep (.operate owner o next) (ih _ g _)
  | call f arguments next ih =>
    cases hc : callWithin d f arguments w with
    | mk answer w' =>
      cases answer with
      | busy => exact hstep (.refused hc) (ih none g w')
      | ended r => exact hstep (.returned hc) (ih (some r) g w')
      | panicked =>
        refine ⟨_, .refl, fun t' hs => ?_, ?_⟩
        · cases hs with
          | refused h => cases hc.symm.trans h
          | returned h => cases hc.symm.trans h
        · simp only [finish, ends, World.run, hc]

/-- What an action leaves in the memory that it borrows is what it is lent at last. -/
lemma Borrows.exists_last (h : t.Borrows a) : ∃ last mem, Relation.ReflTransGen Step t last ∧
    (∀ t', ¬ last.Step t') ∧ last.Lends a mem ∧ last.guest = t.finish.guest ∧
      t.finish.guest.memories[a.index]? = some mem := by
  obtain ⟨last, hsteps, hlast, hguest⟩ := t.exists_last
  obtain ⟨mem, hlends⟩ := (h.steps hsteps).exists_lends
  refine ⟨last, mem, hsteps, hlast, hlends, hguest, ?_⟩
  rw [← hguest, ← (h.steps hsteps).memory?_eq]
  exact hlends.seen

/-- The host sees a memory through its handle. -/
structure Shows (t : Moment σ α) (x : Handle MemoryType) (mem : Memory) : Prop where
  byteSize : (t.turn x.byteSize).ends = (.done (.ok mem.byteSize), t.guest, t.world)
  read : ∀ start length, (t.turn (x.read start length)).ends =
    (.done (mem.answer start length), t.guest, t.world)

lemma shows_of_guest {x : Handle MemoryType} {g : Guest}
    (hg : t.world.guest? x.address.owner = some g)
    (hm : g.memories[x.address.index]? = some mem) : t.Shows x mem := by
  refine ⟨ends_byteSize hg hm, fun start length => ?_⟩
  by_cases hin : start + length ≤ mem.byteSize
  · rw [ends_read hg hm hin, Memory.answer, Memory.inBounds, decide_eq_true hin, if_pos rfl]
  · rw [ends_read_of_lt hg hm (Nat.lt_of_not_le hin), Memory.answer, Memory.inBounds,
      decide_eq_false hin, if_neg Bool.false_ne_true]

/-! ### Calls that come to a function of the host -/

/-- A call that runs code is the run of this code. -/
lemma enter_eq_run {f : Address} {p : Program} {arguments : List Value} {g : Guest} {w : World σ}
    {d : Nat} (ht : p.takes f.index (arguments.map Cell.ofValue) = true)
    (hf : ¬ f.index < p.imported) :
    World.enter (callWithin d) f p arguments g w =
      Execution.run p (hostCall (callWithin d) f.owner false) p.steps
        (p.entry f.index (arguments.map Cell.ofValue)) g w := by
  simp only [World.enter, ht, hf, if_true, if_false, Execution.invoke_eq_run]

/-- The call of a function comes to the function `k` of the host, after a number of steps. The host
calls that function itself, or the code of the instance does at whatever depth. `g` and `v` are the
states of the instance and of the world at that point. -/
inductive ReachesHost (t : Moment σ α) (h : Handle FunctionType) (arguments : List Value) (d : Nat)
    (s : Slot σ) : (direct : Bool) → (steps k : Nat) → List Cell → Guest → World σ → Prop
  | direct {g : Guest} (hc : t.CallsAtRest h arguments d s g)
      (ht : s.program.takes h.address.index (arguments.map Cell.ofValue) = true)
      (hf : h.address.index < s.program.imported) :
      ReachesHost t h arguments d s true 0 h.address.index (arguments.map Cell.ofValue) g
        (t.world.setGuest h.address.owner none)
  | code {steps k : Nat} {cells : List Cell} {g₀ g : Guest} {v : World σ}
      (hc : t.CallsAtRest h arguments d s g₀)
      (ht : s.program.takes h.address.index (arguments.map Cell.ofValue) = true)
      (hf : ¬ h.address.index < s.program.imported)
      (hr : Execution.CallsHostAfter s.program (hostCall (callWithin d) h.address.owner false) k cells
        g v steps (s.program.entry h.address.index (arguments.map Cell.ofValue)) g₀
        (t.world.setGuest h.address.owner none)) :
      ReachesHost t h arguments d s false steps k cells g v

/-- How a call goes on after the call of a function of the host that it has come to. If the host has
called that function itself, then it is over, and otherwise the code that called gets the results. -/
def GoesOn (p : Program) (host : Execution.HostCall (World σ)) (fuel k : Nat) (cells : List Cell)
    (g : Guest) : (direct : Bool) → Outcome (World σ) → Outcome (World σ) → Prop
  | true, r, o => o = r
  | false, r, o => ∃ caller g' m, Machine.step p caller g' = .host k cells m g ∧
      o = r.andThen p host fuel m

lemma GoesOn.eq_of_error {p : Program} {host : Execution.HostCall (World σ)} {fuel k : Nat}
    {cells : List Cell} {g : Guest} {direct : Bool} {r o : Outcome (World σ)}
    (h : GoesOn p host fuel k cells g direct r o) {stop : Stop} (hr : r.result = .error stop) :
    o = r := by
  cases direct with
  | true => exact h
  | false =>
    obtain ⟨-, -, m, -, rfl⟩ := h
    rw [Outcome.andThen, hr]
    exact (Outcome.eq_of_result hr).symm

namespace ReachesHost

variable {h : Handle FunctionType} {arguments : List Value} {d steps k : Nat} {s : Slot σ}
  {direct : Bool} {cells : List Cell} {g : Guest} {v : World σ}

lemma exists_callsHost (hr : t.ReachesHost h arguments d s direct steps k cells g v) :
    ∃ g₀, t.CallsAtRest h arguments d s g₀ ∧
      World.CallsHost (callWithin d) h.address s.program arguments g₀
        (t.world.setGuest h.address.owner none) k cells g v := by
  cases hr with
  | direct hc ht hf => exact ⟨_, hc, .direct ht hf⟩
  | code hc ht hf hr => exact ⟨_, hc, .code ht hf hr.callsHost⟩

/-- The instance is what it was, and its state is with the call. -/
lemma exists_slot (hr : t.ReachesHost h arguments d s direct steps k cells g v) :
    ∃ s', v.slots[h.address.owner]? = some s' ∧ s'.imported = s.imported ∧
      s'.boundMemory = s.boundMemory ∧ s'.guest = none := by
  obtain ⟨g₀, hc, hcall⟩ := hr.exists_callsHost
  obtain ⟨s', hs', hsame⟩ := World.exists_slot (hcall.outline_eq (outline_callWithin d))
    (World.slots_setGuest_self hc.slot none)
  refine ⟨s', hs', congrArg Outline.imported hsame, congrArg Outline.boundMemory hsame, ?_⟩
  have hrest : s'.guest.isSome = false := congrArg Outline.atRest hsame
  simpa using hrest

/-- A function of the host that begins is entered by the call. -/
lemma enters (hr : t.ReachesHost h arguments d s direct steps k cells g v)
    {u : Moment σ (List Value)}
    (hu : Begins (h.address.owner :: t.running) d h.address.owner k cells g v u) :
    (t.turn (h.call arguments)).Enters u := by
  obtain ⟨g₀, hc, hcall⟩ := hr.exists_callsHost
  obtain ⟨running, depth, memory, action, guest, world⟩ := t
  obtain rfl : depth = d + 1 := hc.depth_eq
  rw [turn, Handle.call, hc.fits]
  exact .call hc.slot hc.guest hcall hu

/-- How the call ends, and in which way it has gone on before. -/
lemma exists_outcome (hr : t.ReachesHost h arguments d s direct steps k cells g v)
    (hlt : steps < s.program.steps) :
    ∃ g₀ o, t.CallsAtRest h arguments d s g₀ ∧
      World.enter (callWithin d) h.address s.program arguments g₀
        (t.world.setGuest h.address.owner none) = o ∧
      GoesOn s.program (hostCall (callWithin d) h.address.owner false) (s.program.steps - steps - 1)
        k cells g direct (hostCall (callWithin d) h.address.owner direct k cells g v) o := by
  cases hr with
  | @direct g hc ht hf =>
    refine ⟨g, _, hc, rfl, ?_⟩
    simp only [World.enter, ht, hf, if_true, GoesOn]
  | @code steps k cells g₀ g v hc ht hf hr =>
    obtain ⟨caller, g', m, hs, hrun⟩ := hr.exists_run_eq
    refine ⟨g₀, _, hc, enter_eq_run ht hf, caller, g', m, hs, ?_⟩
    rw [← hrun, show steps + 1 + (s.program.steps - steps - 1) = s.program.steps by omega]

/-- If the function of the host fails, then so does the call. -/
lemma ends_of_error (hr : t.ReachesHost h arguments d s direct steps k cells g v) {stop : Stop}
    {g' : Guest} {v' : World σ} (hstop : stop ≠ .panicked)
    (hk : hostCall (callWithin d) h.address.owner direct k cells g v = ⟨.error stop, g', v'⟩) :
    (steps < s.program.steps → (t.turn (h.call arguments)).ends =
      (.done (.error (.ofStop stop)), t.guest, v'.setGuest h.address.owner (some g'))) ∧
    (s.program.steps ≤ steps → (t.turn (h.call arguments)).ends.1 =
      .done (.error (.ofStop .outOfFuel))) := by
  constructor
  · intro hlt
    obtain ⟨g₀, o, hc, henter, hgoes⟩ := hr.exists_outcome hlt
    rw [hk] at hgoes
    obtain rfl := hgoes.eq_of_error rfl
    exact hc.ends_of_error henter rfl hstop
  · intro hle
    cases hr with
    | direct =>
      have htwo := s.program.two_le_steps
      omega
    | code hc ht hf hr =>
      rw [hc.ends_of_error (enter_eq_run ht hf) ((hr.run_eq hk s.program.steps).2 hle) (by simp)]

end ReachesHost

section Made

variable {w₀ w₁ w : World σ} {m : Module} {o : ImportObject σ} {i : Instance}
  {h : Handle FunctionType} {arguments : List Value} {d steps k : Nat} {s : Slot σ}
  {direct : Bool} {cells : List Cell} {g : Guest} {v : World σ} {f : HostFunction σ}

/-- If the function takes no references, then the host gets all arguments. -/
lemma ReachesHost.exists_values (hw : w.Reached) (ht : t.Occurs w)
    (hr : t.ReachesHost h arguments d s direct steps k cells g v)
    (hk : s.imported[k]? = some (.host f)) (href : ∀ u ∈ f.type.params, u.isReference = false) :
    ∃ values : List Value, cells = values.map Cell.ofValue := by
  obtain ⟨s', hs', himported, -⟩ := hr.exists_slot
  rw [← himported] at hk
  cases hr with
  | direct => exact ⟨arguments, rfl⟩
  | code hc htakes hf hr =>
    obtain ⟨contexts, htyped⟩ := ht.exists_typed hw
    exact (htyped.call hc.slot hc.guest htakes).exists_values hr.callsHost hs' hk href

/-- The memory of an instance that was made is the bound one. -/
lemma ReachesHost.boundMemory_eq (hi : w₀.instantiate m o = (.made i, w₁)) (hw : World.Leads w₁ w)
    (ht : t.Occurs w) (hown : h.address.owner = i.number)
    (hr : t.ReachesHost h arguments d s direct steps k cells g v) : s.boundMemory = m.boundMemory := by
  obtain ⟨g₀, hc, -⟩ := hr.exists_callsHost
  obtain ⟨ps, atRest, -, ho⟩ := ht.outline_of_made hi hw
  rw [World.outline_getElem?, ← hown, hc.slot, Option.map_some, Option.some.injEq] at ho
  exact congrArg Outline.boundMemory ho

/-- A function of the host that uses the memory begins at such a call, and borrows the exported one. -/
lemma ReachesHost.exists_begins (h₀ : w₀.Reached) (hi : w₀.instantiate m o = (.made i, w₁))
    (hw : World.Leads w₁ w) (ht : t.Occurs w) (hown : h.address.owner = i.number)
    (hr : t.ReachesHost h arguments d s direct steps k cells g v)
    (hk : s.imported[k]? = some (.host f)) (hm : f.usesMemory = true)
    (href : ∀ u ∈ f.type.params, u.isReference = false) {x : Handle MemoryType}
    (hx : i.exports.memory "memory" = .ok x) :
    ∃ values u, u = ⟨i.number :: t.running, d, some x.address.index, f.body values, g, v⟩ ∧
      cells = values.map Cell.ofValue ∧
      Begins (i.number :: t.running) d i.number k cells g v u ∧ u.Borrows x.address := by
  obtain ⟨howner, hbound, hexported⟩ := World.boundMemory_of_made hi hx
  obtain ⟨values, hvalues⟩ := hr.exists_values ((h₀.made hi).leads hw) ht hk href
  obtain ⟨s', hs', himported, hsame, haway⟩ := hr.exists_slot
  rw [hr.boundMemory_eq hi hw ht hown, hbound] at hsame
  obtain ⟨g₀, hc, hcall⟩ := hr.exists_callsHost
  have hmemory := hc.hasMemory hi hw ht hown (callsHost_grows hcall).1 hexported
  rw [hown] at hs'
  refine ⟨values, _, rfl, hvalues, begins_of_bound _ hs' (by rw [himported, hk]) hm hsame hvalues,
    rfl, ?_, ?_, hmemory⟩
  · rw [List.head?_cons, howner]
  · rw [howner, World.guest?, hs', Option.bind_some, haway]

/-- When the call is over, the host sees the memory as the call has left it. -/
lemma ReachesHost.exists_shows (hi : w₀.instantiate m o = (.made i, w₁)) (hw : World.Leads w₁ w)
    (ht : t.Occurs w) (hown : h.address.owner = i.number)
    (hr : t.ReachesHost h arguments d s direct steps k cells g v) (hlt : steps < s.program.steps)
    {x : Handle MemoryType} (hx : i.exports.memory "memory" = .ok x) :
    ∃ after mem, GoesOn s.program (hostCall (callWithin d) i.number false)
        (s.program.steps - steps - 1) k cells g direct
        (hostCall (callWithin d) i.number direct k cells g v) after ∧
      after.guest.memories[x.address.index]? = some mem ∧
      (t.turn (h.call arguments)).ends.2 =
        (t.guest, after.world.setGuest i.number (some after.guest)) ∧
      ({ t with world := after.world.setGuest i.number (some after.guest) } :
        Moment σ α).Shows x mem := by
  obtain ⟨howner, -, hexported⟩ := World.boundMemory_of_made hi hx
  obtain ⟨g₀, after, hc, henter, hgoes⟩ := hr.exists_outcome hlt
  have hgrows := (World.enter_grows (World.callWithin_grows d) h.address s.program arguments g₀
    (t.world.setGuest h.address.owner none)).1
  have houtline := World.outline_enter (outline_callWithin d) h.address s.program arguments g₀
    (t.world.setGuest h.address.owner none)
  rw [henter] at hgrows houtline
  obtain ⟨mem, hmem, -⟩ := hc.hasMemory hi hw ht hown hgrows hexported
  have hsize : h.address.owner < after.world.slots.size := by
    rw [World.size_congr _ houtline, World.size_setGuest]
    exact (Array.getElem?_eq_some_iff.1 hc.slot).1
  rw [← hown]
  refine ⟨after, mem, hgoes, hmem, by rw [hc.ends_eq henter], shows_of_guest ?_ hmem⟩
  rw [howner, ← hown, World.guest?_setGuest, if_pos ⟨rfl, hsize⟩]

/-- **Without such a memory the function does not run.** -/
theorem ReachesHost.unbound (h₀ : w₀.Reached) (hi : w₀.instantiate m o = (.made i, w₁))
    (hw : World.Leads w₁ w) (ht : t.Occurs w) (hown : h.address.owner = i.number)
    (hr : t.ReachesHost h arguments d s direct steps k cells g v)
    (hk : s.imported[k]? = some (.host f)) (hm : f.usesMemory = true)
    (href : ∀ u ∈ f.type.params, u.isReference = false)
    (hx : ∀ x, i.exports.memory "memory" ≠ .ok x) :
    (∀ running d' u, ¬ Begins running d' i.number k cells g v u) ∧
    (steps < s.program.steps → (t.turn (h.call arguments)).ends =
      (.done (.error (.trap World.unboundMessage)), t.guest, v.setGuest i.number (some g))) ∧
    (s.program.steps ≤ steps →
      (t.turn (h.call arguments)).ends.1 = .done (.error (.trap "out of fuel"))) := by
  obtain ⟨values, hvalues⟩ := hr.exists_values ((h₀.made hi).leads hw) ht hk href
  obtain ⟨s', hs', himported, hsame, -⟩ := hr.exists_slot
  rw [hr.boundMemory_eq hi hw ht hown, World.boundMemory_of_made_of_none hi hx] at hsame
  rw [← himported] at hk
  obtain ⟨message, hcall, hmessage⟩ :=
    World.hostCall_of_unbound (callWithin d) cells g hs' hk hm hsame direct
  obtain ⟨hends, hfuel⟩ := hr.ends_of_error (by simp) hcall
  rw [← hown]
  refine ⟨fun running d' u => not_begins_of_unbound hs' hk hm hsame u, fun hlt => ?_, hfuel⟩
  rw [hends hlt, hmessage values hvalues]
  rfl

/-- **An instance lends its memory once it has been made, and the right one.** While its start function
runs, no function of the host that uses the memory runs. The call of such a function is a trap of the
instantiation. After the instance was made, a call of a function that it exports comes to such a
function, from the code at whatever depth or because the instance exports it again, and the function
takes no references.

If the instance exports a memory under the name `memory`, then the function runs, on all arguments.
For as long as it does, the size that it is told, the bytes that it reads and the bytes that it writes
are those of this memory, as the code has left it at the moment of the call, and only the function
itself changes it. The code goes on with what the function left there at last: each load has the value
of these bytes. And when the call is over, the host reads through the export what is there then.

If the instance exports no memory under that name, then the function does not run, and the call is a
trap. -/
theorem memory_lent_once_made (h₀ : w₀.Reached) (m : Module) (o : ImportObject σ) :
    (∀ f steps k cells g v, w₀.StartReaches m o f steps k cells g v → f.usesMemory = true →
      (∀ running d u, ¬ Begins running d w₀.slots.size k cells g v u) ∧ ∃ message,
        ((∀ u ∈ f.type.params, u.isReference = false) → message = World.unboundMessage) ∧
        (steps < m.engine.patience → w₀.instantiate m o = (.refused (.trap message), v.dropSlot)) ∧
        (m.engine.patience ≤ steps → (w₀.instantiate m o).1 = .refused (.trap "out of fuel"))) ∧
    ∀ i w₁ w, w₀.instantiate m o = (.made i, w₁) → World.Leads w₁ w →
      ∀ {α : Type} (t : Moment σ α), t.Occurs w → ∀ name h, i.exports.function name = .ok h →
      ∀ arguments d s direct steps k cells g v f,
        t.ReachesHost h arguments d s direct steps k cells g v →
        s.imported[k]? = some (.host f) → f.usesMemory = true →
        (∀ u ∈ f.type.params, u.isReference = false) →
        (∀ x, i.exports.memory "memory" = .ok x → ∃ values u mem last mem',
          u = ⟨i.number :: t.running, d, some x.address.index, f.body values, g, v⟩ ∧
          cells = values.map Cell.ofValue ∧ (t.turn (h.call arguments)).Enters u ∧
          g.memories[x.address.index]? = some mem ∧ u.Lends x.address mem ∧
          u.LentThroughout x.address ∧
          Relation.ReflTransGen Step u last ∧ (∀ u', ¬ last.Step u') ∧ last.Lends x.address mem' ∧
          let r := hostCall (callWithin d) i.number direct k cells g v
          r.guest = last.guest ∧ r.guest.memories[x.address.index]? = some mem' ∧
          (∀ a e address, Access.Reads a e → address + e.width ≤ mem'.byteSize →
            r.guest.Loads a x.address.index address
              (a.valueOf (e.decode (mem'.slice address e.width)))) ∧
          (steps < s.program.steps → ∃ after mem'',
            GoesOn s.program (hostCall (callWithin d) i.number false) (s.program.steps - steps - 1)
              k cells g direct r after ∧
            after.guest.memories[x.address.index]? = some mem'' ∧
            (t.turn (h.call arguments)).ends.2 =
              (t.guest, after.world.setGuest i.number (some after.guest)) ∧
            ({ t with world := after.world.setGuest i.number (some after.guest) } :
              Moment σ α).Shows x mem'')) ∧
        ((∀ x, i.exports.memory "memory" ≠ .ok x) →
          (∀ running d' u, ¬ Begins running d' i.number k cells g v u) ∧
          (steps < s.program.steps → (t.turn (h.call arguments)).ends =
            (.done (.error (.trap World.unboundMessage)), t.guest,
              v.setGuest i.number (some g))) ∧
          (s.program.steps ≤ steps →
            (t.turn (h.call arguments)).ends.1 = .done (.error (.trap "out of fuel")))) := by
  refine ⟨fun f steps k cells g v hr hm => refused_of_startReaches h₀ hr hm,
    fun i w₁ w hi hw α t ht name h hname arguments d s direct steps k cells g v f hr hk hm href => ?_⟩
  obtain ⟨-, -, -, -, hexports, -⟩ := World.outline_instantiate_made hi
  obtain ⟨hown, -⟩ := m.function_eq_ok hexports hname
  refine ⟨fun x hx => ?_, hr.unbound h₀ hi hw ht hown hk hm href⟩
  obtain ⟨values, u, hu, hvalues, hbegins, hborrows⟩ :=
    hr.exists_begins h₀ hi hw ht hown hk hm href hx
  obtain ⟨mem, hlends⟩ := hborrows.exists_lends
  obtain ⟨last, mem', hsteps, hlast, hlends', hguest, hmem'⟩ := hborrows.exists_last
  have hleft : (hostCall (callWithin d) i.number direct k cells g v).guest = u.finish.guest :=
    (hbegins.hostCall_eq direct).1
  have hmem : g.memories[x.address.index]? = some mem := by
    subst hu
    exact (hborrows.memory?_eq g).symm.trans hlends.seen
  rw [← hleft] at hguest hmem'
  refine ⟨values, u, mem, last, mem', hu, hvalues, hr.enters (hown.symm ▸ hbegins), hmem, hlends,
    hborrows.lentThroughout, hsteps, hlast, hlends', hguest.symm, hmem', fun a e address ha hin => ?_,
    fun hlt => hr.exists_shows hi hw ht hown hlt hx⟩
  exact Guest.loads_of_reads hmem' ha hin

end Made

end Moment

/-! ### A function that writes a mark -/

/-- A module that exports its memory and the function that it imports, which it may call at its
start. -/
def Module.lenderDefinition (starts : Bool) : Definition :=
  { Definition.empty with
    types := [⟨[], []⟩]
    imports := [⟨"host", "f", .function 0⟩]
    memories := [⟨1, none, false, false⟩]
    exports := [⟨"memory", .memory, 0⟩, ⟨"f", .function, 0⟩]
    start := if starts then some 0 else none }

def Module.lender (starts : Bool) : Module where
  engine := .standard 0
  binary := Binary.encode (lenderDefinition starts) .empty
  definition := lenderDefinition starts
  code := []
  imports := [⟨"host", "f", .function ⟨[], []⟩⟩]
  exports := [⟨"memory", .memory ⟨1, none, false, false⟩⟩, ⟨"f", .function ⟨[], []⟩⟩]
  customs := []
  name := none
  bodies_eq := by cases starts <;> decide
  imports_eq := rfl
  exports_eq := rfl

lemma Module.compile_lender (starts : Bool) :
    compile (.standard 0) (lender starts).binary = .ok (lender starts) := by
  cases starts with
  | false =>
    exact compile_self (m := lender false) (by decide +kernel) (by decide +kernel)
      (by decide +kernel) rfl rfl
  | true =>
    exact compile_self (m := lender true) (by decide +kernel) (by decide +kernel)
      (by decide +kernel) rfl rfl

/-- A function of the host that writes a byte to the memory. -/
def HostFunction.marker : HostFunction Unit :=
  ⟨⟨[], []⟩, true, fun _ => CallerMemory.write 0 [42] >>= fun _ => .done []⟩

namespace World

/-- The state of the instance. -/
def unmarked : Guest := ⟨#[.ofType ⟨1, none, false, false⟩], #[], #[], #[], #[]⟩

def lenderSlot : Slot Unit where
  program := (Module.lender false).program
  imported := #[.host .marker]
  boundMemory := some 0
  exportedMemory := some 0
  context := .empty
  guest := some unmarked

/-- The world with its instance. -/
def lender : World Unit := { bare with slots := #[lenderSlot] }

/-- The function that the instance exports. -/
def mark : Handle FunctionType := ⟨⟨0, 0⟩, ⟨[], []⟩⟩

/-- The memory that the instance exports. -/
def marked : Handle MemoryType := ⟨⟨0, 0⟩, ⟨1, none, false, false⟩⟩

lemma instantiate_lender :
    bare.instantiate (.lender false) HostFunction.marker.offer =
      (.made ⟨0, .lender false, ⟨[⟨"memory", .memory marked⟩, ⟨"f", .function mark⟩]⟩⟩, lender) :=
  instantiate_eq_made rfl (HostFunction.resolve_offer _ rfl) rfl rfl rfl

lemma startReaches_lender :
    bare.StartReaches (.lender true) HostFunction.marker.offer .marker 0 0 [] unmarked
      (bare.addSlot (.lender true) [.host .marker] .empty) :=
  .intro (f := 0) ⟨rfl, HostFunction.resolve_offer _ rfl, rfl⟩ rfl rfl (.now rfl)

end World

namespace Moment

/-- The host has its turn in that world. -/
def beforeMark : Moment Unit Unit := ⟨[], 1, none, .done (), ⟨#[], #[], #[], #[], #[]⟩, .lender⟩

lemma occurs_beforeMark : beforeMark.Occurs .lender := .perform (.done ())

lemma reachesHost_mark : beforeMark.ReachesHost World.mark [] 0 World.lenderSlot true 0 0 []
    World.unmarked (World.lender.setGuest 0 none) :=
  .direct ⟨rfl, rfl, rfl, rfl⟩ rfl (by decide)

/-- The function is not called at the start. Called afterwards it leaves its mark, which the host
reads. -/
theorem mark_is_lent :
    (∀ starts, Module.compile (.standard 0) (Module.lender starts).binary = .ok (.lender starts)) ∧
      (World.bare.instantiate (.lender true) HostFunction.marker.offer).1 =
        .refused (.trap World.unboundMessage) ∧
      (({ beforeMark with world := (beforeMark.turn (World.mark.call [])).ends.2.2 } :
        Moment Unit Unit).turn (World.marked.read 0 1)).ends.1 = .done (.ok [42]) := by
  have hreached : World.bare.Reached := ⟨(), _, .refl⟩
  refine ⟨Module.compile_lender, ?_, ?_⟩
  · obtain ⟨hstart, -⟩ := memory_lent_once_made hreached (.lender true) HostFunction.marker.offer
    obtain ⟨-, message, hmessage, hends, -⟩ := hstart _ _ _ _ _ _ World.startReaches_lender rfl
    rw [hends (by decide), hmessage (fun _ h => nomatch h)]
  · obtain ⟨-, hmade⟩ := memory_lent_once_made hreached (.lender false) HostFunction.marker.offer
    obtain ⟨hlent, -⟩ := hmade _ _ _ World.instantiate_lender .refl _ occurs_beforeMark "f" _ rfl
      _ _ _ _ _ _ _ _ _ .marker reachesHost_mark rfl rfl (fun _ h => nomatch h)
    obtain ⟨-, -, -, -, -, -, -, -, -, -, -, -, -, -, -, -, -, hafter⟩ := hlent World.marked rfl
    obtain ⟨after, mem, rfl, hmem, hends, hshows⟩ := hafter (by decide)
    have hmark : mem = (Memory.ofType ⟨1, none, false, false⟩).write 0 [42] :=
      Option.some.inj (hmem.symm.trans rfl)
    have hsize : mem.byteSize = 65536 := by
      rw [hmark, Memory.byteSize, Memory.size_write]
      simp [Memory.size, Memory.ofType, pageSize]
    have hbyte : mem.get 0 = 42 := by
      rw [hmark]
      exact Memory.get_write (j := 0)
        (by simp [Memory.byteSize, Memory.size, Memory.ofType, pageSize]) rfl
    rw [hends, hshows.read, Memory.answer, Memory.inBounds, hsize]
    simp [Memory.slice, hbyte]

end Moment

end Embedder
