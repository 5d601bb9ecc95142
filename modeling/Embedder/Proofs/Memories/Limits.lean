import Embedder.Proofs.Modules.Compiling
import Embedder.Proofs.Typing.Initial
import Embedder.Proofs.World.Order
import Embedder.Proofs.World.Reentrancy

/-!
# Exported memories stay within their limits

A memory that an instance exports was made by the module or by the host. In either case its own limits
are within those that the module declares for it, and it never grows past them. This holds of all code,
which grows memories by one instruction only and is followed here up to its first vector or atomic one.

* `Memory.Within`: a memory that can only have sizes which a type allows;
* `Guest.allocate_within`: memories start so;
* `Moment.memory?`: the memory behind a handle, as far as it can be seen;
* `Moment.ends_size`, `Moment.ends_grow`: what a host is told, and what growing leaves;
* `Instance.exported_memory_keeps_limits`: all of it, at every moment after the instance was made.
-/

namespace Embedder

open Execution (Guest Supplied)
open Elementwise

variable {σ α β : Type}

/-! ### Memories within limits -/

/-- The memory has no less than the minimum of a type, and it cannot grow past the maximum. -/
structure Memory.Within (t : MemoryType) (m : Memory) : Prop where
  minimum_le : t.minimum ≤ m.size
  size_le_limit : m.size ≤ m.limit
  limit_le : ∀ r, t.maximum = some r → m.limit ≤ r

namespace Memory

variable {m m' : Memory} {t : MemoryType}

lemma limit_le_maxPages (m : Memory) : m.limit ≤ maxPages := Nat.min_le_right ..

/-- All bytes of a memory can be numbered with 64 bits. -/
lemma byteSize_lt (h : m.size ≤ m.limit) : m.byteSize < 2 ^ 64 :=
  Nat.lt_of_le_of_lt (Nat.mul_le_mul_right pageSize (Nat.le_trans h m.limit_le_maxPages)) (by decide)

lemma Within.allows (h : m.Within t) : t.limits.Allows m.size ∧ m.size ≤ maxPages :=
  ⟨⟨h.minimum_le, fun r hr => Nat.le_trans h.size_le_limit (h.limit_le r hr)⟩,
    Nat.le_trans h.size_le_limit m.limit_le_maxPages⟩

lemma Within.grows (h : m.Within t) (hm : m.Grows m') : m'.Within t := by
  refine ⟨Nat.le_trans h.minimum_le hm.size_le, ?_, fun r hr => ?_⟩
  · have hle := hm.le_limit
    rw [Nat.max_eq_right h.size_le_limit] at hle
    rwa [hm.limit_eq]
  · rw [hm.limit_eq]
    exact h.limit_le r hr

/-- A new memory of a type that an engine accepts stays within any limits that the type satisfies. -/
lemma within_ofType {required : MemoryType} (hmin : t.minimum ≤ maxPages)
    (hmax : ∀ r, t.maximum = some r → t.minimum ≤ r)
    (hlimits : t.limits.Matches required.limits) : (ofType t).Within required := by
  have hsize : (ofType t).size = t.minimum := by simp [ofType, size]
  have hlimit : (ofType t).limit = min (t.maximum.getD maxPages) maxPages := rfl
  refine ⟨?_, ?_, fun r hr => ?_⟩
  · rw [hsize]
    exact hlimits.1
  · rw [hsize, hlimit]
    refine Nat.le_min.2 ⟨?_, hmin⟩
    cases ht : t.maximum with
    | none => exact hmin
    | some r => exact hmax r ht
  · obtain ⟨p, hp, hle⟩ := hlimits.2 r hr
    have hp : t.maximum = some p := hp
    rw [hlimit, hp]
    exact Nat.le_trans (Nat.min_le_left ..) hle

end Memory

/-- There is such a memory, and it is not above its limit. -/
def Execution.Guest.HasMemory (g : Guest) (k : Nat) : Prop :=
  ∃ mem, g.memories[k]? = some mem ∧ mem.size ≤ mem.limit

namespace Execution.Guest.HasMemory

variable {g g' : Guest} {k : Nat}

lemma exists_memory (h : g.HasMemory k) : ∃ mem, g.memories[k]? = some mem := by
  obtain ⟨mem, hmem, -⟩ := h
  exact ⟨mem, hmem⟩

lemma grows (h : g.HasMemory k) (hgrows : g.Grows g') : g'.HasMemory k := by
  obtain ⟨mem, hmem, hle⟩ := h
  obtain ⟨mem', hmem', hm⟩ := hgrows k mem hmem
  refine ⟨mem', hmem', ?_⟩
  rw [hm.limit_eq]
  exact Nat.le_trans hm.le_limit (Nat.max_le.2 ⟨hle, Nat.le_refl _⟩)

end Execution.Guest.HasMemory

/-! ### Memories of a new instance -/

/-- A memory that serves an import stays within the limits that are asked for. -/
lemma ImportObject.Serves.memory_within {o : ImportObject σ} {d : Definition} {e : ImportEntry}
    {i : ImportType} {t required : MemoryType} (h : o.Serves i (.memory t))
    (hi : d.importType? e = some i) (he : e.item = .memory required) :
    (Memory.ofType t).Within required := by
  obtain ⟨ns, name, item⟩ := e
  cases he
  cases hi
  cases h with
  | item _ hserves =>
    cases hserves with
    | memory _ _ hs hr ha =>
      obtain ⟨-, -, hlimits⟩ := (MemoryType.satisfies_iff_matches t required).1 hs
      obtain ⟨hmin, hmax⟩ := Bool.and_eq_true _ _ ▸ ha
      refine Memory.within_ofType (of_decide_eq_true hmin) (fun r hr => ?_) hlimits
      rw [hr, Option.all_some, Bool.and_eq_true] at hmax
      exact of_decide_eq_true hmax.2

lemma ImportObject.supplied_within {o : ImportObject σ} {m : Module} {ps : List (Provided σ)}
    (h : o.resolve m = .ok ps) :
    List.Forall₂ (fun t mem => mem.Within t) m.definition.importedMemories
      (Provided.memories ps) := by
  refine List.rel_filterMap ?_ (o.forall₂_serves h)
  rintro ⟨ns, name, item⟩ p ⟨i, hi, hp⟩
  have hfits := hp.fits hi
  cases hfits with
  | memory t required => exact .some (hp.memory_within hi rfl)
  | _ => exact .none

/-- A memory that the module makes stays within its own limits. -/
lemma Module.own_within (m : Module) {t : MemoryType} (ht : t ∈ m.definition.memories) :
    (Memory.ofType t).Within t := by
  obtain ⟨c, -, hs⟩ := m.exists_context
  have hvalid : Validation.memoryType t = true := by
    unfold Validation.sections at hs
    simp only [Bool.and_eq_true] at hs
    exact List.all_eq_true.1 (by tauto) t ht
  unfold Validation.memoryType Validation.ordered at hvalid
  simp only [Bool.and_eq_true, decide_eq_true_iff, Option.all_eq_true] at hvalid
  obtain ⟨⟨⟨⟨-, hmin⟩, -⟩, hordered⟩, -⟩ := hvalid
  refine Memory.within_ofType hmin (fun r hr => by simpa using hordered r hr) ⟨Nat.le_refl _, ?_⟩
  exact fun r hr => ⟨r, hr, Nat.le_refl r⟩

namespace Execution.Guest

/-- **Every memory of a new instance stays within the limits that the module declares.** -/
theorem allocate_within {o : ImportObject σ} {m : Module} {ps : List (Provided σ)}
    (h : o.resolve m = .ok ps) {j : Nat} {t : MemoryType}
    (ht : m.definition.memorySpace[j]? = some t) :
    ∃ mem, (allocate m.definition (Provided.supplied ps)).memories[j]? = some mem ∧
      mem.Within t := by
  have hown : List.Forall₂ (fun t mem => mem.Within t) m.definition.memories
      (m.definition.memories.map Memory.ofType) := by
    rw [List.forall₂_map_right_iff, List.forall₂_same]
    exact fun t ht => m.own_within ht
  have hall := List.rel_append (o.supplied_within h) hown
  have hj := hall.length_eq ▸ (List.getElem?_eq_some_iff.1 ht).1
  refine ⟨_, ?_, rel_of_forall₂ hall ht (List.getElem?_eq_getElem hj)⟩
  simp only [allocate, Provided.supplied, List.getElem?_toArray]
  exact List.getElem?_eq_getElem hj

/-- Segments change no size. -/
lemma populate_grows {d : Definition} {s : Supplied} {g : Guest} (h : populate d s = .ok g) :
    (allocate d s).Grows g := by
  unfold populate at h
  cases hplaced : d.elements.foldlM placeElements (allocate d s) with
  | error t =>
    rw [hplaced] at h
    cases h
  | ok g₁ =>
    rw [hplaced] at h
    have helements : ∀ e g g', placeElements g e = .ok g' → (allocate d s).Grows g →
        (allocate d s).Grows g' := by
      intro e g g' hg hgrows
      unfold placeElements at hg
      split at hg
      · simp only at hg
        split at hg
        · cases hg
          exact hgrows.trans (.of_eq rfl)
        · cases hg
      · cases hg
        exact hgrows
      · cases hg
        exact hgrows
    have hdatas : ∀ e g g', placeData g e = .ok g' → (allocate d s).Grows g →
        (allocate d s).Grows g' := by
      intro e g g' hg hgrows
      unfold placeData at hg
      split at hg
      · simp only at hg
        split at hg
        · cases hg
          exact hgrows.trans (grows_changeMemory fun m _ => m.grows_write ..)
        · cases hg
      · cases hg
        exact hgrows
    exact foldlM_ok_keeps (fun e _ g g' => hdatas e g g') h
      (foldlM_ok_keeps (fun e _ g g' => helements e g g') hplaced (.refl _))

end Execution.Guest

/-- A new instance has what was allocated for it, after it has run its start function. -/
lemma World.exists_allocated {w w' : World σ} {m : Module} {o : ImportObject σ} {i : Instance}
    (h : w.instantiate m o = (.made i, w')) :
    ∃ ps g, o.resolve m = .ok ps ∧ w'.guest? i.number = some g ∧
      (Guest.allocate m.definition (Provided.supplied ps)).Grows g := by
  obtain ⟨r, hr, hfailed⟩ | ⟨c, ps, g, -, hps, hg, hlaunch⟩ := instantiate_cases w m o
  · rw [hfailed] at h
    exact absurd (congrArg Prod.fst h) (hr i)
  · rw [hlaunch] at h
    have hstart := start_grows (w.addSlot m ps c) m w.slots.size g
    have houtline := outline_start (w.addSlot m ps c) m w.slots.size g
    obtain ⟨result, g₁, w₁, hs, hcases⟩ := launch_cases h
    rw [hs] at hstart houtline
    rcases hcases with ⟨s, -, hr, -⟩ | ⟨name, -, -, hr, -⟩ | ⟨exports, -, -, hr, rfl⟩
    · exact absurd hr.symm (startError_ne_made s i)
    · exact absurd rfl (hr i)
    · cases hr
      refine ⟨ps, g₁, hps, ?_, (Guest.populate_grows hg).trans hstart.1⟩
      have hsize : w.slots.size < w₁.slots.size := by
        rw [size_congr _ houtline]
        simp [addSlot]
      simp [guest?, settle, hsize, Array.getElem_modify]

/-! ### What a host is told -/

/-- The memory at an address, if its instance is at rest. -/
def World.memory? (w : World σ) (a : Address) : Option Memory :=
  (w.guest? a.owner).bind fun g => g.memories[a.index]?

/-- The memory at an address, if its instance is at rest or has called the action. -/
def Moment.memory? (t : Moment σ α) (a : Address) : Option Memory :=
  (t.guest? a.owner).bind fun g => g.memories[a.index]?

lemma Moment.memory?_of_world {t : Moment σ α} {a : Address} {mem : Memory}
    (h : t.world.memory? a = some mem) : t.memory? a = some mem := by
  obtain ⟨g, hg, hm⟩ := Option.bind_eq_some_iff.1 h
  rw [memory?, guest?_of_world hg]
  exact hm

/-- The second memory has so many pages more. The bytes of the first are in it, and zeros behind
them. -/
structure Memory.GrownBy (delta : Nat) (m m' : Memory) : Prop where
  size_eq : m'.size = m.size + delta
  old : ∀ a < m.byteSize, m'.get a = m.get a
  new : ∀ a, m.byteSize ≤ a → m'.get a = 0

lemma Memory.grownBy_grow (m : Memory) (delta : Nat) : m.GrownBy delta (m.grow delta) :=
  ⟨m.size_grow delta, fun a _ => m.get_grow delta a, fun a ha =>
    (m.get_grow delta a).trans (get_of_byteSize_le ha)⟩

namespace Moment

section AtRest

variable {t : Moment σ α} {h : Handle MemoryType} {g : Guest} {mem : Memory}

lemma ends_size (hg : t.world.guest? h.address.owner = some g)
    (hm : g.memories[h.address.index]? = some mem) :
    (t.turn h.size).ends = (.done (.ok mem.size), t.guest, t.world) := by
  simp only [ends, turn, Handle.size, World.run, World.operate_of_guest? _ _ hg, Operation.perform,
    hm, Option.elim_some, World.setGuest_self _ _ hg]

lemma ends_byteSize (hg : t.world.guest? h.address.owner = some g)
    (hm : g.memories[h.address.index]? = some mem) :
    (t.turn h.byteSize).ends = (.done (.ok (mem.size * pageSize)), t.guest, t.world) := by
  have hsize := ends_size hg hm
  simp only [ends, turn] at hsize
  simp only [ends, turn, Handle.byteSize, World.run_bind, hsize]
  rfl

/-- Growing answers with the size before, or it is refused and nothing has changed. -/
lemma ends_grow (hg : t.world.guest? h.address.owner = some g)
    (hm : g.memories[h.address.index]? = some mem) (delta : Nat) :
    (mem.size + delta ≤ mem.limit → ∃ v mem', (t.turn (h.grow delta)).ends =
      (.done (.ok mem.size), t.guest, v) ∧ v.memory? h.address = some mem' ∧
        mem.GrownBy delta mem') ∧
    (mem.limit < mem.size + delta →
      (t.turn (h.grow delta)).ends = (.done (.error (.growth delta)), t.guest, t.world)) := by
  constructor
  · intro hle
    have hcan : mem.canGrow delta = true := decide_eq_true hle
    have hlt := World.lt_size_of_guest? _ _ hg
    refine ⟨t.world.setGuest h.address.owner
      (some (Execution.Machine.changeMemory g h.address.index fun m => m.grow delta)),
      mem.grow delta, ?_, ?_, mem.grownBy_grow delta⟩
    · simp only [ends, turn, Handle.grow, World.run, World.operate_of_guest? _ _ hg,
        Operation.perform, hm, Option.map_some, hcan]
    · simp only [World.memory?, World.guest?_setGuest, hlt, and_self, if_true, Option.bind_some,
        Execution.Machine.changeMemory, Array.getElem?_modify, hm, Option.map_some]
  · intro hlt
    have hcan : mem.canGrow delta = false := decide_eq_false (by omega)
    simp only [ends, turn, Handle.grow, World.run, World.operate_of_guest? _ _ hg,
      Operation.perform, hm, Option.map_some, hcan, World.setGuest_self _ _ hg]

end AtRest

/-! ### At every moment -/

/-- **The memories of an instance stay within the limits that its module declares.** -/
theorem Occurs.memory_within {w₀ w₁ w : World σ} {m : Module} {o : ImportObject σ} {i : Instance}
    (hi : w₀.instantiate m o = (.made i, w₁)) (hw : World.Leads w₁ w) {t : Moment σ α}
    (ht : t.Occurs w) {g : Guest} (hg : t.guest? i.number = some g) {j : Nat} {type : MemoryType}
    (htype : m.definition.memorySpace[j]? = some type) :
    ∃ mem, g.memories[j]? = some mem ∧ mem.Within type := by
  obtain ⟨ps, g₁, hps, hg₁, hgrows⟩ := World.exists_allocated hi
  obtain ⟨mem, hmem, hwithin⟩ := Guest.allocate_within hps htype
  obtain ⟨g₂, hg₂, hgrows₂⟩ := hw.grows i.number g₁ hg₁
  obtain ⟨g₃, hg₃, hgrows₃⟩ := ht.grows (World.lt_size_of_guest? _ _ hg₂) hg
  cases hg₂.symm.trans hg₃
  obtain ⟨mem', hmem', hm⟩ := ((hgrows.trans hgrows₂).trans hgrows₃) j mem hmem
  exact ⟨mem', hmem', hwithin.grows hm⟩

/-- An exported memory can be seen while its instance is at rest. -/
theorem Occurs.exists_memory {w₀ w₁ w : World σ} {m : Module} {o : ImportObject σ} {i : Instance}
    (h₀ : w₀.Reached) (hi : w₀.instantiate m o = (.made i, w₁)) (hw : World.Leads w₁ w)
    {t : Moment σ α} (ht : t.Occurs w) {name : String} {h : Handle MemoryType}
    (hx : i.exports.memory name = .ok h) (hrun : i.number ∉ t.running) :
    ∃ g mem, t.world.guest? h.address.owner = some g ∧ g.memories[h.address.index]? = some mem ∧
      t.memory? h.address = some mem ∧ mem.Within h.type := by
  obtain ⟨-, -, -, -, hexports, -⟩ := World.outline_instantiate_made hi
  obtain ⟨hown, htype⟩ := m.memory_eq_ok hexports hx
  have hsize := hw.lt_size (World.lt_size_of_made hi)
  obtain ⟨g, hg⟩ := ht.exists_guest ((h₀.made hi).leads hw).atRest hsize hrun
  obtain ⟨mem, hmem, hwithin⟩ := ht.memory_within hi hw (guest?_of_world hg) htype
  rw [← hown] at hg
  exact ⟨g, mem, hg, hmem, memory?_of_world (by rw [World.memory?, hg]; exact hmem), hwithin⟩

/-- Memories that can be seen at two moments, one before the other. -/
lemma Before.size_le {t : Moment σ α} {t' : Moment σ β} (h : t.Before t') {a : Address}
    {mem mem' : Memory} (hm : t.memory? a = some mem) (hm' : t'.memory? a = some mem') :
    mem.size ≤ mem'.size := by
  obtain ⟨g, hg, hm⟩ := Option.bind_eq_some_iff.1 hm
  obtain ⟨g', hg', hm'⟩ := Option.bind_eq_some_iff.1 hm'
  obtain ⟨x, hx, hgrows⟩ := h.grows hg hg' a.index mem hm
  cases hm'.symm.trans hx
  exact hgrows.size_le

/-- The same for moments of different things that the host does. -/
lemma During.size_le {w v v' : World σ} {t : Moment σ α} (h : During w v t)
    (hv : World.Leads v v') {t' : Moment σ β} (ht' : t'.Occurs v') {a : Address}
    (ha : a.owner < w.slots.size) {mem mem' : Memory} (hm : t.memory? a = some mem)
    (hm' : t'.memory? a = some mem') : mem.size ≤ mem'.size := by
  obtain ⟨g, hg, hm⟩ := Option.bind_eq_some_iff.1 hm
  obtain ⟨g', hg', hm'⟩ := Option.bind_eq_some_iff.1 hm'
  obtain ⟨g₁, hg₁, hgrows₁⟩ := h.grows ha hg
  obtain ⟨g₂, hg₂, hgrows₂⟩ := hv.grows a.owner g₁ hg₁
  obtain ⟨g₃, hg₃, hgrows₃⟩ := ht'.grows (World.lt_size_of_guest? _ _ hg₂) hg'
  cases hg₂.symm.trans hg₃
  obtain ⟨x, hx, hgrows⟩ := ((hgrows₁.trans hgrows₂).trans hgrows₃) a.index mem hm
  cases hm'.symm.trans hx
  exact hgrows.size_le

end Moment

/-- **An exported memory stays within its declared limits.** After an instance was made, at every
moment of whatever a host does, the memory behind one of its exports has a size that the declared type
allows, and no more pages than 32 bits can address. A host is told this size, in pages and in bytes.
Growing answers with the size before; it keeps the old bytes, and the new ones are zero. Growing that
fails has changed nothing. The size never decreases from one moment to a later one. -/
theorem Instance.exported_memory_keeps_limits {w₀ w₁ w : World σ} {m : Module} {o : ImportObject σ}
    {i : Instance} (h₀ : w₀.Reached) (hi : w₀.instantiate m o = (.made i, w₁))
    (hw : World.Leads w₁ w) {name : String} {h : Handle MemoryType}
    (hx : i.exports.memory name = .ok h) :
    m.definition.memorySpace[h.address.index]? = some h.type ∧
    (∀ {α : Type} (t : Moment σ α), t.Occurs w →
      (∀ mem, t.memory? h.address = some mem →
        h.type.limits.Allows mem.size ∧ mem.size ≤ maxPages) ∧
      (i.number ∉ t.running → ∃ mem, t.memory? h.address = some mem ∧
        (t.turn h.size).ends = (.done (.ok mem.size), t.guest, t.world) ∧
        (t.turn h.byteSize).ends = (.done (.ok (mem.size * 65536)), t.guest, t.world) ∧
        ∀ delta,
          (mem.size + delta ≤ mem.limit → ∃ v mem', (t.turn (h.grow delta)).ends =
            (.done (.ok mem.size), t.guest, v) ∧ v.memory? h.address = some mem' ∧
              mem.GrownBy delta mem') ∧
          (mem.limit < mem.size + delta → (t.turn (h.grow delta)).ends =
            (.done (.error (.growth delta)), t.guest, t.world))) ∧
      (i.number ∈ t.running → ∀ delta, (t.turn (h.grow delta)).ends =
        (.done (.error .reentrant), t.guest, t.world))) ∧
    (∀ {α β : Type} (t : Moment σ α) (t' : Moment σ β), t.Before t' → ∀ mem mem',
      t.memory? h.address = some mem → t'.memory? h.address = some mem' → mem.size ≤ mem'.size) ∧
    ∀ {α β : Type} (v v' : World σ) (t : Moment σ α) (t' : Moment σ β), Moment.During w v t →
      World.Leads v v' → t'.Occurs v' → ∀ mem mem',
      t.memory? h.address = some mem → t'.memory? h.address = some mem' →
      mem.size ≤ mem'.size := by
  obtain ⟨-, -, -, -, hexports, -⟩ := World.outline_instantiate_made hi
  obtain ⟨hown, htype⟩ := m.memory_eq_ok hexports hx
  have hreached : w.Reached := (h₀.made hi).leads hw
  have hsize : h.address.owner < w.slots.size := hown ▸ hw.lt_size (World.lt_size_of_made hi)
  refine ⟨htype, fun t ht => ⟨fun mem hmem => ?_, fun hrun => ?_, fun hrun delta => ?_⟩,
    fun t t' hbefore mem mem' => hbefore.size_le,
    fun v v' t t' hduring hv ht' mem mem' => hduring.size_le hv ht' hsize⟩
  · obtain ⟨g, hg, hmem⟩ := Option.bind_eq_some_iff.1 hmem
    obtain ⟨x, hx, hwithin⟩ := ht.memory_within hi hw (hown ▸ hg) htype
    cases hmem.symm.trans hx
    exact hwithin.allows
  · obtain ⟨g, mem, hg, hmem, hseen, -⟩ := ht.exists_memory h₀ hi hw hx hrun
    exact ⟨mem, hseen, Moment.ends_size hg hmem, Moment.ends_byteSize hg hmem,
      Moment.ends_grow hg hmem⟩
  · rw [← hown] at hrun
    exact (ht.sound hreached.atRest).ends_of_running (u := .memoryGrow h delta) trivial
      (ht.lt_size hsize) hrun

/-- A module that exports the memory that it imports. It leaves room for five pages. -/
def Module.reexportDefinition : Definition :=
  { Definition.empty with
    imports := [⟨"host", "m", .memory ⟨1, some 5, false, false⟩⟩], exports := [⟨"m", .memory, 0⟩] }

def Module.reexport : Module where
  engine := .standard 0
  binary := Binary.encode reexportDefinition .empty
  definition := reexportDefinition
  code := []
  imports := [⟨"host", "m", .memory ⟨1, some 5, false, false⟩⟩]
  exports := [⟨"m", .memory ⟨1, some 5, false, false⟩⟩]
  customs := []
  name := none
  bodies_eq := by decide
  imports_eq := rfl
  exports_eq := rfl

lemma Module.compile_reexport : compile (.standard 0) reexport.binary = .ok reexport :=
  compile_self (m := reexport) (by decide +kernel) (by decide +kernel) (by decide +kernel)
    rfl rfl

/-- A memory of two pages, and at most three, in place of the one that is asked for. -/
def ImportObject.threePages : ImportObject Unit :=
  ImportObject.empty.define "host" "m" (.memory ⟨2, some 3, false, false⟩)

lemma ImportObject.resolve_threePages :
    threePages.resolve .reexport = .ok [.memory ⟨2, some 3, false, false⟩] := by
  have hget : threePages.get? "host" "m" = some (.memory ⟨2, some 3, false, false⟩) :=
    Dictionary.find?_insert_self ..
  rw [resolve_eq_ok_iff]
  refine ⟨fun b hb => ?_, .cons (.item hget (.memory _ _ rfl rfl rfl)) .nil, fun hs => ?_⟩
  · cases hb
  · cases hs

/-- The world with its instance. -/
def World.threePages : World Unit :=
  (World.instantiate (.create () (.ofFiles .empty)) .reexport ImportObject.threePages).2

lemma World.instantiate_threePages :
    World.instantiate (.create () (.ofFiles .empty)) .reexport ImportObject.threePages =
      (.made ⟨0, .reexport, ⟨[⟨"m", .memory ⟨⟨0, 0⟩, ⟨1, some 5, false, false⟩⟩⟩]⟩⟩,
        .threePages) := by
  have hi := instantiate_eq_made (w := .create () (.ofFiles .empty)) (m := .reexport) rfl
    ImportObject.resolve_threePages rfl rfl rfl
  rw [threePages, hi]
  rfl

lemma World.memory?_threePages :
    threePages.memory? ⟨0, 0⟩ = some (.ofType ⟨2, some 3, false, false⟩) := by
  rw [threePages, instantiate_eq_made rfl ImportObject.resolve_threePages rfl rfl rfl]
  rfl

/-- Three pages are the most for an instance that got a memory of so many, whatever it declares. -/
theorem Instance.three_pages_at_most :
    Module.compile (.standard 0) Module.reexport.binary = .ok .reexport ∧
    ∃ (i : Instance) (h : Handle MemoryType) (t : Moment Unit Unit),
      (World.instantiate (.create () (.ofFiles .empty)) .reexport .threePages).1 = .made i ∧
      i.exports.memory "m" = .ok h ∧ h.type.maximum = some 5 ∧ t.Occurs .threePages ∧
      (t.turn h.size).ends.1 = .done (.ok 2) ∧ (t.turn (h.grow 1)).ends.1 = .done (.ok 2) ∧
      (t.turn (h.grow 2)).ends = (.done (.error (.growth 2)), t.guest, t.world) := by
  have hx : Exports.memory ⟨[⟨"m", .memory ⟨⟨0, 0⟩, ⟨1, some 5, false, false⟩⟩⟩]⟩ "m" =
    .ok ⟨⟨0, 0⟩, ⟨1, some 5, false, false⟩⟩ := rfl
  obtain ⟨-, hlimits, -⟩ :=
    exported_memory_keeps_limits ⟨(), _, .refl⟩ World.instantiate_threePages .refl hx
  have ht := Moment.Occurs.perform (w := World.threePages) (.done ())
  obtain ⟨mem, hmem, hsize, -, hgrow⟩ := (hlimits _ ht).2.1 (by simp)
  obtain rfl := Option.some.inj ((Moment.memory?_of_world World.memory?_threePages).symm.trans hmem)
  obtain ⟨v, mem', hgrown, -⟩ := (hgrow 1).1 (by decide)
  exact ⟨Module.compile_reexport, _, _, _, congrArg Prod.fst World.instantiate_threePages, hx, rfl, ht,
    congrArg Prod.fst hsize, congrArg Prod.fst hgrown, (hgrow 2).2 (by decide)⟩

end Embedder
