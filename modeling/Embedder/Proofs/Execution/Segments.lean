import Embedder.Execution.Initial
import Embedder.Proofs.Lists

/-!
# Active segments

A new instance copies its active segments into its tables and memories. A copy changes neither their
sizes nor the globals that the addresses are computed from, so whether a segment fits can be told
before any of them is copied.

* `Guest.HoldsElements`, `Guest.HoldsData`: a segment lies within its table or memory;
* `Guest.placeElements_of_holds`, `Guest.placeData_of_holds`: a copy keeps what this depends on;
* `Guest.exists_populate_iff`, `Guest.populate_eq_error_iff`: an instance gets its first state if all
  segments fit, and otherwise tables are complained about first.
-/

namespace Embedder.Execution.Guest

open Elementwise

variable {d : Definition} {s : Supplied} {g g' : Guest} {t : Trap}

/-! ### Segments that fit -/

/-- If the segment of elements is an active one, its elements lie within its table. -/
def HoldsElements (g : Guest) (e : ElementSegment) : Prop :=
  ∀ table offset, e.mode = .active table offset →
    ∃ t, g.tables[table.getD 0]? = some t ∧
      (offset? g.globals offset).getD 0 + (segmentCells g.globals e.items).length ≤ t.size

/-- If the data segment is an active one, its bytes lie within its memory. -/
def HoldsData (g : Guest) (s : DataSegment) : Prop :=
  ∀ memory offset, s.mode = .active memory offset →
    ∃ m, g.memories[memory]? = some m ∧
      (offset? g.globals offset).getD 0 + s.bytes.length ≤ m.byteSize

/-- What decides whether a segment fits: the sizes of tables and memories, and the globals. -/
structure Extent where
  tables : Array Nat
  memories : Array Nat
  globals : Array Cell

def extent (g : Guest) : Extent := ⟨g.tables.map Table.size, g.memories.map Memory.size, g.globals⟩

lemma exists_table_congr (h : g'.extent = g.extent) (i n : Nat) :
    (∃ t, g'.tables[i]? = some t ∧ n ≤ t.size) ↔ ∃ t, g.tables[i]? = some t ∧ n ≤ t.size := by
  have hshown : ∀ g : Guest, (∃ t, g.tables[i]? = some t ∧ n ≤ t.size) ↔
      ∃ k, g.extent.tables[i]? = some k ∧ n ≤ k := fun g => by simp [extent]
  rw [hshown, hshown, h]

lemma exists_memory_congr (h : g'.extent = g.extent) (i n : Nat) :
    (∃ m, g'.memories[i]? = some m ∧ n ≤ m.byteSize) ↔
      ∃ m, g.memories[i]? = some m ∧ n ≤ m.byteSize := by
  have hshown : ∀ g : Guest, (∃ m, g.memories[i]? = some m ∧ n ≤ m.byteSize) ↔
      ∃ k, g.extent.memories[i]? = some k ∧ n ≤ k * pageSize :=
    fun g => by simp [extent, Memory.byteSize]
  rw [hshown, hshown, h]

lemma holdsElements_congr (h : g'.extent = g.extent) (e : ElementSegment) :
    g'.HoldsElements e ↔ g.HoldsElements e := by
  have hglobals : g'.globals = g.globals := congrArg Extent.globals h
  simp only [HoldsElements, exists_table_congr h, hglobals]

lemma holdsData_congr (h : g'.extent = g.extent) (e : DataSegment) :
    g'.HoldsData e ↔ g.HoldsData e := by
  have hglobals : g'.globals = g.globals := congrArg Extent.globals h
  simp only [HoldsData, exists_memory_congr h, hglobals]

/-! ### Copies -/

lemma extent_changeTable (g : Guest) (i : Nat) {f : Table → Table} (hf : ∀ t, (f t).size = t.size) :
    (Machine.changeTable g i f).extent = g.extent := by
  have hsizes : (g.tables.modify i f).map Table.size = g.tables.map Table.size := by
    rw [Elementwise.map_modify (g := id) hf, Elementwise.modify_id]
  simp only [extent, Machine.changeTable, hsizes]

lemma extent_changeMemory (g : Guest) (i : Nat) {f : Memory → Memory}
    (hf : ∀ m, (f m).size = m.size) : (Machine.changeMemory g i f).extent = g.extent := by
  have hsizes : (g.memories.modify i f).map Memory.size = g.memories.map Memory.size := by
    rw [Elementwise.map_modify (g := id) hf, Elementwise.modify_id]
  simp only [extent, Machine.changeMemory, hsizes]

lemma placeElements_of_holds {e : ElementSegment} (h : g.HoldsElements e) :
    ∃ g', placeElements g e = .ok g' ∧ g'.extent = g.extent := by
  unfold placeElements
  cases hmode : e.mode with
  | active table offset =>
    obtain ⟨t, ht, hle⟩ := h table offset hmode
    have hin : Machine.inTable g (table.getD 0) ((offset? g.globals offset).getD 0)
        (segmentCells g.globals e.items).length = true := by
      simpa [Machine.inTable, ht, Table.inBounds] using hle
    exact ⟨_, if_pos hin, extent_changeTable g _ fun t => Table.size_write t ..⟩
  | passive => exact ⟨g, rfl, rfl⟩
  | declared => exact ⟨g, rfl, rfl⟩

lemma placeElements_of_not_holds {e : ElementSegment} (h : ¬ g.HoldsElements e) :
    placeElements g e = .error .tableOutOfBounds := by
  unfold placeElements
  cases hmode : e.mode with
  | active table offset =>
    refine if_neg fun hin => h fun table' offset' hmode' => ?_
    cases hmode.symm.trans hmode'
    simpa [Machine.inTable, Table.inBounds, Option.any_eq_true] using hin
  | passive => exact absurd (fun _ _ hmode' => nomatch hmode.symm.trans hmode') h
  | declared => exact absurd (fun _ _ hmode' => nomatch hmode.symm.trans hmode') h

lemma placeData_of_holds {e : DataSegment} (h : g.HoldsData e) :
    ∃ g', placeData g e = .ok g' ∧ g'.extent = g.extent := by
  unfold placeData
  cases hmode : e.mode with
  | active memory offset =>
    obtain ⟨m, hm, hle⟩ := h memory offset hmode
    have hin : Machine.inMemory g memory ((offset? g.globals offset).getD 0) e.bytes.length =
        true := by
      simpa [Machine.inMemory, hm, Memory.inBounds] using hle
    exact ⟨_, if_pos hin, extent_changeMemory g _ fun m => Memory.size_write m ..⟩
  | passive => exact ⟨g, rfl, rfl⟩

lemma placeData_of_not_holds {e : DataSegment} (h : ¬ g.HoldsData e) :
    placeData g e = .error .memoryOutOfBounds := by
  unfold placeData
  cases hmode : e.mode with
  | active memory offset =>
    refine if_neg fun hin => h fun memory' offset' hmode' => ?_
    cases hmode.symm.trans hmode'
    simpa [Machine.inMemory, Memory.inBounds, Option.any_eq_true] using hin
  | passive => exact absurd (fun _ _ hmode' => nomatch hmode.symm.trans hmode') h

/-! ### All segments -/

/-- A segment of elements of the module does not fit into its table. -/
def MissesTable (d : Definition) (s : Supplied) : Prop :=
  ∃ e ∈ d.elements, ¬ (allocate d s).HoldsElements e

/-- A data segment of the module does not fit into its memory. -/
def MissesMemory (d : Definition) (s : Supplied) : Prop :=
  ∃ e ∈ d.datas, ¬ (allocate d s).HoldsData e

/-- The first state before the segments of data are copied. -/
lemma placeElements_all (d : Definition) (s : Supplied) :
    (MissesTable d s ∧
      d.elements.foldlM placeElements (allocate d s) = .error .tableOutOfBounds) ∨
    (¬ MissesTable d s ∧ ∃ g, d.elements.foldlM placeElements (allocate d s) = .ok g ∧
      g.extent = (allocate d s).extent) := by
  refine foldlM_decided (I := fun g : Guest => g.extent = (allocate d s).extent) (fun g e hg he => ?_)
    (fun g e hg he => ?_) d.elements rfl
  · obtain ⟨g', hok, hg'⟩ := placeElements_of_holds ((holdsElements_congr hg e).2 he)
    exact ⟨g', hok, hg'.trans hg⟩
  · exact placeElements_of_not_holds (mt (holdsElements_congr hg e).1 he)

lemma placeData_all (hg : g.extent = (allocate d s).extent) :
    (MissesMemory d s ∧ d.datas.foldlM placeData g = .error .memoryOutOfBounds) ∨
    (¬ MissesMemory d s ∧ ∃ g', d.datas.foldlM placeData g = .ok g' ∧
      g'.extent = (allocate d s).extent) := by
  refine foldlM_decided (I := fun g : Guest => g.extent = (allocate d s).extent) (fun g e hg he => ?_)
    (fun g e hg he => ?_) d.datas hg
  · obtain ⟨g', hok, hg'⟩ := placeData_of_holds ((holdsData_congr hg e).2 he)
    exact ⟨g', hok, hg'.trans hg⟩
  · exact placeData_of_not_holds (mt (holdsData_congr hg e).1 he)

/-- How the segments are copied, in three cases. -/
lemma populate_cases (d : Definition) (s : Supplied) :
    (MissesTable d s ∧ populate d s = .error .tableOutOfBounds) ∨
    (¬ MissesTable d s ∧ MissesMemory d s ∧ populate d s = .error .memoryOutOfBounds) ∨
    (¬ MissesTable d s ∧ ¬ MissesMemory d s ∧ ∃ g, populate d s = .ok g) := by
  unfold populate
  obtain ⟨hmiss, herror⟩ | ⟨hfit, g, hok, hg⟩ := placeElements_all d s
  · exact .inl ⟨hmiss, by rw [herror]; rfl⟩
  · rw [hok]
    obtain ⟨hmiss, herror⟩ | ⟨hfit', g', hok', -⟩ := placeData_all hg
    · exact .inr (.inl ⟨hfit, hmiss, herror⟩)
    · exact .inr (.inr ⟨hfit, hfit', g', hok'⟩)

/-- **There is a first state exactly if all active segments fit.** -/
theorem exists_populate_iff :
    (∃ g, populate d s = .ok g) ↔ ¬ MissesTable d s ∧ ¬ MissesMemory d s := by
  obtain ⟨hmiss, h⟩ | ⟨hfit, hmiss, h⟩ | ⟨hfit, hfit', h⟩ := populate_cases d s
  · simp [h, hmiss]
  · simp [h, hmiss]
  · simp [h, hfit, hfit']

/-- The tables are looked at before the memories. -/
theorem populate_eq_error_iff :
    populate d s = .error t ↔
      (MissesTable d s ∧ t = .tableOutOfBounds) ∨
      (¬ MissesTable d s ∧ MissesMemory d s ∧ t = .memoryOutOfBounds) := by
  obtain ⟨hmiss, h⟩ | ⟨hfit, hmiss, h⟩ | ⟨hfit, hfit', g, h⟩ := populate_cases d s
  · simp [h, hmiss, eq_comm]
  · simp [h, hfit, hmiss, eq_comm]
  · simp [h, hfit, hfit']

end Embedder.Execution.Guest
