import Embedder.Proofs.Execution.HostCalls
import Embedder.Execution.Machine
import Mathlib.Order.Defs.Unbundled

/-!
# Memories only grow

Code writes to memories and grows them, and nothing else happens to their sizes: a memory never gets
smaller, and it does not get larger than its limit. Vector and atomic accesses are left out: a run ends
where it comes to one.

* `Memory.get_grow`: growing keeps the bytes, and new ones are zero;
* `Memory.Grows`, `Guest.Grows`: what may become of a memory, and of all that an instance owns;
* `Machine.step_grows`: what one step preserves;
* `HostCall.Grows`, `run_grows`: a run preserves it with a host that does;
* `CallsHost.grows`, `CallsHost.grows_run`: so does the part of a run before a call to the host, and
  the part after it;
* `CallsTwice`: one call to the host comes after another one.
-/

namespace Embedder

open Execution (Guest)

namespace Memory

variable {m m' : Memory}

/-! ### Bytes of a larger memory -/

/-- Outside of the memory there are zeros only. -/
lemma get_of_byteSize_le {a : Nat} (h : m.byteSize ≤ a) : m.get a = 0 := by
  have hpage : m.pages.size ≤ a / pageSize := (Nat.le_div_iff_mul_le (by decide)).2 h
  unfold get
  rw [Array.getElem?_eq_none hpage]

/-- Growing keeps the bytes, and new ones are zero. -/
theorem get_grow (m : Memory) (delta a : Nat) : (m.grow delta).get a = m.get a := by
  by_cases hpage : a / pageSize < m.pages.size
  · simp only [get, grow, Array.getElem?_append_left hpage]
  · have hpage : m.pages.size ≤ a / pageSize := Nat.le_of_not_lt hpage
    have hold : m.byteSize ≤ a := (Nat.le_div_iff_mul_le (by decide)).1 hpage
    rw [get_of_byteSize_le hold]
    simp only [get, grow, Array.getElem?_append_right hpage, Array.getElem?_replicate]
    split
    · rename_i page hnew
      split at hnew
      · cases hnew
        simp [Page.zero]
      · cases hnew
    · rfl

/-! ### Growth -/

/-- What may become of a memory: it does not get smaller, nor larger than its limit, which stays. -/
structure Grows (m m' : Memory) : Prop where
  maximum : m'.maximum = m.maximum
  size_le : m.size ≤ m'.size
  le_limit : m'.size ≤ max m.size m.limit

lemma Grows.refl (m : Memory) : m.Grows m := ⟨rfl, Nat.le_refl _, Nat.le_max_left ..⟩

lemma Grows.limit_eq (h : m.Grows m') : m'.limit = m.limit := by
  unfold limit
  rw [h.maximum]

lemma Grows.trans {m'' : Memory} (h : m.Grows m') (h' : m'.Grows m'') : m.Grows m'' := by
  refine ⟨h'.maximum.trans h.maximum, Nat.le_trans h.size_le h'.size_le, ?_⟩
  have hle := h'.le_limit
  rw [h.limit_eq] at hle
  have := h.le_limit
  omega

/-- A memory of the same size and the same maximum. -/
lemma Grows.of_eq (hs : m'.size = m.size) (hm : m'.maximum = m.maximum) : m.Grows m' :=
  ⟨hm, Nat.le_of_eq hs.symm, Nat.le_trans (Nat.le_of_eq hs) (Nat.le_max_left ..)⟩

lemma maximum_write (m : Memory) (start : Nat) (bs : List UInt8) :
    (m.write start bs).maximum = m.maximum := by
  induction bs generalizing m start with
  | nil => rfl
  | cons b bs ih => exact ih (m.set start b) (start + 1)

lemma maximum_fill (m : Memory) (start : Nat) (b : UInt8) (length : Nat) :
    (m.fill start b length).maximum = m.maximum := by
  induction length generalizing m start with
  | zero => rfl
  | succ length ih => exact ih (m.set start b) (start + 1)

lemma grows_write (m : Memory) (start : Nat) (bs : List UInt8) : m.Grows (m.write start bs) :=
  .of_eq (m.size_write start bs) (m.maximum_write start bs)

lemma grows_fill (m : Memory) (start : Nat) (b : UInt8) (length : Nat) :
    m.Grows (m.fill start b length) :=
  .of_eq (m.size_fill start b length) (m.maximum_fill start b length)

lemma grows_grow {delta : Nat} (h : m.canGrow delta = true) : m.Grows (m.grow delta) := by
  have hle : m.size + delta ≤ m.limit := of_decide_eq_true h
  refine ⟨rfl, ?_, ?_⟩
  · rw [size_grow]
    exact Nat.le_add_right ..
  · rw [size_grow]
    exact Nat.le_trans hle (Nat.le_max_right ..)

end Memory

namespace Execution

variable {g g' : Guest}

/-! ### All that an instance owns -/

/-- What may become of the memories of an instance. -/
def Guest.Grows (g g' : Guest) : Prop :=
  ∀ (i : Nat) (m : Memory), g.memories[i]? = some m → ∃ m', g'.memories[i]? = some m' ∧ m.Grows m'

namespace Guest

lemma Grows.refl (g : Guest) : g.Grows g := fun _ m hm => ⟨m, hm, .refl m⟩

lemma Grows.trans {g'' : Guest} (h : g.Grows g') (h' : g'.Grows g'') : g.Grows g'' := by
  intro i m hm
  obtain ⟨m', hm', hgrows⟩ := h i m hm
  obtain ⟨m'', hm'', hgrows'⟩ := h' i m' hm'
  exact ⟨m'', hm'', hgrows.trans hgrows'⟩

lemma Grows.of_eq (h : g'.memories = g.memories) : g.Grows g' :=
  fun _ m hm => ⟨m, h ▸ hm, .refl m⟩

/-- One memory changes so, and the others stay. -/
lemma grows_changeMemory {i : Nat} {f : Memory → Memory}
    (hf : ∀ m, g.memories[i]? = some m → m.Grows (f m)) :
    g.Grows (Machine.changeMemory g i f) := by
  intro j m hm
  simp only [Machine.changeMemory, Array.getElem?_modify, hm]
  split
  · rename_i hij
    exact ⟨f m, rfl, hf m (hij ▸ hm)⟩
  · exact ⟨m, rfl, .refl m⟩

/-- A memory is replaced by one of the same size and the same maximum. -/
lemma grows_setMemory {i : Nat} {m m' : Memory} (hm : g.memories[i]? = some m)
    (hs : m'.size = m.size) (hmax : m'.maximum = m.maximum) :
    g.Grows { g with memories := g.memories.setIfInBounds i m' } := by
  intro j m₁ hm₁
  simp only [Array.getElem?_setIfInBounds]
  split
  · rename_i hij
    subst hij
    obtain rfl := Option.some.inj (hm.symm.trans hm₁)
    have hlt : i < g.memories.size := (Array.getElem?_eq_some_iff.1 hm).1
    exact ⟨m', by rw [if_pos hlt], .of_eq hs hmax⟩
  · exact ⟨m₁, hm₁, .refl m₁⟩

end Guest

/-! ### Steps -/

/-- The state that a step leaves. -/
def Step.guest : Step → Guest
  | .next _ g | .host _ _ _ g | .finished _ g | .fault _ g => g

namespace Machine

variable {p : Program} {m : Machine}

lemma onMemory_grows (o : Op) (stack : List Cell) (g : Guest) :
    g.Grows (onMemory o stack g).2 := by
  unfold onMemory
  split
  -- memory.grow is the only one that changes a size
  case h_4 i delta s =>
    cases hm : g.memories[i]? with
    | none => exact .refl g
    | some m =>
      cases hgrow : m.canGrow delta.toNat with
      | true =>
        simp only [Option.map_some, hgrow]
        refine Guest.grows_changeMemory fun m' hm' => ?_
        cases hm.symm.trans hm'
        exact Memory.grows_grow hgrow
      | false =>
        simp only [Option.map_some, hgrow]
        exact .refl g
  all_goals
    simp -failIfUnchanged only
    repeat' split
  all_goals first
    | exact .of_eq rfl
    | exact Guest.grows_changeMemory fun m _ => m.grows_write ..
    | exact Guest.grows_changeMemory fun m _ => m.grows_fill ..

lemma memories_onTable (o : Op) (stack : List Cell) (g : Guest) :
    (onTable o stack g).2.memories = g.memories := by
  unfold onTable
  split
  all_goals
    simp -failIfUnchanged only
    repeat' split
  all_goals rfl

lemma guest_after (m : Machine) (rest : Code) (e : Effect) : (m.after rest e).guest = e.2 := by
  obtain ⟨result, g⟩ := e
  cases result <;> rfl

lemma guest_leave (m : Machine) (g : Guest) : (m.leave g).guest = g := by
  unfold leave
  simp only
  split <;> rfl

lemma guest_branch (m : Machine) (g : Guest) (n : Nat) : (m.branch g n).guest = g := by
  unfold branch
  split
  · rfl
  · exact guest_leave m g

lemma guest_call (p : Program) (m : Machine) (g : Guest) (f : Nat) : (m.call p g f).guest = g := by
  unfold call
  simp -failIfUnchanged only
  repeat' split
  all_goals rfl

lemma guest_tailCall (p : Program) (m : Machine) (g : Guest) (f : Nat) :
    (m.tailCall p g f).guest = g := by
  unfold tailCall
  simp -failIfUnchanged only
  repeat' split
  all_goals rfl

lemma guest_onLocal (m : Machine) (g : Guest) (rest : Code) (o : Op) :
    (m.onLocal g rest o).guest = g := by
  unfold onLocal
  simp -failIfUnchanged only
  repeat' split
  all_goals rfl

lemma guest_onControl (p : Program) (m : Machine) (g : Guest) (o : Op) :
    (m.onControl p g o).guest = g := by
  unfold onControl
  split
  all_goals
    simp -failIfUnchanged only
    repeat' split
  all_goals first
    | rfl
    | exact guest_branch ..
    | exact guest_leave ..
    | exact guest_call ..
    | exact guest_tailCall ..

lemma guest_enter (p : Program) (m : Machine) (g : Guest) (type : BlockType) (body rest : Code) :
    (enter p m g type body rest).guest = g := by
  unfold enter
  split <;> rfl

lemma guest_enterLoop (p : Program) (m : Machine) (g : Guest) (type : BlockType)
    (body rest : Code) : (enterLoop p m g type body rest).guest = g := by
  unfold enterLoop
  split <;> rfl

lemma guest_close (m : Machine) (g : Guest) : (m.close g).guest = g := by
  unfold close
  split
  · rfl
  · exact guest_leave m g

lemma stepOp_grows (p : Program) (m : Machine) (g : Guest) (o : Op) (rest : Code) :
    g.Grows (stepOp p m g o rest).guest := by
  have hcontrol : g.Grows
      (onControl p { m with current := { m.current with code := rest } } g o).guest :=
    .of_eq (congrArg Guest.memories (guest_onControl ..))
  have hlocal : g.Grows (onLocal m g rest o).guest :=
    .of_eq (congrArg Guest.memories (guest_onLocal ..))
  have hmemory : g.Grows (after m rest (onMemory o m.current.stack g)).guest := by
    rw [guest_after]
    exact onMemory_grows o _ g
  have htable : g.Grows (after m rest (onTable o m.current.stack g)).guest := by
    rw [guest_after]
    exact .of_eq (memories_onTable o _ g)
  have hstack : g.Grows (after m rest (onStack o m.current.stack, g)).guest := by
    rw [guest_after]
    exact .refl g
  unfold stepOp
  split
  all_goals first | exact hcontrol | exact hlocal | exact hmemory | exact htable | exact hstack

/-- **One step lets memories grow at most.** -/
theorem step_grows (p : Program) (m : Machine) (g : Guest) : g.Grows (m.step p g).guest := by
  unfold step
  cases m.current.code with
  | done => exact .of_eq (congrArg Guest.memories (guest_close ..))
  | op o rest => exact stepOp_grows p m g o rest
  | block type body rest => exact .of_eq (congrArg Guest.memories (guest_enter ..))
  | loop type body rest => exact .of_eq (congrArg Guest.memories (guest_enterLoop ..))
  | ifThen type yes rest =>
    simp only
    split
    · split <;> exact .of_eq (congrArg Guest.memories (guest_enter ..))
    · exact .refl g
  | ifElse type yes no rest =>
    simp only
    split
    · split <;> exact .of_eq (congrArg Guest.memories (guest_enter ..))
    · exact .refl g

end Machine

/-! ### Runs -/

section Runs

variable {W : Type} {p : Program} {m : Machine} {w : W} {fuel : Nat}

/-- The host lets memories grow at most, and its own state only comes to states that `S` allows. -/
def HostCall.Grows (S : W → W → Prop) (host : HostCall W) : Prop :=
  ∀ k arguments g w, g.Grows (host k arguments g w).guest ∧ S w (host k arguments g w).world

variable {S : W → W → Prop} [IsPreorder W S] {host : HostCall W}

/-- **A run lets memories grow at most**, however it ends. -/
theorem run_grows (hh : HostCall.Grows S host) (fuel : Nat) (m : Machine) (g : Guest) (w : W) :
    g.Grows (run p host fuel m g w).guest ∧ S w (run p host fuel m g w).world := by
  induction fuel generalizing m g w with
  | zero => exact ⟨.refl g, refl_of S w⟩
  | succ fuel ih =>
    have hstep := m.step_grows p g
    unfold run
    generalize m.step p g = s at hstep
    cases s with
    | next m' g' =>
      obtain ⟨hg, hw⟩ := ih m' g' w
      exact ⟨hstep.trans hg, hw⟩
    | finished results g' => exact ⟨hstep, refl_of S w⟩
    | fault e g' => exact ⟨hstep, refl_of S w⟩
    | host k arguments m' g' =>
      have hcall := hh k arguments g' w
      simp only
      cases hr : host k arguments g' w with
      | mk result g₂ w₂ =>
        rw [hr] at hcall
        cases result with
        | ok results =>
          obtain ⟨hg, hw⟩ := ih (m'.resume results) g₂ w₂
          exact ⟨(Guest.Grows.trans hstep hcall.1).trans hg, trans_of S hcall.2 hw⟩
        | error s => exact ⟨Guest.Grows.trans hstep hcall.1, hcall.2⟩

/-! ### Between the calls of a run -/

variable {k k' : Nat} {arguments arguments' : List Cell} {g₁ g₂ : Guest} {w₁ w₂ : W}

/-- From the beginning of a run to a call. -/
theorem CallsHost.grows (hh : HostCall.Grows S host)
    (h : CallsHost p host k arguments g₁ w₁ m g w) : g.Grows g₁ ∧ S w w₁ := by
  induction h with
  | @now m m' g' hs =>
    have hstep := m.step_grows p g'
    rw [hs] at hstep
    exact ⟨hstep, refl_of S _⟩
  | @next m m' g' g₃ w' hs hc ih =>
    have hstep := m.step_grows p g'
    rw [hs] at hstep
    exact ⟨Guest.Grows.trans hstep ih.1, ih.2⟩
  | @later m m' g' g₃ g₄ w' w₄ k' arguments' results hs hr hc ih =>
    have hstep := m.step_grows p g'
    rw [hs] at hstep
    have hcall := hh k' arguments' g₃ w'
    rw [hr] at hcall
    exact ⟨(Guest.Grows.trans hstep hcall.1).trans ih.1, trans_of S hcall.2 ih.2⟩

/-- From the end of a call to the end of the run, unless the run is cut off. -/
theorem CallsHost.grows_run (hh : HostCall.Grows S host)
    (h : CallsHost p host k arguments g₁ w₁ m g w)
    (hfuel : (run p host fuel m g w).result ≠ .error .outOfFuel) :
    (host k arguments g₁ w₁).guest.Grows (run p host fuel m g w).guest ∧
      S (host k arguments g₁ w₁).world (run p host fuel m g w).world := by
  induction h generalizing fuel with
  | @now m m' g' hs =>
    cases fuel with
    | zero => exact absurd rfl hfuel
    | succ fuel =>
      unfold run
      simp only [hs]
      cases hr : host k arguments g₁ w₁ with
      | mk result g₂ w₂ =>
        cases result with
        | ok results => exact run_grows hh fuel (m'.resume results) g₂ w₂
        | error s => exact ⟨.refl g₂, refl_of S w₂⟩
  | next hs hc ih =>
    cases fuel with
    | zero => exact absurd rfl hfuel
    | succ fuel =>
      unfold run at hfuel ⊢
      simp only [hs] at hfuel ⊢
      exact ih hfuel
  | later hs hr hc ih =>
    cases fuel with
    | zero => exact absurd rfl hfuel
    | succ fuel =>
      unfold run at hfuel ⊢
      simp only [hs, hr] at hfuel ⊢
      exact ih hfuel

/-- A run comes to one call to the host and, after it has returned, to another one. -/
inductive CallsTwice (p : Program) (host : HostCall W) (k : Nat) (arguments : List Cell)
    (g₁ : Guest) (w₁ : W) (k' : Nat) (arguments' : List Cell) (g₂ : Guest) (w₂ : W) :
    Machine → Guest → W → Prop
  | now {m m' : Machine} {g g' : Guest} {w' : W} {results : List Cell}
      (h : m.step p g = .host k arguments m' g₁)
      (hr : host k arguments g₁ w₁ = ⟨.ok results, g', w'⟩)
      (hc : CallsHost p host k' arguments' g₂ w₂ (m'.resume results) g' w') :
      CallsTwice p host k arguments g₁ w₁ k' arguments' g₂ w₂ m g w₁
  | next {m m' : Machine} {g g' : Guest} {w : W} (h : m.step p g = .next m' g')
      (hc : CallsTwice p host k arguments g₁ w₁ k' arguments' g₂ w₂ m' g' w) :
      CallsTwice p host k arguments g₁ w₁ k' arguments' g₂ w₂ m g w
  | later {m m' : Machine} {g g' g'' : Guest} {w w' : W} {j : Nat} {cells results : List Cell}
      (h : m.step p g = .host j cells m' g') (hr : host j cells g' w = ⟨.ok results, g'', w'⟩)
      (hc : CallsTwice p host k arguments g₁ w₁ k' arguments' g₂ w₂ (m'.resume results) g'' w') :
      CallsTwice p host k arguments g₁ w₁ k' arguments' g₂ w₂ m g w

/-- When the first call has returned, the run comes to the second one from there. -/
lemma CallsTwice.exists_callsHost
    (h : CallsTwice p host k arguments g₁ w₁ k' arguments' g₂ w₂ m g w) :
    ∃ m', CallsHost p host k' arguments' g₂ w₂ m' (host k arguments g₁ w₁).guest
      (host k arguments g₁ w₁).world := by
  induction h with
  | now hs hr hc =>
    rw [hr]
    exact ⟨_, hc⟩
  | next hs hc ih => exact ih
  | later hs hr hc ih => exact ih

end Runs

end Execution

end Embedder
