import Embedder.Proofs.Execution.HostCalls
import Embedder.Proofs.Lists
import Embedder.World

/-!
# What no run changes

An operation, a call or an action takes instances from their rest and puts them back. It neither
adds nor removes one, and it leaves their programs and imports as they are.

* `World.outline`: the fixed parts of all instances, and which of them are at rest;
* `World.Invariant`, `World.Invariant.run`: what every step of an action keeps, the action keeps;
* `World.outline_run`, `World.outline_callWithin`, `World.outline_perform`: the outline is kept,
  however the run ends.
-/

namespace Embedder

open Execution (Program Guest Machine HostCall)

variable {σ α : Type}

/-! ### Outlines -/

/-- The fixed parts of an instance, and whether it is at rest. -/
structure Outline (σ : Type) where
  program : Program
  imported : Array (Imported σ)
  boundMemory : Option Nat
  exportedMemory : Option Nat
  atRest : Bool

def Slot.outline (s : Slot σ) : Outline σ :=
  ⟨s.program, s.imported, s.boundMemory, s.exportedMemory, s.guest.isSome⟩

namespace World

variable (w : World σ) (n : Nat)

def outline : Array (Outline σ) := w.slots.map Slot.outline

@[simp] lemma size_outline : w.outline.size = w.slots.size := by simp [outline]

lemma outline_getElem? : w.outline[n]? = (w.slots[n]?).map Slot.outline := by simp [outline]

/-- The outline tells which instances are at rest. -/
lemma isSome_guest?_eq : (w.guest? n).isSome = (w.outline[n]?).any Outline.atRest := by
  rw [guest?, outline_getElem?]
  cases w.slots[n]? <;> rfl

lemma isSome_guest?_congr {v : World σ} (h : v.outline = w.outline) :
    (v.guest? n).isSome = (w.guest? n).isSome := by
  rw [isSome_guest?_eq, isSome_guest?_eq, h]

lemma size_congr {v : World σ} (h : v.outline = w.outline) : v.slots.size = w.slots.size := by
  rw [← size_outline, h, size_outline]

/-! ### Single changes -/

@[simp] lemma outline_setSystem (system : Wasi.System) :
    ({ w with system } : World σ).outline = w.outline := rfl

/-- A change of one slot as the outline shows it. -/
lemma outline_modify {change : Slot σ → Slot σ} {shown : Outline σ → Outline σ}
    (h : ∀ s, (change s).outline = shown s.outline) :
    ({ w with slots := w.slots.modify n change } : World σ).outline = w.outline.modify n shown :=
  Elementwise.map_modify h

@[simp] lemma outline_setContext (c : Wasi.Context) : (w.setContext n c).outline = w.outline := by
  have h : (w.setContext n c).outline = w.outline.modify n id := outline_modify w n fun _ => rfl
  rw [h, Elementwise.modify_id]

lemma outline_setGuest (g : Option Guest) :
    (w.setGuest n g).outline = w.outline.modify n fun o => { o with atRest := g.isSome } :=
  outline_modify w n fun _ => rfl

lemma guest?_setGuest (g : Option Guest) (i : Nat) :
    (w.setGuest n g).guest? i = if n = i ∧ n < w.slots.size then g else w.guest? i := by
  unfold guest? setGuest
  rw [Array.getElem?_modify]
  by_cases hn : n = i
  · subst hn
    by_cases hs : n < w.slots.size
    · simp [hs]
    · simp [hs]
  · simp [hn]

lemma guest?_setContext (c : Wasi.Context) (i : Nat) :
    (w.setContext n c).guest? i = w.guest? i := by
  unfold guest? setContext
  rw [Array.getElem?_modify]
  split
  · cases w.slots[i]? <;> rfl
  · rfl

@[simp] lemma size_setGuest (g : Option Guest) : (w.setGuest n g).slots.size = w.slots.size := by
  simp [setGuest]

lemma slots_setGuest_self {w : World σ} {n : Nat} {s : Slot σ} (hs : w.slots[n]? = some s)
    (g : Option Guest) : (w.setGuest n g).slots[n]? = some { s with guest := g } := by
  simp [setGuest, Array.getElem?_modify, hs]

/-- Worlds of one outline have the same instances, in whatever state. -/
lemma exists_slot {w w' : World σ} (h : w'.outline = w.outline) {n : Nat} {s : Slot σ}
    (hs : w.slots[n]? = some s) : ∃ s', w'.slots[n]? = some s' ∧ s'.outline = s.outline := by
  have hshown := outline_getElem? w' n
  rw [h, outline_getElem?, hs, Option.map_some] at hshown
  obtain ⟨s', hs', houtline⟩ := Option.map_eq_some_iff.1 hshown.symm
  exact ⟨s', hs', houtline⟩

/-- An instance that was taken from its rest is put back. -/
lemma outline_rest {v : World σ} {g g' : Guest} (hg : w.guest? n = some g)
    (hv : v.outline = (w.setGuest n none).outline) :
    (v.setGuest n (some g')).outline = w.outline := by
  have hrest : (w.outline[n]?).any Outline.atRest = true := by
    rw [← isSome_guest?_eq, hg]
    rfl
  rw [outline_setGuest, hv, outline_setGuest, Elementwise.modify_modify]
  refine Elementwise.modify_eq_self fun o ho => ?_
  rw [ho] at hrest
  obtain ⟨p, imported, bound, exported, atRest⟩ := o
  cases hrest
  rfl

lemma setGuest_setGuest (g g' : Option Guest) :
    (w.setGuest n g).setGuest n g' = w.setGuest n g' := by
  unfold setGuest
  rw [Elementwise.modify_modify]
  rfl

/-- An instance that is at rest is left as it is. -/
lemma setGuest_self {g : Guest} (h : w.guest? n = some g) : w.setGuest n (some g) = w := by
  unfold setGuest
  rw [Elementwise.modify_eq_self fun s hs => ?_]
  rw [guest?, hs] at h
  exact congrArg (fun x => { s with guest := x }) h.symm

/-- An operation on an instance at rest. -/
lemma operate_of_guest? {g : Guest} (h : w.guest? n = some g) (o : Operation) :
    w.operate n o = (some (o.perform g).1, w.setGuest n (some (o.perform g).2)) := by
  simp only [operate, h, setGuest_setGuest]

lemma lt_size_of_guest? {g : Guest} (h : w.guest? n = some g) : n < w.slots.size := by
  obtain ⟨s, hs, -⟩ := Option.bind_eq_some_iff.1 h
  exact (Array.getElem?_eq_some_iff.1 hs).1

end World

namespace World

/-! ### Operations and actions -/

@[simp] lemma outline_operate (w : World σ) (n : Nat) (o : Operation) :
    (w.operate n o).2.outline = w.outline := by
  unfold operate
  cases hg : w.guest? n with
  | none => rfl
  | some g => exact outline_rest w n hg rfl

variable {calls : Calls σ}

/-- What every step of an action keeps, of the instance that calls the action and of the world. -/
structure Invariant (calls : Calls σ) (R : Guest → World σ → Prop) : Prop where
  host : ∀ {g : Guest} {w : World σ} (host : σ), R g w → R g { w with host }
  request : ∀ {g : Guest} {w : World σ} (memory : Option Nat) (r : MemoryRequest), R g w →
    R (request memory r g).2 w
  operate : ∀ {g : Guest} {w : World σ} (n : Nat) (o : Operation), R g w → R g (w.operate n o).2
  calls : ∀ {g : Guest} {w : World σ} (f : Address) (arguments : List Value), R g w →
    R g (calls f arguments w).2

namespace Invariant

variable {R : Guest → World σ → Prop} {g : Guest} {w : World σ}

/-- **What every step keeps, an action keeps**, however it ends. -/
theorem run (hR : Invariant calls R) (memory : Option Nat) (a : Action σ α) (h : R g w) :
    R (run calls memory a g w).2.1 (run calls memory a g w).2.2 := by
  induction a generalizing g w with
  | done a => exact h
  | fail message => exact h
  | panic => exact h
  | update change next ih => exact ih _ (hR.host _ h)
  | memory r next ih => exact ih _ (hR.request memory r h)
  | operate owner o next ih => exact ih _ (hR.operate owner o h)
  | call f arguments next ih =>
    have hf := hR.calls f arguments h
    unfold World.run
    generalize calls f arguments w = answered at hf
    obtain ⟨answer, w'⟩ := answered
    cases answer with
    | busy => exact ih none hf
    | panicked => exact hf
    | ended r => exact ih (some r) hf

/-- So does a function of the host, which does no more than that. -/
theorem callHost (hR : Invariant calls R) (memory : Option Nat) (f : HostFunction σ)
    (arguments : List Cell) (h : R g w) :
    R (callHost calls memory f arguments g w).guest (callHost calls memory f arguments g w).world := by
  unfold World.callHost
  cases arguments.mapM Cell.toValue? with
  | none => exact h
  | some values =>
    have hrun := hR.run (if f.usesMemory then memory else none) (f.body values) h
    simp only
    split
    · exact h
    · split <;> simp_all

end Invariant

/-- Calls that keep the outline. -/
def Steady (calls : Calls σ) : Prop :=
  ∀ f arguments w, (calls f arguments w).2.outline = w.outline

lemma invariant_outline (hc : Steady calls) (w : World σ) :
    Invariant calls fun _ v => v.outline = w.outline where
  host _ h := h
  request _ _ h := h
  operate n o h := (outline_operate _ n o).trans h
  calls f arguments h := (hc f arguments _).trans h

theorem outline_run (hc : Steady calls) (memory : Option Nat) (a : Action σ α) (g : Guest)
    (w : World σ) : (run calls memory a g w).2.2.outline = w.outline :=
  (invariant_outline hc w).run memory a rfl

/-! ### Imported functions -/

lemma outline_callGenerated (owner : Nat) (c : Wasi.Context) (memory : Option Nat)
    (v : Wasi.Version) (f : Wasi.Function) (arguments : List Cell) (g : Guest) (w : World σ) :
    (callGenerated owner c memory v f arguments g w).world.outline = w.outline := by
  unfold callGenerated
  split
  · rfl
  · simp

lemma outline_hostCall (hc : Steady calls) (owner : Nat) (direct : Bool) (k : Nat)
    (arguments : List Cell) (g : Guest) (w : World σ) :
    (hostCall calls owner direct k arguments g w).world.outline = w.outline := by
  unfold hostCall
  split
  · rfl
  · exact (invariant_outline hc w).callHost _ _ _ rfl
  · exact outline_callGenerated ..

/-- A function of the system interface is called on the memory that its caller exports. -/
lemma hostCall_of_generated {w : World σ} {n k j : Nat} {s : Slot σ} {v : Wasi.Version}
    {f : Wasi.Function} {cells : List Cell} {g : Guest} {m : Memory}
    {r : Except Execution.Stop (List Cell)} {t : Wasi.CallState} (hs : w.slots[n]? = some s)
    (hk : s.imported[k]? = some (.generated v f)) (hj : s.exportedMemory = some j)
    (hm : g.memories[j]? = some m) (h : f.call v cells ⟨m, s.context, w.system⟩ = (r, t))
    (calls : Calls σ) :
    hostCall calls n false k cells g w =
      ⟨r, { g with memories := g.memories.setIfInBounds j t.memory },
        { w with system := t.system }.setContext n t.context⟩ := by
  simp [hostCall, hs, hk, hj, callGenerated, hm, h]

/-! ### Calls to instances -/

lemma outline_enter (hc : Steady calls) (f : Address) (p : Program) (arguments : List Value)
    (g : Guest) (w : World σ) : (enter calls f p arguments g w).world.outline = w.outline := by
  unfold enter
  simp only
  split
  · split
    · exact outline_hostCall hc ..
    · exact Execution.run_keeps outline (outline_hostCall hc f.owner false) ..
  · rfl

lemma callWithin_none (depth : Nat) {f : Address} (arguments : List Value) {w : World σ}
    (h : w.guest? f.owner = none) : callWithin depth f arguments w = (.busy, w) := by
  cases depth with
  | zero => rfl
  | succ depth =>
    unfold callWithin
    cases hs : w.slots[f.owner]? with
    | none => rfl
    | some s =>
      have hg : s.guest = none := by simpa [guest?, hs] using h
      simp [hg]

lemma callWithin_some (depth : Nat) {f : Address} (arguments : List Value) {w : World σ}
    {s : Slot σ} {g : Guest} (hs : w.slots[f.owner]? = some s) (hg : s.guest = some g) :
    callWithin (depth + 1) f arguments w =
      let o := enter (callWithin depth) f s.program arguments g (w.setGuest f.owner none)
      (answerOf o.result, o.world.setGuest f.owner (some o.guest)) := by
  simp [callWithin, hs, hg]

/-- However a call ends, exactly the instances that were at rest before it are at rest again. -/
theorem outline_callWithin (depth : Nat) : Steady (callWithin depth : Calls σ) := by
  induction depth with
  | zero => exact fun _ _ _ => rfl
  | succ depth ih =>
    intro f arguments w
    cases hguest : w.guest? f.owner with
    | none => rw [callWithin_none _ arguments hguest]
    | some g =>
      obtain ⟨s, hs, hg⟩ := Option.bind_eq_some_iff.1 hguest
      rw [callWithin_some depth arguments hs hg]
      exact outline_rest w f.owner hguest (outline_enter ih ..)

theorem outline_perform (w : World σ) (a : Action σ α) : (w.perform a).2.outline = w.outline :=
  outline_run (outline_callWithin _) none a _ w

end World

end Embedder
