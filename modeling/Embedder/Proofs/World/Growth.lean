import Embedder.Proofs.Wasi.MemorySize
import Embedder.Proofs.World.History

/-!
# Memories only grow, whatever a host does

An instance at rest is found at rest again, and its memories have grown at most in between, whatever
operations, calls, traps, failures and new instances there were.

* `World.Grows`: what may become of the instances at rest;
* `World.run_grows`, `World.callWithin_grows`, `World.instantiate_grows`: actions, calls and new
  instances;
* `World.Leads.grows`: whatever happens to a world.
-/

namespace Embedder

open Execution (Program Guest Machine HostCall Outcome Stop)

variable {σ α : Type}

/-! ### Operations and requests -/

lemma Operation.perform_grows (o : Operation) (g : Guest) : g.Grows (o.perform g).2 := by
  cases o with
  | memoryGrow i delta =>
    unfold perform
    simp only
    split
    · rename_i size hgrow
      obtain ⟨m, hm, heq⟩ := Option.map_eq_some_iff.1 hgrow
      refine Guest.grows_changeMemory fun m' hm' => ?_
      cases hm.symm.trans hm'
      exact Memory.grows_grow (congrArg Prod.snd heq)
    · exact .refl g
  | memoryWrite i start bytes =>
    unfold perform
    simp only
    split
    · exact Guest.grows_changeMemory fun m _ => m.grows_write ..
    · exact .refl g
  | globalSet i v =>
    unfold perform
    simp only
    split
    · exact .of_eq rfl
    · exact .refl g
  | _ => exact .refl g

namespace World

lemma request_grows (memory : Option Nat) (r : MemoryRequest) (g : Guest) :
    g.Grows (request memory r g).2 := by
  unfold request
  split
  · exact .refl g
  · exact .refl g
  · exact Operation.perform_grows _ g
  · exact .refl g
  · exact Operation.perform_grows _ g
  · exact .refl g

/-! ### Worlds -/

/-- An instance that is at rest in the first world is at rest in the second, and its memories have
grown at most. -/
def Grows (w v : World σ) : Prop :=
  ∀ n g, w.guest? n = some g → ∃ g', v.guest? n = some g' ∧ g.Grows g'

variable {w v u : World σ} {calls : Calls σ}

lemma Grows.of_eq (h : ∀ n, v.guest? n = w.guest? n) : w.Grows v :=
  fun n g hg => ⟨g, (h n).trans hg, .refl g⟩

lemma Grows.refl (w : World σ) : w.Grows w := .of_eq fun _ => rfl

lemma Grows.trans (h : w.Grows v) (h' : v.Grows u) : w.Grows u := by
  intro n g hg
  obtain ⟨g', hg', hgrows⟩ := h n g hg
  obtain ⟨g'', hg'', hgrows'⟩ := h' n g' hg'
  exact ⟨g'', hg'', hgrows.trans hgrows'⟩

instance : IsPreorder (World σ) Grows where
  refl := .refl
  trans _ _ _ := .trans

/-- If the same instances are at rest, the second world tells of the first. -/
lemma Grows.exists_before (h : w.Grows v) (ho : v.outline = w.outline) {n : Nat} {g' : Guest}
    (hg' : v.guest? n = some g') : ∃ g, w.guest? n = some g ∧ g.Grows g' := by
  have hsome : (w.guest? n).isSome = true := by
    rw [← isSome_guest?_congr w n ho, hg']
    rfl
  obtain ⟨g, hg⟩ := Option.isSome_iff_exists.1 hsome
  obtain ⟨g'', hg'', hgrows⟩ := h n g hg
  cases hg'.symm.trans hg''
  exact ⟨g, hg, hgrows⟩

/-- An instance is put back to its rest. -/
lemma Grows.rest {n : Nat} {g g' : Guest} (h : (w.setGuest n none).Grows v)
    (hg : w.guest? n = some g) (hgrows : g.Grows g')
    (ho : v.outline = (w.setGuest n none).outline) : w.Grows (v.setGuest n (some g')) := by
  have hsize : n < v.slots.size := by
    rw [size_congr _ ho, size_setGuest]
    exact lt_size_of_guest? w n hg
  intro i gᵢ hi
  rw [guest?_setGuest]
  by_cases hin : n = i
  · subst hin
    cases hg.symm.trans hi
    exact ⟨g', if_pos ⟨rfl, hsize⟩, hgrows⟩
  · rw [if_neg (by simp [hin])]
    exact h i gᵢ (by rw [guest?_setGuest, if_neg (by simp [hin]), hi])

lemma operate_grows (w : World σ) (n : Nat) (o : Operation) : w.Grows (w.operate n o).2 := by
  unfold operate
  cases hg : w.guest? n with
  | none => exact .refl w
  | some g => exact Grows.rest (.refl _) hg (o.perform_grows g) rfl

/-! ### Actions -/

/-- Calls that let memories grow at most. -/
def GrowAtMost (calls : Calls σ) : Prop :=
  ∀ (f : Address) (arguments : List Value) (w : World σ), w.Grows (calls f arguments w).2

lemma invariant_grows (hc : GrowAtMost calls) (g : Guest) (w : World σ) :
    Invariant calls fun g' v => g.Grows g' ∧ w.Grows v where
  host _ h := h
  request memory r h := ⟨Guest.Grows.trans h.1 (request_grows memory r _), h.2⟩
  operate n o h := ⟨h.1, h.2.trans (operate_grows _ n o)⟩
  calls f arguments h := ⟨h.1, h.2.trans (hc f arguments _)⟩

/-- **An action lets memories grow at most**, those of its caller and those of all others. -/
theorem run_grows (hc : GrowAtMost calls) (memory : Option Nat) (a : Action σ α) (g : Guest)
    (w : World σ) :
    g.Grows (run calls memory a g w).2.1 ∧ w.Grows (run calls memory a g w).2.2 :=
  (invariant_grows hc g w).run memory a ⟨.refl g, .refl w⟩

/-! ### Functions that an instance imports -/

lemma callGenerated_grows (owner : Nat) (c : Wasi.Context) (memory : Option Nat)
    (v : Wasi.Version) (f : Wasi.Function) (arguments : List Cell) (g : Guest) (w : World σ) :
    g.Grows (callGenerated owner c memory v f arguments g w).guest ∧
      w.Grows (callGenerated owner c memory v f arguments g w).world := by
  unfold callGenerated
  split
  · exact ⟨.refl g, .refl w⟩
  · rename_i i m hm
    obtain ⟨j, -, hm⟩ := Option.bind_eq_some_iff.1 hm
    obtain ⟨m', hm', heq⟩ := Option.map_eq_some_iff.1 hm
    cases heq
    have hkeeps := f.perform_keepsSize v (arguments.map Wasi.Function.number)
    refine ⟨Guest.grows_setMemory hm' ?_ ?_, .of_eq fun n => guest?_setContext ..⟩
    · rw [Wasi.Function.state_call]
      exact hkeeps.size_eq _
    · rw [Wasi.Function.state_call]
      exact hkeeps.maximum_eq _

lemma hostCall_grows (hc : GrowAtMost calls) (owner : Nat) (direct : Bool) :
    HostCall.Grows Grows (hostCall calls owner direct) := by
  intro k arguments g w
  unfold hostCall
  split
  · exact ⟨.refl g, .refl w⟩
  · exact (invariant_grows hc g w).callHost _ _ _ ⟨.refl g, .refl w⟩
  · exact callGenerated_grows ..

/-! ### Calls to instances -/

lemma enter_grows (hc : GrowAtMost calls) (f : Address) (p : Program) (arguments : List Value)
    (g : Guest) (w : World σ) :
    g.Grows (enter calls f p arguments g w).guest ∧
      w.Grows (enter calls f p arguments g w).world := by
  unfold enter
  simp only
  split
  · split
    · exact hostCall_grows hc f.owner true ..
    · exact Execution.run_grows (hostCall_grows hc f.owner false) ..
  · exact ⟨.refl g, .refl w⟩

/-- **Calls to instances let memories grow at most**, whether they end with results or not. -/
theorem callWithin_grows (depth : Nat) : GrowAtMost (callWithin depth : Calls σ) := by
  induction depth with
  | zero => exact fun _ _ w => .refl w
  | succ depth ih =>
    intro f arguments w
    cases hg : w.guest? f.owner with
    | none =>
      rw [callWithin_none _ arguments hg]
      exact .refl w
    | some g =>
      obtain ⟨s, hs, hsg⟩ := Option.bind_eq_some_iff.1 hg
      rw [callWithin_some depth arguments hs hsg]
      have henter := enter_grows ih f s.program arguments g (w.setGuest f.owner none)
      exact henter.2.rest hg henter.1 (outline_enter (outline_callWithin depth) ..)

theorem perform_grows (w : World σ) (a : Action σ α) : w.Grows (w.perform a).2 :=
  (run_grows (callWithin_grows _) none a _ w).2

/-! ### New instances -/

lemma guest?_addSlot (w : World σ) (m : Module) (ps : List (Provided σ)) (c : Wasi.Context)
    {n : Nat} (hn : n < w.slots.size) : (w.addSlot m ps c).guest? n = w.guest? n := by
  simp [guest?, addSlot, Array.getElem?_push_lt hn, hn]

lemma addSlot_grows (w : World σ) (m : Module) (ps : List (Provided σ)) (c : Wasi.Context) :
    w.Grows (w.addSlot m ps c) := fun n g hg =>
  ⟨g, by rw [guest?_addSlot w m ps c (lt_size_of_guest? w n hg), hg], .refl g⟩

lemma start_grows (w : World σ) (m : Module) (number : Nat) (g : Guest) :
    g.Grows (w.start m number g).2.1 ∧ w.Grows (w.start m number g).2.2 := by
  unfold start
  cases m.definition.start with
  | none => exact ⟨.refl g, .refl w⟩
  | some f => exact Execution.run_grows (hostCall_grows (callWithin_grows _) number false) ..

lemma guest?_dropSlot (w : World σ) {n : Nat} (hn : n + 1 < w.slots.size) :
    w.dropSlot.guest? n = w.guest? n := by
  simp only [guest?, dropSlot, Array.getElem?_pop]
  rw [if_pos (by omega)]

lemma guest?_settle (w : World σ) (memory : Option Nat) (g : Guest) {number n : Nat}
    (hn : number ≠ n) : (w.settle number memory g).guest? n = w.guest? n := by
  simp [guest?, settle, Array.getElem?_modify, hn]

/-- The other instances are left as the start function leaves them. -/
lemma guest?_launch (w : World σ) (m : Module) (ps : List (Provided σ)) (c : Wasi.Context)
    (g : Guest) {n : Nat} (hn : n < w.slots.size) :
    (w.launch m ps c g).2.guest? n =
      ((w.addSlot m ps c).start m w.slots.size g).2.2.guest? n := by
  have houtline := outline_start (w.addSlot m ps c) m w.slots.size g
  cases hl : w.launch m ps c g with
  | mk r w' =>
    obtain ⟨result, g₁, w₁, hs, hcases⟩ := launch_cases hl
    rw [hs] at houtline ⊢
    have hsize : w₁.slots.size = w.slots.size + 1 := by
      rw [size_congr _ houtline]
      simp [addSlot]
    rcases hcases with ⟨s, -, -, rfl⟩ | ⟨name, -, -, -, rfl⟩ | ⟨es, -, -, -, rfl⟩
    · exact guest?_dropSlot w₁ (by omega)
    · exact guest?_dropSlot w₁ (by omega)
    · exact guest?_settle w₁ _ _ (by omega)

lemma launch_grows (w : World σ) (m : Module) (ps : List (Provided σ)) (c : Wasi.Context)
    (g : Guest) : w.Grows (w.launch m ps c g).2 := by
  have hstart := (start_grows (w.addSlot m ps c) m w.slots.size g).2
  intro n gₙ hn
  rw [guest?_launch w m ps c g (lt_size_of_guest? w n hn)]
  exact ((addSlot_grows w m ps c).trans hstart) n gₙ hn

/-- **Making an instance lets the memories of the others grow at most**, whether it succeeds or
not. -/
theorem instantiate_grows (w : World σ) (m : Module) (o : ImportObject σ) :
    w.Grows (w.instantiate m o).2 := by
  obtain ⟨r, -, hfailed⟩ | ⟨c, ps, g, -, -, -, hlaunch⟩ := instantiate_cases w m o
  · rw [hfailed]
    exact .refl w
  · rw [hlaunch]
    exact launch_grows w m ps c g

/-- **Whatever happens to a world, the memories of its instances grow at most.** -/
theorem Leads.grows (h : Leads w v) : w.Grows v := by
  induction h with
  | refl => exact .refl w
  | tail _ he ih =>
    cases he with
    | perform _ a => exact ih.trans (perform_grows _ a)
    | instantiate _ m o => exact ih.trans (instantiate_grows _ m o)
    | system _ s => exact ih.trans (.of_eq fun _ => rfl)

end World

end Embedder
