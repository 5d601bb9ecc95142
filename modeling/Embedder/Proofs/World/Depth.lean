import Embedder.Proofs.World.Outline
import Mathlib.Data.List.Count

/-!
# How deep calls are nested

Every call that is open has taken an instance from its rest. So the number of instances at rest
bounds how many more calls can be opened, and a bound that is no lower than that is never met.

* `World.run_congr`: a run depends on its calls only in worlds of the same outline;
* `World.callWithin_congr`: the bound on the depth does not matter;
* `World.callWithin_ne_busy`: an instance at rest always answers.
-/

namespace Embedder

open Execution (Program Guest Machine HostCall)

variable {σ α : Type}

namespace World

/-! ### The number of instances at rest -/

variable (w : World σ) (n : Nat)

lemma resting_eq_countP : w.resting = w.outline.toList.countP Outline.atRest := by
  rw [resting, outline, Array.toList_map, List.countP_map, List.countP_eq_length_filter]
  rfl

lemma resting_congr {v : World σ} (h : v.outline = w.outline) : v.resting = w.resting := by
  rw [resting_eq_countP, resting_eq_countP, h]

lemma resting_setGuest_none {g : Guest} (hg : w.guest? n = some g) :
    (w.setGuest n none).resting + 1 = w.resting := by
  have hrest : (w.outline[n]?).any Outline.atRest = true := by
    rw [← isSome_guest?_eq, hg]
    rfl
  obtain ⟨o, ho, hrest⟩ := (Option.any_eq_true _ _).1 hrest
  rw [← Array.getElem?_toList] at ho
  obtain ⟨hn, rfl⟩ := List.getElem?_eq_some_iff.1 ho
  have hpos : 0 < w.outline.toList.countP Outline.atRest :=
    List.countP_pos_iff.2 ⟨_, List.getElem_mem hn, hrest⟩
  rw [resting_eq_countP, resting_eq_countP, outline_setGuest, Array.toList_modify,
    List.modify_eq_set_getElem?, ho]
  simp only [Option.map_eq_map, Option.map_some, Option.getD_some, List.countP_set hn, hrest,
    Option.isSome_none, if_true, Bool.false_eq_true, if_false, Nat.add_zero]
  exact Nat.sub_add_cancel hpos

/-! ### Runs with two kinds of calls -/

variable {calls calls' : Calls σ}

theorem run_congr (hc : Steady calls) (memory : Option Nat) (a : Action σ α) (g : Guest)
    (w : World σ)
    (h : ∀ f arguments v, v.outline = w.outline → calls f arguments v = calls' f arguments v) :
    run calls memory a g w = run calls' memory a g w := by
  induction a generalizing g w with
  | done a => rfl
  | fail message => rfl
  | panic => rfl
  | update change next ih => exact ih _ g _ h
  | memory r next ih => exact ih _ _ w h
  | operate owner o next ih =>
    exact ih _ g _ fun f arguments v hv => h f arguments v (hv.trans (outline_operate w owner o))
  | call f arguments next ih =>
    have hf := hc f arguments w
    unfold run
    rw [← h f arguments w rfl]
    generalize calls f arguments w = answered at hf
    obtain ⟨answer, w'⟩ := answered
    have h' : ∀ f arguments v, v.outline = w'.outline →
        calls f arguments v = calls' f arguments v :=
      fun f arguments v hv => h f arguments v (hv.trans hf)
    cases answer with
    | busy => exact ih none g w' h'
    | panicked => rfl
    | ended r => exact ih (some r) g w' h'

lemma hostCall_congr (hc : Steady calls) (owner : Nat) (direct : Bool) (k : Nat)
    (arguments : List Cell) (g : Guest) (w : World σ)
    (h : ∀ f arguments v, v.outline = w.outline → calls f arguments v = calls' f arguments v) :
    hostCall calls owner direct k arguments g w = hostCall calls' owner direct k arguments g w := by
  unfold hostCall callHost
  simp only [run_congr hc _ _ g w h]

lemma enter_congr (hc : Steady calls) (f : Address) (p : Program) (arguments : List Value)
    (g : Guest) (w : World σ)
    (h : ∀ f arguments v, v.outline = w.outline → calls f arguments v = calls' f arguments v) :
    enter calls f p arguments g w = enter calls' f p arguments g w := by
  unfold enter
  simp only
  rw [hostCall_congr hc f.owner true f.index _ g w h]
  split
  · split
    · rfl
    · refine Execution.run_congr _ _ g w fun k cells g' v hk => ?_
      have hv := hk.keeps outline (outline_hostCall hc f.owner false)
      exact hostCall_congr hc f.owner false k cells g' v fun f arguments u hu =>
        h f arguments u (hu.trans hv)
  · rfl

/-! ### Bounds on the depth -/

/-- **The depth does not matter** as long as there are no more instances at rest. -/
theorem callWithin_congr {d d' : Nat} (f : Address) (arguments : List Value) (w : World σ)
    (hd : w.resting ≤ d) (hd' : w.resting ≤ d') :
    callWithin d f arguments w = callWithin d' f arguments w := by
  induction d generalizing d' f arguments w with
  | zero =>
    have hnone : w.guest? f.owner = none := by
      by_contra hne
      obtain ⟨g, hg⟩ := Option.ne_none_iff_exists'.1 hne
      have := resting_setGuest_none w f.owner hg
      omega
    rw [callWithin_none 0 arguments hnone, callWithin_none d' arguments hnone]
  | succ d ih =>
    cases hg : w.guest? f.owner with
    | none => rw [callWithin_none _ arguments hg, callWithin_none _ arguments hg]
    | some g =>
      have hlt := resting_setGuest_none w f.owner hg
      obtain ⟨d', rfl⟩ : ∃ k, d' = k + 1 := ⟨d' - 1, by omega⟩
      obtain ⟨s, hs, hg⟩ := Option.bind_eq_some_iff.1 hg
      rw [callWithin_some d arguments hs hg, callWithin_some d' arguments hs hg]
      rw [enter_congr (outline_callWithin d) f s.program arguments g _ ?_]
      intro f arguments v hv
      have hv := resting_congr _ hv
      exact ih f arguments v (by omega) (by omega)

theorem run_callWithin_congr {d d' : Nat} (memory : Option Nat) (a : Action σ α) (g : Guest)
    (w : World σ) (hd : w.resting ≤ d) (hd' : w.resting ≤ d') :
    run (callWithin d) memory a g w = run (callWithin d') memory a g w := by
  refine run_congr (outline_callWithin d) memory a g w fun f arguments v hv => ?_
  have hv := resting_congr _ hv
  exact callWithin_congr f arguments v (by omega) (by omega)

/-- An instance at rest always answers. -/
theorem callWithin_ne_busy {d : Nat} {f : Address} (arguments : List Value) {w : World σ}
    (hd : w.resting ≤ d) (h : w.guest? f.owner ≠ none) :
    (callWithin d f arguments w).1 ≠ .busy := by
  obtain ⟨g, hg⟩ := Option.ne_none_iff_exists'.1 h
  have hlt := resting_setGuest_none w f.owner hg
  obtain ⟨d, rfl⟩ : ∃ k, d = k + 1 := ⟨d - 1, by omega⟩
  obtain ⟨s, hs, hg⟩ := Option.bind_eq_some_iff.1 hg
  rw [callWithin_some d arguments hs hg]
  unfold answerOf
  simp only
  split <;> simp

end World

end Embedder
