import Embedder.Proofs.Execution.HostCalls
import Embedder.Proofs.Typing.Machine

/-!
# Runs of checked code

A host that keeps the types of what it is lent gets arguments of the types that its functions take,
and the run gives results of the types of the function that was called. Checked code can still be stuck
at an instruction that has no meaning here (`Execution.Machine`), and then there are no results.

* `HostCall.Keeps`: the host gives results of the right types, and it keeps an invariant of its own;
* `run_typed`: a run that starts with the right types ends with them;
* `CallsHost.typed`: every call from code to the host has arguments of the right types.
-/

namespace Embedder.Execution

open Validation (Context Stack)

variable {W : Type}

/-- A call leaves an instance of the right types, and its results, if there are any, have the given
types. `I` is what the host keeps true of its own state. -/
structure Outcome.Typed (c : Context) (I : W → Prop) (results : List ValueType) (o : Outcome W) :
    Prop where
  world : I o.world
  guest : o.guest.Typed c
  result : ∀ cells, o.result = .ok cells → cells.map Cell.type = results

/-- The functions of the host do with arguments of their types what functions of their types do. -/
def HostCall.Keeps (c : Context) (p : Program) (I : W → Prop) (host : HostCall W) : Prop :=
  ∀ k t arguments g w, c.functions[k]? = some t → k < p.imported →
    arguments.map Cell.type = t.params → g.Typed c → I w →
    (host k arguments g w).Typed c I t.results

variable {c : Context} {p : Program} {I : W → Prop} {host : HostCall W} {m : Machine} {g : Guest}
  {w : W} {results : List ValueType}

lemma Program.entry_typed (hp : p.Checked c) {f : Nat} {t : FunctionType}
    (ht : c.functions[f]? = some t) {arguments : List Cell}
    (harguments : arguments.map Cell.type = t.params) :
    (p.entry f arguments).Typed c [] t.results := by
  refine ⟨t.results, ⟨?_, [t.results], t.results, .function, ?_⟩, .outermost t.results⟩
  · simp [entry, Machine.ofCall, hp.functions, ht]
  · refine Context.checks_op_iff.2 ⟨.known t.results.reverse, ?_, Context.checks_done_iff.2 rfl⟩
    have hop : (frameContext c #[] [t.results] t.results).op
        (.known (arguments.reverse.map Cell.type)) (.call f) =
          (Stack.known (arguments.reverse.map Cell.type)).step t.params t.results :=
      congrArg (Option.bind · _) ht
    refine hop.trans (Stack.step_known_iff.2 ⟨[], ?_, by simp⟩)
    rw [List.map_reverse, harguments, List.append_nil]

/-- **A run of checked code keeps types.** -/
theorem run_typed (hp : p.Checked c) (hh : HostCall.Keeps c p I host) (fuel : Nat)
    (hm : m.Typed c [] results) (hg : g.Typed c) (hw : I w) :
    (run p host fuel m g w).Typed c I results := by
  induction fuel generalizing m g w with
  | zero => exact ⟨hw, hg, fun cells hc => by cases hc⟩
  | succ fuel ih =>
    have hstep := Machine.step_typed hp hm hg
    unfold run
    cases hs : m.step p g with
    | next m' g' =>
      rw [hs] at hstep
      exact ih hstep.1 hstep.2 hw
    | finished cells g' =>
      rw [hs] at hstep
      refine ⟨hw, hstep.2, fun cells' hc => ?_⟩
      cases hc
      exact hstep.1
    | fault f g' =>
      rw [hs] at hstep
      exact ⟨hw, hstep, fun cells hc => by cases hc⟩
    | host k arguments m' g' =>
      rw [hs] at hstep
      obtain ⟨t, ht, hk, harguments, hm', hg'⟩ := hstep
      have hcall := hh k t arguments g' w ht hk harguments hg' hw
      simp only
      cases hr : host k arguments g' w with
      | mk result g₂ w₂ =>
        rw [hr] at hcall
        cases result with
        | ok cells => exact ih (hm'.resume (hcall.result cells rfl)) hcall.guest hcall.world
        | error s => exact ⟨hcall.world, hcall.guest, fun cells hc => by cases hc⟩

theorem invoke_typed (hp : p.Checked c) (hh : HostCall.Keeps c p I host) {f : Nat} {t : FunctionType}
    (ht : c.functions[f]? = some t) {arguments : List Cell}
    (harguments : arguments.map Cell.type = t.params) (hg : g.Typed c) (hw : I w) :
    (invoke p host f arguments g w).Typed c I t.results := by
  rw [invoke_eq_run]
  exact run_typed hp hh _ (Program.entry_typed hp ht harguments) hg hw

/-- **Code calls the host with arguments of the right types only.** -/
theorem CallsHost.typed (hp : p.Checked c) (hh : HostCall.Keeps c p I host) {k : Nat}
    {arguments : List Cell} {g' : Guest} {w' : W}
    (h : CallsHost p host k arguments g' w' m g w) (hm : m.Typed c [] results) (hg : g.Typed c)
    (hw : I w) :
    ∃ t, c.functions[k]? = some t ∧ k < p.imported ∧ arguments.map Cell.type = t.params ∧
      g'.Typed c ∧ I w' := by
  induction h with
  | now hs =>
    have hstep := Machine.step_typed hp hm hg
    rw [hs] at hstep
    obtain ⟨t, ht, hk, harguments, -, hg'⟩ := hstep
    exact ⟨t, ht, hk, harguments, hg', hw⟩
  | next hs hc ih =>
    have hstep := Machine.step_typed hp hm hg
    rw [hs] at hstep
    exact ih hstep.1 hstep.2 hw
  | later hs hr hc ih =>
    have hstep := Machine.step_typed hp hm hg
    rw [hs] at hstep
    obtain ⟨t, ht, hk, harguments, hm', hg'⟩ := hstep
    have hcall := hh _ t _ _ _ ht hk harguments hg' hw
    rw [hr] at hcall
    exact ih (hm'.resume (hcall.result _ rfl)) hcall.guest hcall.world

end Embedder.Execution
