import Embedder.Proofs.Calls.Gate

/-!
# Where a call comes to code

A call that is not refused for its signature is made, and then an instance runs its code, if it has code
for the function and is at rest.

* `Moment.first`: the moment at which the host begins to do something;
* `Moment.Invokes`: the next thing that happens is that code is run, with what comes of it;
* `Moment.Occurs.exists_invokes_iff`: a call comes to code if and only if it has no fault;
* `Moment.Invokes.ends_eq`, `Moment.Occurs.returned_of_invokes`: what the host gets of it.
-/

namespace Embedder

open Execution (Stop Outcome)

variable {σ α : Type}

/-- What the host is told of code that was run. A call that breaks off on the way never ends. -/
def World.Ended.ofResult (t : FunctionType) :
    Except Stop (List Cell) → World.Ended (Except CallError (List Value))
  | .error .panicked => .panicked
  | r => .done (CallError.results t (some r))

lemma World.Ended.ofResult_eq_done_ok {t : FunctionType} {r : Except Stop (List Cell)}
    {values : List Value} (h : ofResult t r = .done (.ok values)) :
    r = .ok (values.map Cell.ofValue) := by
  unfold ofResult at h
  split at h
  · cases h
  · cases r with
    | error s => cases h
    | ok cells =>
      unfold CallError.results at h
      split at h
      · cases h
      · rename_i hsome
        cases hsome
      · rename_i cells' hcells
        cases hcells
        split at h
        · rename_i values' hvalues
          cases h
          rw [Cell.mapM_toValue?_eq_some_iff.1 hvalues]
        · cases h

namespace Moment

open World (callWithin hostCall)

/-- The moment at which the host begins with an action. -/
def first (w : World σ) (a : Action σ α) : Moment σ α :=
  ⟨[], w.resting, none, a, ⟨#[], #[], #[], #[], #[]⟩, w⟩

lemma perform_eq_ends (w : World σ) (a : Action σ α) :
    w.perform a = ((first w a).ends.1, (first w a).ends.2.2) := rfl

/-- The next thing that the action does is a call of a function that an instance at rest has code for,
with arguments that the engine takes. The code is run, and `out` is what comes of it. -/
inductive Invokes : Moment σ α → Address → List Value → Outcome (World σ) → Prop
  | intro {running : List Nat} {d : Nat} {memory : Option Nat} {g g₀ : Execution.Guest} {w : World σ}
      {f : Address} {arguments : List Value} {next : Option (Except Stop (List Cell)) → Action σ α}
      {s : Slot σ} (hs : w.slots[f.owner]? = some s) (hg : s.guest = some g₀)
      (ht : s.program.takes f.index (arguments.map Cell.ofValue) = true)
      (hf : ¬ f.index < s.program.imported) :
      Invokes ⟨running, d + 1, memory, .call f arguments next, g, w⟩ f arguments
        (Execution.invoke s.program (hostCall (callWithin d) f.owner false) f.index
          (arguments.map Cell.ofValue) g₀ (w.setGuest f.owner none))

variable {t : Moment σ α} {f : Address} {h : Handle FunctionType} {arguments : List Value}
  {out : Outcome (World σ)}

/-- The answer to the call is what comes of the code, and the instance is at rest again. -/
lemma Invokes.callWithin_eq (hinvokes : t.Invokes f arguments out) :
    callWithin t.depth f arguments t.world =
      (World.answerOf out.result, out.world.setGuest f.owner (some out.guest)) := by
  cases hinvokes with
  | @intro _ d _ _ _ _ _ _ _ _ hs hg ht hcode =>
    have hcall := World.callWithin_some d arguments hs hg
    simpa only [World.enter, ht, hcode, if_true, if_false] using hcall

/-- A call with a fault comes to no code. -/
lemma Invokes.fault?_eq_none (hinvokes : (t.turn (h.call arguments)).Invokes h.address arguments out) :
    h.type.fault? arguments = none := by
  cases hf : h.type.fault? arguments with
  | none => rfl
  | some f =>
    obtain ⟨running, depth, memory, action, g, w⟩ := t
    simp only [turn, Handle.call, hf] at hinvokes
    cases hinvokes

/-- **What code comes to is what the host gets of the call**, and the instance is at rest again. -/
theorem Invokes.ends_eq (hinvokes : (t.turn (h.call arguments)).Invokes h.address arguments out) :
    (t.turn (h.call arguments)).ends =
      (.ofResult h.type out.result, t.guest, out.world.setGuest h.address.owner (some out.guest)) := by
  have hf := hinvokes.fault?_eq_none
  have hcall := hinvokes.callWithin_eq
  simp only [turn] at hcall
  simp only [ends, turn, Handle.call, hf, World.run, hcall]
  obtain ⟨result, g, v⟩ := out
  cases result with
  | ok cells => rfl
  | error s => cases s <;> rfl

variable {w₀ w₁ w : World σ} {m : Module} {o : ImportObject σ} {i : Instance} {name : String}

/-- **A call of an exported function comes to code if and only if it has no fault**, where the module
has code for the function and its instance has nothing else in progress. -/
theorem Occurs.exists_invokes_iff (h₀ : w₀.Reached) (hi : w₀.instantiate m o = (.made i, w₁))
    (hw : World.Leads w₁ w) (hx : i.exports.function name = .ok h) (ht : t.Occurs w)
    (hrest : h.address.owner ∉ t.running) (hcode : ¬ h.address.index < m.program.imported) :
    (∃ out, (t.turn (h.call arguments)).Invokes h.address arguments out) ↔
      h.type.fault? arguments = none := by
  constructor
  · rintro ⟨out, hinvokes⟩
    exact hinvokes.fault?_eq_none
  · intro hf
    have hsound := ht.sound ((h₀.made hi).leads hw).atRest
    obtain ⟨s, hs, hfunction⟩ := ht.exists_function hi hw hx
    obtain ⟨-, -, -, -, hexports, -⟩ := World.outline_instantiate_made hi
    obtain ⟨hown, -⟩ := m.function_eq_ok hexports hx
    have hprogram := ht.program_eq hi hw (hown ▸ hs)
    have hsize : h.address.owner < t.world.slots.size := (Array.getElem?_eq_some_iff.1 hs).1
    obtain ⟨g₀, hguest⟩ :=
      Option.ne_none_iff_exists'.1 (mt (hsound.running_iff _ hsize).1 hrest)
    have hg : s.guest = some g₀ := by
      simpa only [World.guest?, hs, Option.bind_some] using hguest
    have htakes : s.program.takes h.address.index (arguments.map Cell.ofValue) = true := by
      rw [Execution.Program.takes, hfunction, Option.any_some, beq_iff_eq, Cell.map_type_ofValue]
      exact ((h.type.fault?_eq_none_iff arguments).1 hf).2
    -- the instance itself is one that may be called
    have hdepth := World.resting_setGuest_none t.world h.address.owner hguest
    have hle := hsound.resting_le
    obtain ⟨running, depth, memory, action, g, v⟩ := t
    obtain ⟨d, rfl⟩ : ∃ d, depth = d + 1 := ⟨depth - 1, by simp only at hdepth hle; omega⟩
    rw [turn, Handle.call, hf]
    exact ⟨_, .intro hs hg htakes (hprogram ▸ hcode)⟩

/-- Results that the host gets come from the code, and they have the types of the function. -/
lemma Occurs.returned_of_invokes (h₀ : w₀.Reached) (hi : w₀.instantiate m o = (.made i, w₁))
    (hw : World.Leads w₁ w) (hx : i.exports.function name = .ok h) (ht : t.Occurs w)
    (hinvokes : (t.turn (h.call arguments)).Invokes h.address arguments out) {results : List Value}
    (hends : World.Ended.ofResult h.type out.result = .done (.ok results)) :
    out.result = .ok (results.map Cell.ofValue) ∧ results.map Value.type = h.type.results := by
  have hresult := World.Ended.ofResult_eq_done_ok hends
  refine ⟨hresult, ?_⟩
  have hcall := hinvokes.callWithin_eq
  rw [hresult] at hcall
  rw [← ht.type_results h₀ hi hw hx hcall, Cell.map_type_ofValue]

end Moment

end Embedder
