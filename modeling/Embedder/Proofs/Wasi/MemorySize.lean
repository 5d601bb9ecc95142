import Embedder.Proofs.Execution.Growth
import Embedder.Proofs.Wasi.Plain

/-!
# The system interface does not resize memories

A function of the system interface writes to the memory of its caller, but only the caller itself can
grow it.

* `Calling.KeepsSize`: a computation leaves a memory of the same size and the same maximum;
* `Calling.Plain.keepsSize`, `Function.perform_keepsSize`: plain computations do, and so does every
  function.
-/

namespace Embedder.Wasi

namespace Calling

variable {α β : Type} {x : Calling α}

/-- The computation leaves the size and the maximum of the caller's memory as they are. -/
structure KeepsSize (x : Calling α) : Prop where
  size_eq : ∀ s, (x.ends s).2.memory.size = s.memory.size
  maximum_eq : ∀ s, (x.ends s).2.memory.maximum = s.memory.maximum

namespace KeepsSize

lemma throw (e : Ending) : KeepsSize (MonadExcept.throw e : Calling α) := ⟨fun _ => rfl, fun _ => rfl⟩

lemma bind {f : α → Calling β} (hx : KeepsSize x) (hf : ∀ a, KeepsSize (f a)) :
    KeepsSize (x >>= f) := by
  constructor
  all_goals
    intro s
    have hsize := hx.size_eq s
    have hmaximum := hx.maximum_eq s
    rw [ends_bind]
    generalize x.ends s = r at hsize hmaximum
    obtain ⟨result, s'⟩ := r
  · cases result with
    | ok a => exact ((hf a).size_eq s').trans hsize
    | error e => exact hsize
  · cases result with
    | ok a => exact ((hf a).maximum_eq s').trans hmaximum
    | error e => exact hmaximum

end KeepsSize

lemma Plain.keepsSize (h : x.Plain) : x.KeepsSize := by
  induction h with
  | bind hx hf ihx ihf => exact ihx.bind ihf
  | storeBytes start bytes =>
    exact ⟨fun s => s.memory.size_write .., fun s => s.memory.maximum_write ..⟩
  | modifyGet hm =>
    exact ⟨fun s => congrArg Memory.size (hm s), fun s => congrArg Memory.maximum (hm s)⟩
  | _ => exact ⟨fun _ => rfl, fun _ => rfl⟩

lemma exit_keepsSize (status : Nat) : (Calling.exit status).KeepsSize := by
  unfold Calling.exit
  split
  · exact .throw _
  · exact .throw _

end Calling

namespace Function

/-- **No function of the system interface resizes the memory of its caller.** -/
theorem perform_keepsSize (v : Version) (f : Function) (arguments : List Nat) :
    (f.perform v arguments).KeepsSize := by
  by_cases hf : f = .procExit
  · subst hf
    match arguments with
    | [] => exact .throw _
    | [status] => exact Calling.exit_keepsSize status
    | _ :: _ :: _ => exact .throw _
  · exact (perform_plain hf v arguments).keepsSize

/-- What a call leaves of its caller is what its computation leaves. -/
lemma state_call (v : Version) (f : Function) (arguments : List Cell) (s : CallState) :
    (f.call v arguments s).2 = ((f.perform v (arguments.map number)).ends s).2 := by
  rw [call_eq]

end Function

end Embedder.Wasi
