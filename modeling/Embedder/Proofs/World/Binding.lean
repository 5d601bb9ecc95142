import Embedder.Proofs.World.Depth

/-!
# Lent memories

The memory of an instance that is lent to functions of the host matters to nobody if none of the
functions that the instance imports uses it. So a run goes in the same way whichever memory is bound.

* `World.rebind`: another memory is bound;
* `Slot.Unaware`: no imported function of the host uses a memory;
* `World.Rebound`: two worlds that differ in a bound memory that nothing uses;
* `World.callWithin_rebound`, `World.invoke_rebound`: calls to instances, and code of the instance,
  have the same results in both.
-/

namespace Embedder

open Execution (Program Guest Outcome)

variable {σ α : Type}

/-- No function of the host that the instance imports uses a memory. -/
def Slot.Unaware (s : Slot σ) : Prop :=
  ∀ (k : Nat) (f : HostFunction σ), s.imported[k]? = some (.host f) → f.usesMemory = false

namespace World

/-- Binds another memory of an instance, or none. -/
def rebind (w : World σ) (n : Nat) (memory : Option Nat) : World σ :=
  { w with slots := w.slots.modify n fun s => { s with boundMemory := memory } }

/-- Two worlds that differ in the bound memory of an instance, which does not use it. -/
structure Rebound (n : Nat) (memory : Option Nat) (w w' : World σ) : Prop where
  eq : w' = w.rebind n memory
  unaware : ∀ s, w.slots[n]? = some s → s.Unaware

variable {n : Nat} {memory : Option Nat} {w w' : World σ}

/-! ### Single changes -/

/-- A change of an instance that keeps its imported functions and its bound memory. -/
lemma Rebound.modify (h : Rebound n memory w w') (owner : Nat) {change : Slot σ → Slot σ}
    (hi : ∀ s, (change s).imported = s.imported)
    (hc : ∀ s, change { s with boundMemory := memory } = { change s with boundMemory := memory }) :
    Rebound n memory { w with slots := w.slots.modify owner change }
      { w' with slots := w'.slots.modify owner change } := by
  obtain ⟨rfl, hu⟩ := h
  refine ⟨?_, fun s hs => ?_⟩
  · unfold rebind
    congr 1
    refine Array.ext_getElem? fun i => ?_
    simp only [Array.getElem?_modify]
    cases w.slots[i]? with
    | none => simp
    | some s => split <;> split <;> simp [hc]
  · rw [Array.getElem?_modify] at hs
    split at hs
    · obtain ⟨s', hs', rfl⟩ := Option.map_eq_some_iff.1 hs
      intro k f hf
      exact hu s' hs' k f (hi s' ▸ hf)
    · exact hu s hs

lemma Rebound.setGuest (h : Rebound n memory w w') (owner : Nat) (g : Option Guest) :
    Rebound n memory (w.setGuest owner g) (w'.setGuest owner g) :=
  h.modify owner (fun _ => rfl) fun _ => rfl

lemma Rebound.setContext (h : Rebound n memory w w') (owner : Nat) (c : Wasi.Context) :
    Rebound n memory (w.setContext owner c) (w'.setContext owner c) :=
  h.modify owner (fun _ => rfl) fun _ => rfl

lemma Rebound.setHost (h : Rebound n memory w w') (host : σ) :
    Rebound n memory { w with host } { w' with host } := by
  obtain ⟨rfl, hu⟩ := h
  exact ⟨rfl, hu⟩

lemma Rebound.setSystem (h : Rebound n memory w w') (system : Wasi.System) :
    Rebound n memory { w with system } { w' with system } := by
  obtain ⟨rfl, hu⟩ := h
  exact ⟨rfl, hu⟩

lemma Rebound.host_eq (h : Rebound n memory w w') : w'.host = w.host := by
  rw [h.eq]
  rfl

lemma Rebound.system_eq (h : Rebound n memory w w') : w'.system = w.system := by
  rw [h.eq]
  rfl

/-- An instance is the same in both worlds, or its bound memory does not matter. -/
lemma Rebound.slot (h : Rebound n memory w w') (i : Nat) :
    w'.slots[i]? = w.slots[i]? ∨ ∃ s, w.slots[i]? = some s ∧ s.Unaware ∧
      w'.slots[i]? = some { s with boundMemory := memory } := by
  obtain ⟨rfl, hu⟩ := h
  simp only [rebind, Array.getElem?_modify]
  split
  · rename_i hi
    subst hi
    cases hs : w.slots[n]? with
    | none => exact .inl rfl
    | some s => exact .inr ⟨s, rfl, hu s hs, rfl⟩
  · exact .inl rfl

lemma Rebound.guest?_eq (h : Rebound n memory w w') (i : Nat) : w'.guest? i = w.guest? i := by
  unfold guest?
  obtain hs | ⟨s, hs, -, hs'⟩ := h.slot i
  · rw [hs]
  · rw [hs, hs']
    rfl

lemma Rebound.operate (h : Rebound n memory w w') (owner : Nat) (o : Operation) :
    (w'.operate owner o).1 = (w.operate owner o).1 ∧
      Rebound n memory (w.operate owner o).2 (w'.operate owner o).2 := by
  unfold World.operate
  rw [h.guest?_eq]
  cases w.guest? owner with
  | none => exact ⟨rfl, h⟩
  | some g => exact ⟨rfl, (h.setGuest owner none).setGuest owner _⟩

/-! ### Runs -/

/-- Calls that are answered alike in worlds that differ in the bound memory. -/
def Indifferent (n : Nat) (memory : Option Nat) (calls : Calls σ) : Prop :=
  ∀ f arguments w w', Rebound n memory w w' →
    (calls f arguments w').1 = (calls f arguments w).1 ∧
      Rebound n memory (calls f arguments w).2 (calls f arguments w').2

variable {calls : Calls σ}

/-- An action that may use one and the same memory ends alike. -/
theorem run_rebound (hc : Indifferent n memory calls) (lent : Option Nat) (a : Action σ α) (g : Guest)
    (h : Rebound n memory w w') :
    (run calls lent a g w').1 = (run calls lent a g w).1 ∧
      (run calls lent a g w').2.1 = (run calls lent a g w).2.1 ∧
      Rebound n memory (run calls lent a g w).2.2 (run calls lent a g w').2.2 := by
  induction a generalizing g w w' with
  | done a => exact ⟨rfl, rfl, h⟩
  | fail message => exact ⟨rfl, rfl, h⟩
  | panic => exact ⟨rfl, rfl, h⟩
  | update change next ih =>
    simp only [run, h.host_eq]
    exact ih _ g (h.setHost _)
  | memory r next ih => exact ih _ _ h
  | operate owner o next ih =>
    obtain ⟨hanswer, hworld⟩ := h.operate owner o
    simp only [run, hanswer]
    exact ih _ g hworld
  | call f arguments next ih =>
    obtain ⟨hanswer, hworld⟩ := hc f arguments w w' h
    unfold run
    generalize calls f arguments w = answered at hanswer hworld
    generalize calls f arguments w' = answered' at hanswer hworld
    obtain ⟨answer, v⟩ := answered
    obtain ⟨answer', v'⟩ := answered'
    cases hanswer
    cases answer with
    | busy => exact ih none g hworld
    | panicked => exact ⟨rfl, rfl, hworld⟩
    | ended r => exact ih (some r) g hworld

lemma callHost_rebound (hc : Indifferent n memory calls) (bound : Option Nat) (f : HostFunction σ)
    (arguments : List Cell) (g : Guest) (h : Rebound n memory w w') :
    (callHost calls bound f arguments g w).Agrees (Rebound n memory)
      (callHost calls bound f arguments g w') := by
  unfold callHost
  cases arguments.mapM Cell.toValue? with
  | none => exact ⟨rfl, rfl, h⟩
  | some values =>
    simp only
    split
    · exact ⟨rfl, rfl, h⟩
    · obtain ⟨hended, hguest, hworld⟩ :=
        run_rebound hc (if f.usesMemory then bound else none) (f.body values) g h
      generalize run calls _ (f.body values) g w = o at hended hguest hworld
      generalize run calls _ (f.body values) g w' = o' at hended hguest hworld
      obtain ⟨ended, g₁, v⟩ := o
      obtain ⟨ended', g₁', v'⟩ := o'
      cases hended
      cases hguest
      cases ended <;> exact ⟨rfl, rfl, hworld⟩

/-- A function of the host that uses no memory does not see which one is bound. -/
lemma callHost_of_unaware {f : HostFunction σ} (hf : f.usesMemory = false) (bound bound' : Option Nat)
    (arguments : List Cell) (g : Guest) (w : World σ) :
    callHost calls bound f arguments g w = callHost calls bound' f arguments g w := by
  simp only [callHost, hf, Bool.false_and, Bool.false_eq_true, if_false]

lemma callGenerated_rebound (owner : Nat) (c : Wasi.Context) (exported : Option Nat)
    (v : Wasi.Version) (f : Wasi.Function) (arguments : List Cell) (g : Guest)
    (h : Rebound n memory w w') :
    (callGenerated owner c exported v f arguments g w).Agrees (Rebound n memory)
      (callGenerated owner c exported v f arguments g w') := by
  unfold callGenerated
  rw [h.system_eq]
  cases exported.bind fun i => (g.memories[i]?).map fun m => (i, m) with
  | none => exact ⟨rfl, rfl, h⟩
  | some im => exact ⟨rfl, rfl, (h.setSystem _).setContext owner _⟩

/-- The functions that an instance imports do the same in both worlds. -/
lemma hostCall_rebound (hc : Indifferent n memory calls) (owner : Nat) (direct : Bool) (k : Nat)
    (arguments : List Cell) (g : Guest) (h : Rebound n memory w w') :
    (hostCall calls owner direct k arguments g w).Agrees (Rebound n memory)
      (hostCall calls owner direct k arguments g w') := by
  unfold hostCall
  obtain hs | ⟨s, hs, hu, hs'⟩ := h.slot owner
  · rw [hs]
    split
    · exact ⟨rfl, rfl, h⟩
    · exact callHost_rebound hc _ _ arguments g h
    · exact callGenerated_rebound owner _ _ _ _ arguments g h
  · rw [hs, hs']
    simp only [Option.bind_some]
    cases hk : s.imported[k]? with
    | none => exact ⟨rfl, rfl, h⟩
    | some imported =>
      cases imported with
      | host f =>
        simp only [Option.map_some]
        rw [callHost_of_unaware (hu k f hk) memory s.boundMemory]
        exact callHost_rebound hc _ f arguments g h
      | generated v f => exact callGenerated_rebound owner _ _ v f arguments g h

/-- **Code runs alike whichever memory is bound.** -/
theorem invoke_rebound (hc : Indifferent n memory calls) (owner : Nat) (p : Program) (function : Nat)
    (arguments : List Cell) (g : Guest) (h : Rebound n memory w w') :
    (Execution.invoke p (hostCall calls owner false) function arguments g w).Agrees
      (Rebound n memory)
      (Execution.invoke p (hostCall calls owner false) function arguments g w') :=
  Execution.run_agrees (fun k cells g _ _ h => hostCall_rebound hc owner false k cells g h) _ _ g h

lemma enter_rebound (hc : Indifferent n memory calls) (f : Address) (p : Program)
    (arguments : List Value) (g : Guest) (h : Rebound n memory w w') :
    (enter calls f p arguments g w).Agrees (Rebound n memory) (enter calls f p arguments g w') := by
  unfold enter
  simp only
  split
  · split
    · exact hostCall_rebound hc f.owner true f.index _ g h
    · exact invoke_rebound hc f.owner p f.index _ g h
  · exact ⟨rfl, rfl, h⟩

/-- **Calls to instances are answered alike whichever memory is bound**, by induction on how deep they
may be nested. -/
theorem callWithin_rebound (n : Nat) (memory : Option Nat) (depth : Nat) :
    Indifferent n memory (callWithin depth : Calls σ) := by
  induction depth with
  | zero => exact fun f arguments w w' h => ⟨rfl, h⟩
  | succ depth ih =>
    intro f arguments w w' h
    cases hg : w.guest? f.owner with
    | none =>
      rw [callWithin_none _ arguments hg, callWithin_none _ arguments ((h.guest?_eq _).trans hg)]
      exact ⟨rfl, h⟩
    | some g =>
      obtain ⟨s, hs, hsg⟩ := Option.bind_eq_some_iff.1 hg
      obtain ⟨s', hs', hprogram, hguest⟩ :
          ∃ s', w'.slots[f.owner]? = some s' ∧ s'.program = s.program ∧ s'.guest = s.guest := by
        obtain heq | ⟨r, hr, -, hr'⟩ := h.slot f.owner
        · exact ⟨s, heq.trans hs, rfl, rfl⟩
        · cases hr.symm.trans hs
          exact ⟨_, hr', rfl, rfl⟩
      rw [callWithin_some depth arguments hs hsg,
        callWithin_some depth arguments hs' (hguest.trans hsg), hprogram]
      obtain ⟨hresult, hguest, hworld⟩ :=
        enter_rebound ih f s.program arguments g (h.setGuest f.owner none)
      simp only [hresult, hguest]
      exact ⟨trivial, hworld.setGuest f.owner _⟩

end World

end Embedder
