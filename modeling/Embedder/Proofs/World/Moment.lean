import Embedder.Proofs.World.Depth
import Embedder.Proofs.World.History

/-!
# The moments of a run

An action of the host may call an instance, whose code may call a function of the host, which may
call another instance, and so on. A moment is a point in such a run at which an action of the host
or of one of its functions has its turn.

* `Moment`: the instances that have an operation in progress, and what the action can reach;
* `Moment.Occurs`: the moments of what the host does in a world, step by step and call by call;
* `Moment.Step.ends_eq`: a step does not change how the action ends;
* `Moment.Occurs.sound`: the instances with an operation in progress are those that are not at
  rest, and the bound on the depth is never met;
* `Moment.Occurs.outline_getElem?`, `Moment.Occurs.outline_of_made`: the instances stay what they are;
* `Moment.Runs`: where code begins to run.
-/

namespace Embedder

open Execution (Program Guest Machine HostCall Stop)

variable {σ α β : Type}

namespace World

/-! ### Calls to the host -/

/-- A call to a function of an instance comes to a call to the function `k` of the host: it is
that function, or its code calls it. -/
inductive CallsHost (calls : Calls σ) (f : Address) (p : Program) (arguments : List Value) (g : Guest)
    (w : World σ) : Nat → List Cell → Guest → World σ → Prop
  | direct (ht : p.takes f.index (arguments.map Cell.ofValue)) (h : f.index < p.imported) :
      CallsHost calls f p arguments g w f.index (arguments.map Cell.ofValue) g w
  | code {k : Nat} {cells : List Cell} {g' : Guest} {w' : World σ}
      (ht : p.takes f.index (arguments.map Cell.ofValue)) (h : ¬ f.index < p.imported)
      (hc : Execution.CallsHost p (hostCall calls f.owner false) k cells g' w'
        (p.entry f.index (arguments.map Cell.ofValue)) g w) :
      CallsHost calls f p arguments g w k cells g' w'

lemma CallsHost.outline_eq {calls : Calls σ} (hc : Steady calls) {f : Address} {p : Program}
    {arguments : List Value} {g g' : Guest} {w w' : World σ} {k : Nat} {cells : List Cell}
    (h : CallsHost calls f p arguments g w k cells g' w') : w'.outline = w.outline := by
  cases h with
  | direct ht h => rfl
  | code ht h hk => exact hk.keeps outline (outline_hostCall hc f.owner false)

end World

/-! ### Moments -/

/-- A point in a run. `running` are the instances with an operation in progress, the innermost
first; `guest` is the state of that one, and `memory` the memory that it lends. -/
structure Moment (σ α : Type) where
  running : List Nat
  depth : Nat
  memory : Option Nat
  action : Action σ α
  guest : Guest
  world : World σ

namespace Moment

open World (run callWithin hostCall request Calls)

/-- How the action ends from here. -/
def ends (t : Moment σ α) : World.Ended α × Guest × World σ :=
  run (callWithin t.depth) t.memory t.action t.guest t.world

/-- The same moment for another action. -/
def turn (t : Moment σ α) (a : Action σ β) : Moment σ β := { t with action := a }

/-- The action takes a step, with the answer to it. -/
inductive Step : Moment σ α → Moment σ α → Prop
  | update {running : List Nat} {d : Nat} {memory : Option Nat} {g : Guest} {w : World σ}
      (change : σ → σ) (next : σ → Action σ α) :
      Step ⟨running, d, memory, .update change next, g, w⟩
        ⟨running, d, memory, next (change w.host), g, { w with host := change w.host }⟩
  | memory {running : List Nat} {d : Nat} {memory : Option Nat} {g : Guest} {w : World σ}
      (r : MemoryRequest) (next : r.Result → Action σ α) :
      Step ⟨running, d, memory, .memory r next, g, w⟩
        ⟨running, d, memory, next (request memory r g).1, (request memory r g).2, w⟩
  | operate {running : List Nat} {d : Nat} {memory : Option Nat} {g : Guest} {w : World σ}
      (owner : Nat) (o : Operation) (next : Option o.Result → Action σ α) :
      Step ⟨running, d, memory, .operate owner o next, g, w⟩
        ⟨running, d, memory, next (w.operate owner o).1, g, (w.operate owner o).2⟩
  | refused {running : List Nat} {d : Nat} {memory : Option Nat} {g : Guest} {w w' : World σ}
      {f : Address} {arguments : List Value} {next : Option (Except Stop (List Cell)) → Action σ α}
      (h : callWithin d f arguments w = (.busy, w')) :
      Step ⟨running, d, memory, .call f arguments next, g, w⟩
        ⟨running, d, memory, next none, g, w'⟩
  | returned {running : List Nat} {d : Nat} {memory : Option Nat} {g : Guest} {w w' : World σ}
      {f : Address} {arguments : List Value} {next : Option (Except Stop (List Cell)) → Action σ α}
      {r : Except Stop (List Cell)} (h : callWithin d f arguments w = (.ended r, w')) :
      Step ⟨running, d, memory, .call f arguments next, g, w⟩
        ⟨running, d, memory, next (some r), g, w'⟩

/-- A function of the host begins, called by the instance `owner` as the function `k`. -/
inductive Begins (running : List Nat) (d owner k : Nat) (cells : List Cell) (g : Guest)
    (w : World σ) : Moment σ (List Value) → Prop
  | intro {s : Slot σ} {f : HostFunction σ} {values : List Value} (hs : w.slots[owner]? = some s)
      (hf : s.imported[k]? = some (.host f)) (hv : cells.mapM Cell.toValue? = some values)
      (hm : (f.usesMemory && s.boundMemory.isNone) = false) :
      Begins running d owner k cells g w
        ⟨running, d, if f.usesMemory then s.boundMemory else none, f.body values, g, w⟩

/-- The action calls an instance at rest, and the call comes to a function of the host. -/
inductive Enters : Moment σ α → Moment σ (List Value) → Prop
  | call {running : List Nat} {d : Nat} {memory : Option Nat} {g g₀ g' : Guest} {w w' : World σ}
      {f : Address} {arguments : List Value} {next : Option (Except Stop (List Cell)) → Action σ α}
      {s : Slot σ} {k : Nat} {cells : List Cell} {t : Moment σ (List Value)}
      (hs : w.slots[f.owner]? = some s) (hg : s.guest = some g₀)
      (hc : World.CallsHost (callWithin d) f s.program arguments g₀ (w.setGuest f.owner none) k cells
        g' w')
      (ht : Begins (f.owner :: running) d f.owner k cells g' w' t) :
      Enters ⟨running, d + 1, memory, .call f arguments next, g, w⟩ t

/-- The moments of what the host does in a world. It performs an action, or it makes an instance
whose start function calls one of its functions. -/
inductive Occurs (w : World σ) : {α : Type} → Moment σ α → Prop
  | perform {α : Type} (a : Action σ α) :
      Occurs w ⟨[], w.resting, none, a, ⟨#[], #[], #[], #[], #[]⟩, w⟩
  | start {m : Module} {o : ImportObject σ} {ps : List (Provided σ)} {c : Wasi.Context}
      {g g' : Guest} {w' : World σ} {f k : Nat} {cells : List Cell} {t : Moment σ (List Value)}
      (hs : w.contextFor o = .ok c) (hps : o.resolve m = .ok ps)
      (hg : Guest.populate m.definition (Provided.supplied ps) = .ok g)
      (hf : m.definition.start = some f)
      (hc : Execution.CallsHost m.program
        (hostCall (callWithin (w.addSlot m ps c).resting) w.slots.size false) k cells g' w'
        (m.program.entry f []) g (w.addSlot m ps c))
      (ht : Begins [w.slots.size] (w.addSlot m ps c).resting w.slots.size k cells g' w' t) :
      Occurs w t
  | step {α : Type} {t t' : Moment σ α} (h : Occurs w t) (hs : Step t t') : Occurs w t'
  | enter {α : Type} {t : Moment σ α} {t' : Moment σ (List Value)} (h : Occurs w t)
      (he : Enters t t') : Occurs w t'

/-- A step does not change how the action ends. -/
theorem Step.ends_eq {t t' : Moment σ α} (h : Step t t') : t.ends = t'.ends := by
  cases h with
  | update change next => rfl
  | memory r next => rfl
  | operate owner o next => rfl
  | refused h => simp only [ends, run, h]
  | returned h => simp only [ends, run, h]

/-- A step neither takes instances from their rest nor puts them back. -/
lemma Step.outline_eq {t t' : Moment σ α} (h : Step t t') :
    t'.world.outline = t.world.outline := by
  cases h with
  | update change next => rfl
  | memory r next => rfl
  | operate owner o next => exact World.outline_operate _ owner o
  | @refused _ d _ _ w _ f arguments _ hc =>
    have hw := World.outline_callWithin d f arguments w
    rwa [hc] at hw
  | @returned _ d _ _ w _ f arguments _ _ hc =>
    have hw := World.outline_callWithin d f arguments w
    rwa [hc] at hw

/-! ### Which instances are at rest -/

/-- The instances with an operation in progress are those that are not at rest, and every one that
is can be called. -/
structure Sound (t : Moment σ α) : Prop where
  running_iff : ∀ n < t.world.slots.size, (t.world.guest? n = none ↔ n ∈ t.running)
  resting_le : t.world.resting ≤ t.depth

/-- Only the outline of the world matters. -/
lemma Sound.of_outline {t : Moment σ α} {t' : Moment σ β} (h : t.Sound)
    (hw : t'.world.outline = t.world.outline) (hr : t'.running = t.running)
    (hd : t'.depth = t.depth) : t'.Sound := by
  refine ⟨fun n hn => ?_, ?_⟩
  · rw [World.size_congr _ hw] at hn
    rw [hr, ← h.running_iff n hn, ← Option.isNone_iff_eq_none, ← Option.isNone_iff_eq_none,
      ← Option.not_isSome, ← Option.not_isSome, World.isSome_guest?_congr _ n hw]
  · rw [World.resting_congr _ hw, hd]
    exact h.resting_le

lemma Sound.step {t t' : Moment σ α} (h : t.Sound) (hs : Step t t') : t'.Sound := by
  refine h.of_outline hs.outline_eq ?_ ?_
  · cases hs <;> rfl
  · cases hs <;> rfl

lemma Begins.of_sound {running : List Nat} {d owner k : Nat} {cells : List Cell} {g : Guest}
    {w : World σ} {t : Moment σ (List Value)} (ht : Begins running d owner k cells g w t)
    (h : (⟨running, d, none, .panic, g, w⟩ : Moment σ α).Sound) : t.Sound := by
  cases ht
  exact h.of_outline rfl rfl rfl

/-- A call takes its instance from its rest and puts it on top. -/
lemma Sound.enters {t : Moment σ α} {t' : Moment σ (List Value)} (h : t.Sound)
    (he : Enters t t') : t'.Sound := by
  obtain ⟨hs, hg, hc, ht⟩ := he
  rename_i running d memory g g₀ g' w w' f arguments next s k cells
  have hguest : w.guest? f.owner = some g₀ := by simp [World.guest?, hs, hg]
  have hsize : f.owner < w.slots.size := World.lt_size_of_guest? w f.owner hguest
  have hcalled : (⟨f.owner :: running, d, none, .panic, g', w.setGuest f.owner none⟩ :
      Moment σ α).Sound := by
    refine ⟨fun n hn => ?_, ?_⟩
    · have hn : n < w.slots.size := by simpa using hn
      have hrun := h.running_iff n hn
      rw [World.guest?_setGuest, List.mem_cons]
      by_cases hown : f.owner = n
      · simp [hown, hn]
      · simpa [hown, Ne.symm hown] using hrun
    · have hlt := World.resting_setGuest_none w f.owner hguest
      have hle := h.resting_le
      simp only at hle ⊢
      omega
  have hthere : (⟨f.owner :: running, d, none, .panic, g', w'⟩ : Moment σ α).Sound :=
    hcalled.of_outline (hc.outline_eq (World.outline_callWithin d)) rfl rfl
  exact ht.of_sound hthere

/-- **An instance has an operation in progress exactly while it is not at rest**, at every moment of
whatever the host does. -/
theorem Occurs.sound {w : World σ} (hw : w.AtRest) {t : Moment σ α} (h : Occurs w t) :
    t.Sound := by
  induction h with
  | perform a =>
    refine ⟨fun n hn => ?_, Nat.le_refl _⟩
    have hrest := hw n hn
    simp only [List.not_mem_nil, iff_false]
    exact Option.isSome_iff_ne_none.1 hrest
  | @start m o ps c g g' w' f k cells t hs hps hg hf hc ht =>
    have hadded : (⟨[w.slots.size], (w.addSlot m ps c).resting, none, .panic, g',
        w.addSlot m ps c⟩ : Moment σ Unit).Sound := by
      refine ⟨fun n hn => ?_, Nat.le_refl _⟩
      have hrest := hw n
      simp only [World.guest?, World.addSlot, Array.getElem?_push, Array.size_push,
        List.mem_singleton] at hrest hn ⊢
      by_cases hlast : n = w.slots.size
      · simp [hlast]
      · simp only [hlast, if_false, iff_false]
        exact Option.isSome_iff_ne_none.1 (hrest (by omega))
    have hthere : (⟨[w.slots.size], (w.addSlot m ps c).resting, none, .panic, g', w'⟩ :
        Moment σ Unit).Sound :=
      hadded.of_outline (hc.keeps World.outline
        (World.outline_hostCall (World.outline_callWithin _) w.slots.size false)) rfl rfl
    exact ht.of_sound hthere
  | step _ hs ih => exact ih.step hs
  | enter _ he ih => exact ih.enters he

/-! ### Which instances there are -/

/-- An instance stays what it is while the host does something, but it may be running. -/
theorem Occurs.outline_getElem? {w : World σ} {t : Moment σ α} (h : Occurs w t) {n : Nat}
    {o : Outline σ} (ho : w.outline[n]? = some o) :
    ∃ atRest, t.world.outline[n]? = some { o with atRest } := by
  induction h with
  | perform a => exact ⟨o.atRest, ho⟩
  | @start m object ps c g g' w' f k cells t hs hps hg hf hc ht =>
    have hw' : w'.outline = (w.addSlot m ps c).outline :=
      hc.keeps World.outline (World.outline_hostCall (World.outline_callWithin _) w.slots.size false)
    have hn : n ≠ w.outline.size := Nat.ne_of_lt (Array.getElem?_eq_some_iff.1 ho).1
    refine ⟨o.atRest, ?_⟩
    cases ht
    rw [hw', World.outline_addSlot, Array.getElem?_push, if_neg hn]
    exact ho
  | step _ hs ih => rwa [hs.outline_eq]
  | enter _ he ih =>
    obtain ⟨hs, hg, hc, ht⟩ := he
    obtain ⟨atRest, ho'⟩ := ih
    cases ht
    rw [hc.outline_eq (World.outline_callWithin _), World.outline_setGuest, Array.getElem?_modify,
      ho']
    split
    · exact ⟨_, rfl⟩
    · exact ⟨_, rfl⟩

/-- An instance that was made has the program of its module and the memories that it exports. -/
lemma Occurs.outline_of_made {w₀ w₁ w : World σ} {m : Module} {o : ImportObject σ} {i : Instance}
    {t : Moment σ α} (hi : w₀.instantiate m o = (.made i, w₁)) (hw : World.Leads w₁ w)
    (ht : Occurs w t) :
    ∃ ps atRest, o.resolve m = .ok ps ∧ t.world.outline[i.number]? = some
      ⟨m.program, (Provided.functions ps).toArray, m.boundMemory, m.exportedMemory, atRest⟩ := by
  obtain ⟨ps, hps, hnumber, -, -, houtline⟩ := World.outline_instantiate_made hi
  have hnew : w₁.outline[i.number]? = some
      ⟨m.program, (Provided.functions ps).toArray, m.boundMemory, m.exportedMemory, true⟩ := by
    rw [houtline, hnumber, ← World.size_outline, Array.getElem?_push_size]
  obtain ⟨atRest, ho⟩ := ht.outline_getElem? (hw.outline_getElem? hnew)
  exact ⟨ps, atRest, hps, ho⟩

lemma Occurs.lt_size {w : World σ} {t : Moment σ α} (h : Occurs w t) {n : Nat}
    (hn : n < w.slots.size) : n < t.world.slots.size := by
  rw [← World.size_outline] at hn
  obtain ⟨atRest, ho⟩ := h.outline_getElem? (Array.getElem?_eq_getElem hn)
  rw [← World.size_outline]
  exact (Array.getElem?_eq_some_iff.1 ho).1

/-- An instance without an operation in progress is at rest. -/
lemma Occurs.exists_guest {w : World σ} (hw : w.AtRest) {t : Moment σ α} (h : Occurs w t) {n : Nat}
    (hn : n < w.slots.size) (hrun : n ∉ t.running) : ∃ g, t.world.guest? n = some g :=
  Option.ne_none_iff_exists'.1 (mt ((h.sound hw).running_iff n (h.lt_size hn)).1 hrun)

/-! ### Code -/

/-- The code of the instance `owner` begins to run: an action calls one of its functions, or it has
just been made. -/
inductive Runs (w : World σ) : (owner depth : Nat) → Program → Machine → Guest → World σ → Prop
  | call {α : Type} {running : List Nat} {d : Nat} {memory : Option Nat} {g g₀ : Guest}
      {v : World σ} {f : Address} {arguments : List Value}
      {next : Option (Except Stop (List Cell)) → Action σ α} {s : Slot σ}
      (h : Occurs w ⟨running, d + 1, memory, .call f arguments next, g, v⟩)
      (hs : v.slots[f.owner]? = some s) (hg : s.guest = some g₀)
      (ht : s.program.takes f.index (arguments.map Cell.ofValue))
      (hf : ¬ f.index < s.program.imported) :
      Runs w f.owner d s.program (s.program.entry f.index (arguments.map Cell.ofValue)) g₀
        (v.setGuest f.owner none)
  | start {m : Module} {o : ImportObject σ} {ps : List (Provided σ)} {c : Wasi.Context} {g : Guest}
      {f : Nat} (hs : w.contextFor o = .ok c) (hps : o.resolve m = .ok ps)
      (hg : Guest.populate m.definition (Provided.supplied ps) = .ok g)
      (hf : m.definition.start = some f) :
      Runs w w.slots.size (w.addSlot m ps c).resting m.program (m.program.entry f []) g
        (w.addSlot m ps c)

end Moment

end Embedder
