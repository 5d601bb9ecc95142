import Embedder.Proofs.World.Growth
import Embedder.Proofs.World.Moment

/-!
# The order of moments

Moments of one run are ordered: an action comes before what it leads to, what happens inside of a
call comes before what happens after it, and of two calls to functions of the host the first comes
before the second. A call that is cut off for want of fuel has no moments after it.

* `Moment.Before`, `Moment.During`: the order of moments, and the worlds between which a moment is;
* `Moment.guest?`: what can be seen of the instances at a moment, those at rest and the one that has
  called the action;
* `Moment.Before.grows`, `Moment.During.grows`: memories only grow along this order;
* `Moment.Occurs.grows`: since the world at the beginning, too.
-/

namespace Embedder

open Execution (Program Guest Machine HostCall Stop)

variable {σ α β γ : Type}

namespace Moment

open World (callWithin hostCall outline_callWithin callWithin_grows)

/-! ### What comes before what -/

/-- A call that the action makes now is not cut off. -/
def Lasts (t : Moment σ α) : Prop :=
  ∀ f arguments next, t.action = .call f arguments next →
    (callWithin t.depth f arguments t.world).1 ≠ .ended (.error .outOfFuel)

/-- An action comes to a moment, by steps of its own and of functions that it calls. -/
inductive Comes (t : Moment σ α) : {β : Type} → Moment σ β → Prop
  | refl : Comes t t
  | step {β : Type} {u v : Moment σ β} (h : Comes t u) (hs : u.Step v) : Comes t v
  | enter {β : Type} {u : Moment σ β} {v : Moment σ (List Value)} (h : Comes t u)
      (he : u.Enters v) : Comes t v

/-- The same, and none of the calls on the way is cut off. -/
inductive Inside (t : Moment σ α) : {β : Type} → Moment σ β → Prop
  | refl : Inside t t
  | step {β : Type} {u v : Moment σ β} (h : Inside t u) (hs : u.Step v) : Inside t v
  | enter {β : Type} {u : Moment σ β} {v : Moment σ (List Value)} (h : Inside t u)
      (hl : u.Lasts) (he : u.Enters v) : Inside t v

/-- Code of the instance `n` calls two functions of the host, one after the other. -/
inductive BeginTwice (running : List Nat) (d n : Nat) (p : Program) (m : Machine) (g : Guest)
    (w : World σ) : Moment σ (List Value) → Moment σ (List Value) → Prop
  | intro {k k' : Nat} {cells cells' : List Cell} {g₁ g₂ : Guest} {w₁ w₂ : World σ}
      {u v : Moment σ (List Value)}
      (hc : Execution.CallsTwice p (hostCall (callWithin d) n false) k cells g₁ w₁ k' cells' g₂ w₂
        m g w)
      (hu : Begins running d n k cells g₁ w₁ u) (hv : Begins running d n k' cells' g₂ w₂ v) :
      BeginTwice running d n p m g w u v

/-- One moment of a run comes before another one, or it is the same. -/
inductive Before (t : Moment σ α) (t' : Moment σ β) : Prop
  | comes (h : t.Comes t')
  | between {running : List Nat} {d n : Nat} {p : Program} {m : Machine} {g : Guest} {w : World σ}
      {u v : Moment σ (List Value)} (h : BeginTwice running d n p m g w u v) (ht : u.Inside t)
      (ht' : v.Comes t')
  | after {γ : Type} {s v : Moment σ γ} {u : Moment σ (List Value)} (hl : s.Lasts)
      (he : s.Enters u) (hs : s.Step v) (ht : u.Inside t) (ht' : v.Comes t')

/-- The moment is one of what the host does in the world `w`, after which there is the world `v`. -/
inductive During (w : World σ) : World σ → {α : Type} → Moment σ α → Prop
  | perform {α β : Type} {a : Action σ α} {t : Moment σ β}
      (h : Inside ⟨[], w.resting, none, a, ⟨#[], #[], #[], #[], #[]⟩, w⟩ t) :
      During w (w.perform a).2 t
  | start {β : Type} {m : Module} {o : ImportObject σ} {ps : List (Provided σ)} {c : Wasi.Context}
      {g g' : Guest} {w' : World σ} {f k : Nat} {cells : List Cell} {u : Moment σ (List Value)}
      {t : Moment σ β}
      (hs : w.contextFor o = .ok c) (hps : o.resolve m = .ok ps)
      (hg : Guest.populate m.definition (Provided.supplied ps) = .ok g)
      (hf : m.definition.start = some f)
      (hl : ((w.addSlot m ps c).start m w.slots.size g).1 ≠ .error .outOfFuel)
      (hc : Execution.CallsHost m.program
        (hostCall (callWithin (w.addSlot m ps c).resting) w.slots.size false) k cells g' w'
        (m.program.entry f []) g (w.addSlot m ps c))
      (hu : Begins [w.slots.size] (w.addSlot m ps c).resting w.slots.size k cells g' w' u)
      (h : u.Inside t) : During w (w.instantiate m o).2 t

/-! ### What can be seen -/

/-- The state of an instance, if it is at rest or has called the action. -/
def guest? (t : Moment σ α) (n : Nat) : Option Guest :=
  (t.world.guest? n).or (if t.running.head? = some n then some t.guest else none)

/-- The moment at which the action has ended. -/
def finish (t : Moment σ α) : Moment σ α :=
  { t with guest := t.ends.2.1, world := t.ends.2.2 }

lemma guest?_of_world {t : Moment σ α} {n : Nat} {g : Guest} (h : t.world.guest? n = some g) :
    t.guest? n = some g := by
  rw [guest?, h]
  rfl

lemma guest?_cases {t : Moment σ α} {n : Nat} {g : Guest} (h : t.guest? n = some g) :
    t.world.guest? n = some g ∨
      t.world.guest? n = none ∧ t.running.head? = some n ∧ t.guest = g := by
  unfold guest? at h
  cases hw : t.world.guest? n with
  | some g' =>
    rw [hw] at h
    exact .inl h
  | none =>
    rw [hw, Option.none_or] at h
    split at h
    · rename_i hn
      exact .inr ⟨rfl, hn, Option.some.inj h⟩
    · cases h

/-- Whoever is seen at the first moment is seen at the second, with memories that have grown at
most. -/
def Ahead (t : Moment σ α) (t' : Moment σ β) : Prop :=
  ∀ n g, t.guest? n = some g → ∃ g', t'.guest? n = some g' ∧ g.Grows g'

/-- Whoever is seen at the second moment was seen at the first, and its memories have grown at most
since then. -/
def Back (t : Moment σ α) (t' : Moment σ β) : Prop :=
  ∀ n g', t'.guest? n = some g' → ∃ g, t.guest? n = some g ∧ g.Grows g'

section Seen

variable {t : Moment σ α} {t' : Moment σ β} {t'' : Moment σ γ}

lemma Ahead.refl (t : Moment σ α) : t.Ahead t := fun _ g hg => ⟨g, hg, .refl g⟩

lemma Ahead.trans (h : t.Ahead t') (h' : t'.Ahead t'') : t.Ahead t'' := by
  intro n g hg
  obtain ⟨g', hg', hgrows⟩ := h n g hg
  obtain ⟨g'', hg'', hgrows'⟩ := h' n g' hg'
  exact ⟨g'', hg'', hgrows.trans hgrows'⟩

lemma Back.refl (t : Moment σ α) : t.Back t := fun _ g hg => ⟨g, hg, .refl g⟩

lemma Back.trans (h : t.Back t') (h' : t'.Back t'') : t.Back t'' := by
  intro n g'' hg''
  obtain ⟨g', hg', hgrows'⟩ := h' n g'' hg''
  obtain ⟨g, hg, hgrows⟩ := h n g' hg'
  exact ⟨g, hg, hgrows.trans hgrows'⟩

/-- From a moment ahead to what it leads to. -/
lemma Ahead.grows_of_back (h : t.Ahead t') (h' : t'.Back t'') {n : Nat} {g g'' : Guest}
    (hg : t.guest? n = some g) (hg'' : t''.guest? n = some g'') : g.Grows g'' := by
  obtain ⟨g', hg', hgrows⟩ := h n g hg
  obtain ⟨x, hx, hgrows'⟩ := h' n g'' hg''
  cases hg'.symm.trans hx
  exact hgrows.trans hgrows'

/-- A moment of the same action, or of another one of the same instance. -/
structure Beside (t : Moment σ α) (t' : Moment σ β) : Prop where
  running : t'.running = t.running
  outline : t'.world.outline = t.world.outline
  guest : t.guest.Grows t'.guest
  world : t.world.Grows t'.world

lemma Beside.ahead (h : t.Beside t') : t.Ahead t' := by
  intro n g hg
  rcases guest?_cases hg with hw | ⟨hw, hn, rfl⟩
  · obtain ⟨g', hg', hgrows⟩ := h.world n g hw
    exact ⟨g', guest?_of_world hg', hgrows⟩
  · have hnone : t'.world.guest? n = none := by
      rw [← Option.isNone_iff_eq_none, ← Option.not_isSome, World.isSome_guest?_congr _ n h.outline,
        hw]
      rfl
    exact ⟨t'.guest, by rw [guest?, hnone, h.running, if_pos hn]; rfl, h.guest⟩

lemma Beside.back (h : t.Beside t') : t.Back t' := by
  intro n g' hg'
  rcases guest?_cases hg' with hw | ⟨hw, hn, rfl⟩
  · obtain ⟨g, hg, hgrows⟩ := h.world.exists_before h.outline hw
    exact ⟨g, guest?_of_world hg, hgrows⟩
  · have hnone : t.world.guest? n = none := by
      rw [← Option.isNone_iff_eq_none, ← Option.not_isSome,
        ← World.isSome_guest?_congr _ n h.outline, hw]
      rfl
    exact ⟨t.guest, by rw [guest?, hnone, ← h.running, if_pos hn]; rfl, h.guest⟩

end Seen

/-! ### Steps and ends -/

lemma Step.beside {t t' : Moment σ α} (h : t.Step t') : t.Beside t' := by
  have houtline := h.outline_eq
  cases h with
  | update change next => exact ⟨rfl, houtline, .refl _, .refl _⟩
  | memory r next => exact ⟨rfl, houtline, World.request_grows _ r _, .refl _⟩
  | operate owner o next => exact ⟨rfl, houtline, .refl _, World.operate_grows _ owner o⟩
  | @refused _ d _ _ w _ f arguments _ hc =>
    have hw := callWithin_grows d f arguments w
    rw [hc] at hw
    exact ⟨rfl, houtline, .refl _, hw⟩
  | @returned _ d _ _ w _ f arguments _ _ hc =>
    have hw := callWithin_grows d f arguments w
    rw [hc] at hw
    exact ⟨rfl, houtline, .refl _, hw⟩

lemma beside_finish (t : Moment σ α) : t.Beside t.finish := by
  obtain ⟨hg, hw⟩ := World.run_grows (callWithin_grows t.depth) t.memory t.action t.guest t.world
  exact ⟨rfl, World.outline_run (outline_callWithin _) t.memory t.action t.guest t.world, hg, hw⟩

lemma Step.beside_finish {t t' : Moment σ α} (h : t.Step t') : t'.finish.Beside t.finish := by
  have hends := h.ends_eq
  have hrunning := h.beside.running
  exact ⟨hrunning.symm, by simp only [finish, hends], by simp only [finish, hends]; exact .refl _,
    by simp only [finish, hends]; exact .refl _⟩

/-! ### Calls -/

section Calls

variable {running : List Nat} {d n k : Nat} {cells : List Cell} {g g₀ g₁ : Guest}
  {w w₀ w₁ : World σ} {u : Moment σ (List Value)} {f : Address} {arguments : List Value}
  {s : Slot σ}

/-- When a function of the host has ended, so has the call to it. -/
lemma Begins.hostCall_eq (h : Begins running d n k cells g w u) (direct : Bool) :
    (hostCall (callWithin d) n direct k cells g w).guest = u.finish.guest ∧
      (hostCall (callWithin d) n direct k cells g w).world = u.finish.world := by
  cases h with
  | intro hs hf hv hm =>
    unfold hostCall World.callHost finish ends
    simp only [hs, hf, hv, hm, Option.bind_some, Option.map_some, Bool.false_eq_true, if_false]
    split <;> simp_all

/-- From the state with which a call is entered to a function of the host that it comes to. -/
lemma callsHost_grows (hc : World.CallsHost (callWithin d) f s.program arguments g₀ w₀ k cells g₁ w₁) :
    g₀.Grows g₁ ∧ w₀.Grows w₁ := by
  cases hc with
  | direct ht hf => exact ⟨.refl _, .refl _⟩
  | code ht hf hc => exact hc.grows (World.hostCall_grows (callWithin_grows d) f.owner false)

/-- From the end of a function of the host to the end of the call that has come to it. -/
lemma enter_grows_of_begins
    (hc : World.CallsHost (callWithin d) f s.program arguments g₀ w₀ k cells g₁ w₁)
    (hb : Begins running d f.owner k cells g₁ w₁ u)
    (hl : (World.enter (callWithin d) f s.program arguments g₀ w₀).result ≠ .error .outOfFuel) :
    u.finish.guest.Grows (World.enter (callWithin d) f s.program arguments g₀ w₀).guest ∧
      u.finish.world.Grows (World.enter (callWithin d) f s.program arguments g₀ w₀).world := by
  unfold World.enter at hl ⊢
  cases hc with
  | direct ht hf =>
    obtain ⟨hguest, hworld⟩ := hb.hostCall_eq true
    simp only [ht, hf, if_true, hguest, hworld]
    exact ⟨.refl _, .refl _⟩
  | code ht hf hc =>
    obtain ⟨hguest, hworld⟩ := hb.hostCall_eq false
    simp only [ht, hf, if_true, if_false] at hl ⊢
    have hgrows := hc.grows_run (World.hostCall_grows (callWithin_grows d) f.owner false) hl
    rw [hguest, hworld] at hgrows
    exact hgrows

/-- From the end of a function of the host to the world in which the call has ended. -/
lemma grows_of_begins (hs : w.slots[f.owner]? = some s) (hg : s.guest = some g₀)
    (hc : World.CallsHost (callWithin d) f s.program arguments g₀ (w.setGuest f.owner none) k cells
      g₁ w₁)
    (hb : Begins (f.owner :: running) d f.owner k cells g₁ w₁ u)
    (hl : (callWithin (d + 1) f arguments w).1 ≠ .ended (.error .outOfFuel)) :
    ∀ i x, u.finish.guest? i = some x →
      ∃ y, (callWithin (d + 1) f arguments w).2.guest? i = some y ∧ x.Grows y := by
  rw [World.callWithin_some d arguments hs hg] at hl ⊢
  have hlasts : (World.enter (callWithin d) f s.program arguments g₀
      (w.setGuest f.owner none)).result ≠ .error .outOfFuel := fun h => hl (by simp only [h]; rfl)
  have hentered := World.outline_enter (outline_callWithin d) f s.program arguments g₀
    (w.setGuest f.owner none)
  obtain ⟨hguest, hworld⟩ := enter_grows_of_begins hc hb hlasts
  generalize World.enter (callWithin d) f s.program arguments g₀ (w.setGuest f.owner none) = o at *
  have hown : w.guest? f.owner = some g₀ := by simp [World.guest?, hs, hg]
  have hlt := World.lt_size_of_guest? w f.owner hown
  have hsize : f.owner < o.world.slots.size := by
    rwa [World.size_congr _ hentered, World.size_setGuest]
  -- the instance that was called is not at rest while the function of the host has its turn
  have hnone : u.finish.world.guest? f.owner = none := by
    have houtline : u.finish.world.outline = (w.setGuest f.owner none).outline := by
      rw [u.beside_finish.outline]
      cases hb
      exact hc.outline_eq (outline_callWithin d)
    rw [← Option.isNone_iff_eq_none, ← Option.not_isSome,
      World.isSome_guest?_congr _ f.owner houtline, World.guest?_setGuest, if_pos ⟨rfl, hlt⟩]
    rfl
  intro i x hx
  simp only [World.guest?_setGuest]
  rcases guest?_cases hx with hw | ⟨-, hi, rfl⟩
  · have hne : f.owner ≠ i := by
      rintro rfl
      rw [hnone] at hw
      cases hw
    rw [if_neg (by simp [hne])]
    exact hworld i x hw
  · have hrunning : u.finish.running.head? = some f.owner := by
      cases hb
      rfl
    obtain rfl := Option.some.inj (hrunning.symm.trans hi)
    exact ⟨o.guest, if_pos ⟨rfl, hsize⟩, hguest⟩

end Calls

lemma Enters.back {t : Moment σ α} {u : Moment σ (List Value)} (h : t.Enters u) : t.Back u := by
  cases h with
  | @call running d memory g g₀ g' w w' f arguments next s k cells _ hs hg hc hb =>
    obtain ⟨hguest, hworld⟩ := callsHost_grows hc
    have houtline := hc.outline_eq (outline_callWithin d)
    have hown : w.guest? f.owner = some g₀ := by simp [World.guest?, hs, hg]
    cases hb
    intro i x hx
    rcases guest?_cases hx with hw | ⟨-, hi, rfl⟩
    · obtain ⟨y, hy, hgrows⟩ := hworld.exists_before houtline hw
      rw [World.guest?_setGuest] at hy
      split at hy
      · cases hy
      · exact ⟨y, guest?_of_world hy, hgrows⟩
    · obtain rfl : f.owner = i := Option.some.inj hi
      exact ⟨g₀, guest?_of_world hown, hguest⟩

/-- What a function of the host leaves is found again after the call in which it was called. -/
lemma Enters.ahead_step {t t' : Moment σ α} {u : Moment σ (List Value)} (h : t.Enters u)
    (hl : t.Lasts) (hs : t.Step t') : u.finish.Ahead t' := by
  cases h with
  | @call running d memory g g₀ g' w w' f arguments next s k cells _ hslot hg hc hb =>
    have hgrows := grows_of_begins hslot hg hc hb (hl f arguments next rfl)
    intro i x hx
    obtain ⟨y, hy, hxy⟩ := hgrows i x hx
    refine ⟨y, guest?_of_world ?_, hxy⟩
    cases hs with
    | refused hcall => rwa [hcall] at hy
    | returned hcall => rwa [hcall] at hy

/-- It is found again when the action that made the call has ended. -/
lemma Enters.ahead_finish {t : Moment σ α} {u : Moment σ (List Value)} (h : t.Enters u)
    (hl : t.Lasts) : u.finish.Ahead t.finish := by
  have hstep : ∀ t', Step t t' → u.finish.Ahead t' := fun _ hs => h.ahead_step hl hs
  cases h with
  | @call running d memory g g₀ g' w w' f arguments next s k cells _ hslot hg hc hb =>
    cases hcall : callWithin (d + 1) f arguments w with
    | mk answer w₂ =>
      cases answer with
      | busy =>
        have hs : Step ⟨running, d + 1, memory, .call f arguments next, g, w⟩ _ := .refused hcall
        exact (hstep _ hs).trans ((beside_finish _).ahead.trans hs.beside_finish.ahead)
      | ended r =>
        have hs : Step ⟨running, d + 1, memory, .call f arguments next, g, w⟩ _ := .returned hcall
        exact (hstep _ hs).trans ((beside_finish _).ahead.trans hs.beside_finish.ahead)
      | panicked =>
        have hgrows := grows_of_begins hslot hg hc hb (hl f arguments next rfl)
        rw [hcall] at hgrows
        intro i x hx
        obtain ⟨y, hy, hxy⟩ := hgrows i x hx
        exact ⟨y, guest?_of_world (by simpa [finish, ends, World.run, hcall] using hy), hxy⟩

/-! ### Along the order -/

/-- Whoever is seen at a moment was seen when the action began. -/
lemma Comes.back {t : Moment σ α} {t' : Moment σ β} (h : t.Comes t') : t.Back t' := by
  induction h with
  | refl => exact .refl t
  | step _ hs ih => exact ih.trans hs.beside.back
  | enter _ he ih => exact ih.trans he.back

/-- Whoever is seen at a moment is seen when the action has ended. -/
lemma Inside.ahead {u : Moment σ α} {t : Moment σ β} (h : u.Inside t) : t.Ahead u.finish := by
  have hfinish : t.finish.Ahead u.finish := by
    induction h with
    | refl => exact .refl _
    | step _ hs ih => exact hs.beside_finish.ahead.trans ih
    | enter _ hl he ih => exact (he.ahead_finish hl).trans ih
  exact t.beside_finish.ahead.trans hfinish

/-- What the first of two functions of the host leaves is found again when the second begins. -/
lemma BeginTwice.beside {running : List Nat} {d n : Nat} {p : Program} {m : Machine} {g : Guest}
    {w : World σ} {u v : Moment σ (List Value)} (h : BeginTwice running d n p m g w u v) :
    u.finish.Beside v := by
  obtain ⟨hc, hu, hv⟩ := h
  obtain ⟨m', hc⟩ := hc.exists_callsHost
  obtain ⟨hg, hw⟩ := hu.hostCall_eq false
  rw [hg, hw] at hc
  obtain ⟨hguest, hworld⟩ := hc.grows (World.hostCall_grows (callWithin_grows d) n false)
  have houtline := hc.keeps World.outline (World.outline_hostCall (outline_callWithin d) n false)
  cases hu
  cases hv
  exact ⟨rfl, houtline, hguest, hworld⟩

/-- **Memories only grow from one moment to a later one.** -/
theorem Before.grows {t : Moment σ α} {t' : Moment σ β} (h : t.Before t') {n : Nat}
    {g g' : Guest} (hg : t.guest? n = some g) (hg' : t'.guest? n = some g') : g.Grows g' := by
  cases h with
  | comes h => exact (Ahead.refl t).grows_of_back h.back hg hg'
  | between h ht ht' => exact (ht.ahead.trans h.beside.ahead).grows_of_back ht'.back hg hg'
  | after hl he hs ht ht' =>
    exact (ht.ahead.trans (he.ahead_step hl hs)).grows_of_back ht'.back hg hg'

/-- **Memories only grow from a moment to the end of what the host does.** -/
theorem During.grows {w v : World σ} {t : Moment σ α} (h : During w v t) {n : Nat}
    (hn : n < w.slots.size) {g : Guest} (hg : t.guest? n = some g) :
    ∃ g', v.guest? n = some g' ∧ g.Grows g' := by
  cases h with
  | perform h =>
    obtain ⟨g', hg', hgrows⟩ := h.ahead n g hg
    rcases guest?_cases hg' with hw | ⟨-, hhead, -⟩
    · exact ⟨g', hw, hgrows⟩
    · cases hhead
  | @start _ m o ps c g₀ g₁ w₁ f k cells u _ hs hps hpopulate hf hl hc hu h =>
    have hinstantiate : w.instantiate m o = w.launch m ps c g₀ := by
      unfold World.instantiate
      simp only [hs, hps, hpopulate]
    rw [hinstantiate, World.guest?_launch w m ps c g₀ hn]
    unfold World.start at hl ⊢
    simp only [hf, Execution.invoke_eq_run] at hl ⊢
    obtain ⟨-, hworld⟩ := hc.grows_run
      (World.hostCall_grows (callWithin_grows (w.addSlot m ps c).resting) w.slots.size false)
      fun hfuel => hl (by rw [hfuel]; rfl)
    rw [(hu.hostCall_eq false).2] at hworld
    obtain ⟨g', hg', hgrows⟩ := h.ahead n g hg
    rcases guest?_cases hg' with hw | ⟨-, hhead, -⟩
    · obtain ⟨g'', hg'', hgrows'⟩ := hworld n g' hw
      exact ⟨g'', hg'', hgrows.trans hgrows'⟩
    · have hrunning : u.finish.running.head? = some w.slots.size := by
        cases hu
        rfl
      obtain rfl := Option.some.inj (hrunning.symm.trans hhead)
      exact absurd hn (Nat.lt_irrefl _)

/-- **Memories only grow from the beginning of what the host does to any moment of it.** -/
theorem Occurs.grows {w : World σ} {t : Moment σ α} (h : t.Occurs w) {n : Nat}
    (hn : n < w.slots.size) {g' : Guest} (hg' : t.guest? n = some g') :
    ∃ g, w.guest? n = some g ∧ g.Grows g' := by
  induction h generalizing g' with
  | perform a =>
    rcases guest?_cases hg' with hw | ⟨-, hhead, -⟩
    · exact ⟨g', hw, .refl g'⟩
    · cases hhead
  | @start m o ps c g₀ g₁ w₁ f k cells t hs hps hpopulate hf hc hb =>
    obtain ⟨-, hworld⟩ := hc.grows
      (World.hostCall_grows (callWithin_grows (w.addSlot m ps c).resting) w.slots.size false)
    have houtline := hc.keeps World.outline
      (World.outline_hostCall (outline_callWithin _) w.slots.size false)
    cases hb
    rcases guest?_cases hg' with hw | ⟨-, hhead, -⟩
    · obtain ⟨g, hg, hgrows⟩ := hworld.exists_before houtline hw
      rw [World.guest?_addSlot w m ps c hn] at hg
      exact ⟨g, hg, hgrows⟩
    · obtain rfl : w.slots.size = n := Option.some.inj hhead
      exact absurd hn (Nat.lt_irrefl _)
  | step _ hs ih =>
    obtain ⟨g₁, hg₁, hgrows₁⟩ := hs.beside.back n g' hg'
    obtain ⟨g, hg, hgrows⟩ := ih hg₁
    exact ⟨g, hg, hgrows.trans hgrows₁⟩
  | enter _ he ih =>
    obtain ⟨g₁, hg₁, hgrows₁⟩ := he.back n g' hg'
    obtain ⟨g, hg, hgrows⟩ := ih hg₁
    exact ⟨g, hg, hgrows.trans hgrows₁⟩

end Moment

end Embedder
