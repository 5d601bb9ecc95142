import Embedder.Proofs.Runs.Point
import Embedder.Proofs.World.Depth
import Embedder.Proofs.World.Reentrancy

/-!
# Step by step to the same end

A run that goes step by step ends as the functions say which run a call, an action or an instantiation
as a whole.

* `World.hostCall_of_opening`, `World.hostCall_congr_of_no_opening`: a call to the host is the run of a
  function's body, or no instance is called by it;
* `Point.Follows`: the steps lead to what calls answer, `Point.follows_callWithin`: to what instances do;
* `Point.goes_perform`, `Point.goes_launch`: the host gets its turn again, in the world that an action
  or an instantiation leaves;
* `Point.runs_iff_leads`: steps lead from world to world exactly as events do.
-/

namespace Embedder

open Execution (Program Guest Machine Stop)
open Relation (ReflTransGen)

variable {σ : Type}

namespace World

variable {w : World σ} {owner k : Nat} {cells : List Cell}

/-! ### Calls to the host -/

/-- A function of the host that can begin is run. -/
lemma hostCall_of_opening {f : HostFunction σ} {memory : Option Nat} {values : List Value}
    (h : w.opening? owner k cells = some (f, memory, values)) (calls : Calls σ) (direct : Bool)
    (g : Guest) :
    hostCall calls owner direct k cells g w =
      let r := run calls memory (f.body values) g w
      ⟨resultsOf f.type.results r.1, r.2.1, r.2.2⟩ := by
  unfold opening? at h
  unfold hostCall
  split at h
  · rename_i s f' hs
    split at h
    · rename_i values' hv
      split at h
      · cases h
      · rename_i hm
        cases h
        simp only [hs, callHost, hv, hm, Bool.false_eq_true, if_false]
        generalize run calls (if f.usesMemory then s.boundMemory else none) (f.body values) g w = r
        obtain ⟨ended, g', w'⟩ := r
        cases ended <;> rfl
    · cases h
  · cases h

/-- Otherwise no instance is called. -/
lemma hostCall_congr_of_no_opening (h : w.opening? owner k cells = none) (calls calls' : Calls σ)
    (direct : Bool) (g : Guest) :
    hostCall calls owner direct k cells g w = hostCall calls' owner direct k cells g w := by
  obtain hcall | ⟨s, v, f, -, -, hcall⟩ := hostCall_of_no_opening h
  · rw [hcall calls, hcall calls']
  · rw [hcall calls, hcall calls']

/-- An instance that is not at rest cannot be entered. -/
lemma program?_eq_none (h : w.guest? owner = none) :
    ((w.slots[owner]?).bind fun s => s.guest.map fun g => (s.program, g)) = none := by
  cases hs : w.slots[owner]? with
  | none => rfl
  | some s =>
    have hg : s.guest = none := by simpa [guest?, hs] using h
    simp [hg]

lemma request_none (r : MemoryRequest) (g : Guest) : (request none r g).2 = g := by
  cases r <;> rfl

end World

namespace Point

open World (Ended Calls Steady callHost hostCall callWithin request resultsOf mute answerOf)

variable {calls : Calls σ} {d n : Nat} {ws : List (Waiting σ)} {running rest : List (Nat × Guest)}
  {g : Guest} {w : World σ} {p : Program}

@[simp] lemma setInnermost_innermost (running : List (Nat × Guest)) :
    setInnermost (innermost running) running = running := by
  cases running <;> rfl

@[simp] lemma setInnermost_setInnermost (g g' : Guest) (running : List (Nat × Guest)) :
    setInnermost g (setInnermost g' running) = setInnermost g running := by
  cases running <;> rfl

/-! ### Actions -/

/-- The steps lead to what the calls answer, as long as at most `d` instances are at rest. -/
def Follows (calls : Calls σ) (d : Nat) : Prop :=
  ∀ memory f arguments next ws running (w : World σ), w.resting ≤ d →
    Goes ⟨.action memory (.call f arguments next), ws, running, w⟩
      ⟨.action memory (reply next (calls f arguments w).1), ws, running, (calls f arguments w).2⟩

/-- The steps of an action lead to its end. The host itself has no memory to lend. -/
lemma goes_action (hc : Steady calls) (hf : Follows calls d) {memory : Option Nat}
    (a : Action σ (List Value)) (hd : w.resting ≤ d) (hm : running = [] → memory = none) :
    Goes ⟨.action memory a, ws, running, w⟩
      (finish (World.run calls memory a (innermost running) w).1
        (setInnermost (World.run calls memory a (innermost running) w).2.1 running)
        (World.run calls memory a (innermost running) w).2.2 ws) := by
  induction a generalizing running w with
  | done values =>
    simp only [World.run, setInnermost_innermost]
    exact .single rfl
  | fail message =>
    simp only [World.run, setInnermost_innermost]
    exact .single rfl
  | panic =>
    simp only [World.run, setInnermost_innermost]
    exact .single rfl
  | update change next ih =>
    unfold World.run
    exact .of_next rfl (ih _ (w := { w with host := change w.host }) hd hm)
  | memory r next ih =>
    have hinner : innermost (setInnermost (request memory r (innermost running)).2 running) =
        (request memory r (innermost running)).2 := by
      cases running with
      | nil =>
        rw [hm rfl, World.request_none]
        rfl
      | cons => rfl
    have hrun := @ih (request memory r (innermost running)).1
      (setInnermost (request memory r (innermost running)).2 running) w hd fun h => hm (by
        cases running with
        | nil => rfl
        | cons => cases h)
    simp only [hinner, setInnermost_setInnermost] at hrun
    unfold World.run
    exact .of_next rfl hrun
  | operate owner o next ih =>
    have hd' : (w.operate owner o).2.resting ≤ d := by
      rwa [World.resting_congr w (World.outline_operate w owner o)]
    unfold World.run
    exact .of_next rfl (ih _ hd' hm)
  | call f arguments next ih =>
    have hcall := hf memory f arguments next ws running w hd
    have hd' : (calls f arguments w).2.resting ≤ d := by
      rwa [World.resting_congr w (hc f arguments w)]
    unfold World.run
    generalize calls f arguments w = answered at hcall hd'
    obtain ⟨answer, w'⟩ := answered
    cases answer with
    | busy => exact hcall.trans (ih none hd' hm)
    | panicked =>
      refine hcall.trans ?_
      simp only [setInnermost_innermost]
      exact .single rfl
    | ended r => exact hcall.trans (ih (some r) hd' hm)

/-! ### Calls to the host -/

/-- The steps of a call to the host lead to its end. -/
lemma goes_callImport (hc : Steady calls) (hf : Follows calls d) (direct : Bool) (k : Nat)
    (cells : List Cell) (hd : w.resting ≤ d) :
    let o := hostCall calls n direct k cells g w
    Goes (callImport direct k cells ws n g rest w)
      ⟨.ended o.result, ws, (n, o.guest) :: rest, o.world⟩ := by
  unfold callImport
  cases ho : w.opening? n k cells with
  | none =>
    rw [World.hostCall_congr_of_no_opening ho calls mute]
    exact .refl
  | some opened =>
    obtain ⟨f, memory, values⟩ := opened
    rw [World.hostCall_of_opening ho]
    exact @goes_action _ calls d _ ((n, g) :: rest) w hc hf memory (f.body values) hd (nomatch ·)

/-- The steps of code lead to the end of its call. -/
lemma goes_code (hc : Steady calls) (hf : Follows calls d) (fuel : Nat) (m : Machine)
    (hd : w.resting ≤ d) :
    let o := Execution.run p (hostCall calls n false) fuel m g w
    Goes ⟨.code p fuel m, ws, (n, g) :: rest, w⟩
      ⟨.ended o.result, ws, (n, o.guest) :: rest, o.world⟩ := by
  induction fuel generalizing m g w with
  | zero => exact .single rfl
  | succ fuel ih =>
    unfold Execution.run
    cases hs : m.step p g with
    | next m' g' =>
      have hnext : (⟨.code p (fuel + 1) m, ws, (n, g) :: rest, w⟩ : Point σ).next =
          some ⟨.code p fuel m', ws, (n, g') :: rest, w⟩ := by
        simp only [next, compute, hs]
      exact .of_next hnext (ih m' hd)
    | finished results g' => exact .single (by simp only [next, compute, hs])
    | fault f g' => exact .single (by simp only [next, compute, hs])
    | host k cells m' g' =>
      have hnext : (⟨.code p (fuel + 1) m, ws, (n, g) :: rest, w⟩ : Point σ).next =
          some (callImport false k cells (.code p fuel m' :: ws) n g' rest w) := by
        simp only [next, compute, hs]
      have hcall : Goes (callImport false k cells (.code p fuel m' :: ws) n g' rest w) _ :=
        goes_callImport hc hf false k cells hd
      have hd' : (hostCall calls n false k cells g' w).world.resting ≤ d := by
        rwa [World.resting_congr w (World.outline_hostCall hc n false k cells g' w)]
      simp only
      generalize hostCall calls n false k cells g' w = o at hcall hd'
      obtain ⟨result, g₂, w₂⟩ := o
      refine .of_next hnext (hcall.trans ?_)
      cases result with
      | ok results => exact .of_next rfl (ih (m'.resume results) hd')
      | error s => exact .single rfl

/-! ### Calls to instances -/

lemma goes_enter (hc : Steady calls) (hf : Follows calls d) (f : Address) (arguments : List Value)
    (hd : w.resting ≤ d) :
    let o := World.enter calls f p arguments g w
    Goes (enter f p arguments ws g rest w)
      ⟨.ended o.result, ws, (f.owner, o.guest) :: rest, o.world⟩ := by
  unfold enter World.enter
  by_cases ht : p.takes f.index (arguments.map Cell.ofValue) = true
  · simp only [ht, if_true]
    by_cases hi : f.index < p.imported
    · simp only [hi, if_true]
      exact goes_callImport hc hf true f.index _ hd
    · simp only [hi, if_false]
      exact goes_code hc hf p.steps _ hd
  · simp only [ht, Bool.false_eq_true, if_false]
    exact .refl

/-- A running instance does not answer. -/
lemma goes_busy {f : Address} (hg : w.guest? f.owner = none) (memory : Option Nat)
    (arguments : List Value) (next : Option (Except Stop (List Cell)) → Action σ (List Value)) :
    Goes ⟨.action memory (.call f arguments next), ws, running, w⟩
      ⟨.action memory (next none), ws, running, w⟩ :=
  .single (by simp only [Point.next, act, World.program?_eq_none hg])

/-- **The steps of a call lead to its answer.** A call takes an instance from its rest, so the calls
that it makes find fewer of them. -/
theorem follows_callWithin (d : Nat) : Follows (callWithin d : Calls σ) d := by
  induction d with
  | zero =>
    intro memory f arguments next ws running w hd
    have hnone : w.guest? f.owner = none := by
      by_contra hne
      obtain ⟨g, hg⟩ := Option.ne_none_iff_exists'.1 hne
      have := World.resting_setGuest_none w f.owner hg
      omega
    rw [World.callWithin_none 0 arguments hnone]
    exact goes_busy hnone memory arguments next
  | succ d ih =>
    intro memory f arguments next ws running w hd
    cases hg : w.guest? f.owner with
    | none =>
      rw [World.callWithin_none _ arguments hg]
      exact goes_busy hg memory arguments next
    | some g =>
      have hlt := World.resting_setGuest_none w f.owner hg
      obtain ⟨s, hs, hsg⟩ := Option.bind_eq_some_iff.1 hg
      rw [World.callWithin_some d arguments hs hsg]
      have henter := @goes_enter _ _ d (.action memory next :: ws) running g
        (w.setGuest f.owner none) s.program (World.outline_callWithin d) ih f arguments (by omega)
      refine .of_next ?_ (henter.trans (.single rfl))
      simp only [Point.next, act, hs, hsg, Option.bind_some, Option.map_some]

/-! ### Deeds of the host -/

/-- **An action comes to its end.** -/
theorem goes_perform (w : World σ) (a : Action σ (List Value)) :
    Goes (perform w a) (idle (w.perform a).2) :=
  @goes_action _ _ _ [] [] w (World.outline_callWithin _) (follows_callWithin _) none a
    (Nat.le_refl w.resting) fun _ => rfl

/-- **The making of an instance comes to its end.** -/
theorem goes_launch {m : Module} {o : ImportObject σ} {s : Wasi.Context} {ps : List (Provided σ)}
    (hp : w.Prepares m o s ps g) : Goes (launch w m ps s g) (idle (w.instantiate m o).2) := by
  have hmade : ∀ (r : Except Stop (List Cell)) (g' : Guest) (v : World σ),
      (w.addSlot m ps s).start m w.slots.size g = (r.map fun _ => (), g', v) →
      (w.instantiate m o).2 = made m r w.slots.size g' v := by
    intro r g' v hr
    rw [World.instantiate_of_prepares hp, World.launch, hr]
    cases r with
    | error e => rfl
    | ok results =>
      simp only [Except.map, made]
      cases m.exportsOf w.slots.size <;> rfl
  unfold launch
  cases hf : m.definition.start with
  | none =>
    rw [hmade (.ok []) g (w.addSlot m ps s) (by simp only [World.start, hf, Except.map])]
    exact .single rfl
  | some f =>
    have hcode := @goes_code _ _ _ w.slots.size [.start m] [] g _ m.program
      (World.outline_callWithin _) (follows_callWithin _) m.engine.patience
      (m.program.entry f []) (Nat.le_refl (w.addSlot m ps s).resting)
    refine hcode.trans ?_
    rw [hmade _ _ _ (by simp only [World.start, hf]; rfl)]
    exact .single rfl

variable {c : Point σ} {P : Action σ (List Value) → Prop} {v : World σ}

/-- Wherever a run comes to, it goes on to a point at which the host has its turn, and events lead
there. -/
theorem Runs.goes_idle (h : Runs P (idle w) c) : ∃ v, World.Leads w v ∧ Goes c (idle v) := by
  induction h with
  | refl => exact ⟨w, .refl, .refl⟩
  | tail _ hs ih =>
    obtain ⟨v, hv, hgoes⟩ := ih
    cases hs with
    | next hn => exact ⟨v, hv, hgoes.of_next_of_idle hn⟩
    | perform u ha =>
      have hu := hgoes.idle_eq
      exact ⟨_, hv.tail (hu ▸ .perform u _), goes_perform u _⟩
    | @launch u m o s ps g hp hps =>
      have hu := hgoes.idle_eq
      exact ⟨_, hv.tail (hu ▸ .instantiate u m o), goes_launch hp⟩
    | system u system =>
      have hu := hgoes.idle_eq
      exact ⟨_, hv.tail (hu ▸ .system u system), .refl⟩

/-- An action of any kind can be made one without an answer. -/
lemma runs_perform {α : Type} (w : World σ) (a : Action σ α) :
    Runs (fun _ => True) (idle w) (idle (w.perform a).2) := by
  have hsame : (w.perform (a >>= fun _ => (.done [] : Action σ (List Value)))).2 =
      (w.perform a).2 := by
    unfold World.perform
    rw [World.run_bind]
    generalize World.run (callWithin w.resting) none a ⟨#[], #[], #[], #[], #[]⟩ w = r
    obtain ⟨ended, g, v⟩ := r
    cases ended <;> rfl
  rw [← hsame]
  exact .head (.perform w trivial) (goes_perform w _).runs

lemma runs_instantiate (w : World σ) (m : Module) (o : ImportObject σ) :
    Runs (fun _ => True) (idle w) (idle (w.instantiate m o).2) := by
  cases hs : w.contextFor o with
  | error e =>
    rw [World.instantiate, hs]
    exact .refl
  | ok s =>
    cases hps : o.resolve m with
    | error r =>
      rw [World.instantiate, hs, hps]
      cases r <;> exact .refl
    | ok ps =>
      cases hg : Guest.populate m.definition (Provided.supplied ps) with
      | error t =>
        simp only [World.instantiate, hs, hps, hg]
        exact .refl
      | ok g =>
        have hp : w.Prepares m o s ps g := ⟨hs, hps, hg⟩
        exact .head (.launch hp fun _ _ _ => trivial) (goes_launch hp).runs

/-- **Steps lead from world to world exactly as events do.** -/
theorem runs_iff_leads : Runs (fun _ => True) (idle w) (idle v) ↔ World.Leads w v := by
  constructor
  · intro h
    obtain ⟨u, hu, hgoes⟩ := h.goes_idle
    obtain rfl := hgoes.idle_eq
    exact hu
  · intro h
    induction h with
    | refl => exact .refl
    | tail _ he ih =>
      refine ReflTransGen.trans ih ?_
      cases he with
      | perform _ a => exact runs_perform _ a
      | instantiate _ m o => exact runs_instantiate _ m o
      | system _ system => exact .single (.system _ system)

end Point

end Embedder
