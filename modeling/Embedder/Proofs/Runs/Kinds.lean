import Embedder.Proofs.Runs.Typing

/-!
# Kinds of actions

If a host performs actions of a kind only, and the functions that it gives to guests have bodies of that
kind, then every action that has its turn in a run is of that kind.

* `Action.Lasting`: a kind that an action stays of;
* `Point.Of`: everything that the host does from here on is of a kind;
* `Point.Of.next`, `Point.Of.runs`: a step and a run keep to the kind.
-/

namespace Embedder

open Execution (Program Guest Machine Stop)

variable {σ : Type}

/-! ### Kinds of actions -/

/-- A kind of actions that an action stays of, whatever it is answered. -/
structure Action.Lasting (P : Action σ (List Value) → Prop) : Prop where
  panic : P .panic
  update : ∀ {change next}, P (.update change next) → ∀ s, P (next s)
  memory : ∀ {r next}, P (.memory r next) → ∀ a, P (next a)
  operate : ∀ {owner o next}, P (.operate owner o next) → ∀ a, P (next a)
  call : ∀ {f arguments next}, P (.call f arguments next) → ∀ a, P (next a)

/-- The functions of the host that instances import have bodies of a kind. -/
def World.Imports (P : Action σ (List Value) → Prop) (w : World σ) : Prop :=
  ∀ (n : Nat) (o : Outline σ), w.outline[n]? = some o → ∀ (k : Nat) (f : HostFunction σ),
    o.imported[k]? = some (.host f) → ∀ values, P (f.body values)

namespace World.Imports

variable {P : Action σ (List Value) → Prop} {w v : World σ} {n : Nat}

lemma mono {Q : Action σ (List Value) → Prop} (hPQ : ∀ a, P a → Q a) (h : w.Imports P) :
    w.Imports Q := fun n o ho k f hf values => hPQ _ (h n o ho k f hf values)

lemma of_outline (h : w.Imports P) (ho : v.outline = w.outline) : v.Imports P :=
  fun n o hn => h n o (ho ▸ hn)

lemma setGuest (h : w.Imports P) (g : Option Guest) : (w.setGuest n g).Imports P := by
  intro i o ho
  rw [outline_setGuest, Array.getElem?_modify] at ho
  split at ho
  · obtain ⟨o', ho', rfl⟩ := Option.map_eq_some_iff.1 ho
    exact h i o' ho'
  · exact h i o ho

lemma addSlot (h : w.Imports P) {m : Module} {ps : List (Provided σ)} (s : Wasi.Context)
    (hps : ∀ f, Provided.host f ∈ ps → ∀ values, P (f.body values)) :
    (w.addSlot m ps s).Imports P := by
  intro i o ho k f hf
  rw [outline_addSlot, Array.getElem?_push] at ho
  split at ho
  · cases ho
    simp only [List.getElem?_toArray] at hf
    obtain ⟨p, hp, hpf⟩ := List.mem_filterMap.1 (List.mem_of_getElem? hf)
    cases p <;> cases hpf
    exact hps f hp
  · exact h i o ho k f hf

lemma made (h : w.Imports P) (m : Module) (r : Except Stop (List Cell)) (g : Guest) :
    (Point.made m r n g w).Imports P := by
  unfold Point.made
  split
  · intro i o ho
    rw [outline_settle, Array.getElem?_modify] at ho
    split at ho
    · obtain ⟨o', ho', rfl⟩ := Option.map_eq_some_iff.1 ho
      exact h i o' ho'
    · exact h i o ho
  · intro i o ho
    rw [outline_dropSlot, Array.getElem?_pop] at ho
    split at ho
    · exact h i o ho
    · cases ho

lemma opening (h : w.Imports P) {owner k : Nat} {cells : List Cell} {f : HostFunction σ}
    {memory : Option Nat} {values : List Value}
    (ho : w.opening? owner k cells = some (f, memory, values)) : P (f.body values) := by
  obtain ⟨s, hs, hf⟩ := opening?_eq_some ho
  exact h owner s.outline (by rw [outline_getElem?, hs]; rfl) k f hf values

end World.Imports

namespace Point

open World (Ended Calls hostCall callWithin request resultsOf mute answerOf)

/-- What waits for the end of a call goes on with actions of a kind. -/
def Waits (P : Action σ (List Value) → Prop) (ws : List (Waiting σ)) : Prop :=
  ∀ memory next, Waiting.action memory next ∈ ws → ∀ a, P (next a)

/-- Everything that the host does from here on is of a kind. -/
structure Of (P : Action σ (List Value) → Prop) (c : Point σ) : Prop where
  turn : ∀ memory a, c.turn = .action memory a → P a
  waiting : Waits P c.waiting
  imports : c.world.Imports P

section Of

variable {P : Action σ (List Value) → Prop} {ws : List (Waiting σ)} {running rest : List (Nat × Guest)}
  {w : World σ} {n : Nat} {g : Guest} {c c' : Point σ}

lemma waits_nil : Waits P [] := fun _ _ h => nomatch h

lemma Waits.tail {x : Waiting σ} (h : Waits P (x :: ws)) : Waits P ws :=
  fun memory next hn => h memory next (List.mem_cons_of_mem _ hn)

lemma Waits.cons {x : Waiting σ} (h : Waits P ws)
    (hx : ∀ memory next, x = .action memory next → ∀ a, P (next a)) : Waits P (x :: ws) := by
  intro memory next hn
  cases List.mem_cons.1 hn with
  | inl hn => exact hx memory next hn.symm
  | inr hn => exact h memory next hn

lemma of_action {a : Action σ (List Value)} (ha : P a) (hws : Waits P ws) (hw : w.Imports P)
    (memory : Option Nat) : (⟨.action memory a, ws, running, w⟩ : Point σ).Of P := by
  refine ⟨fun memory' a' h => ?_, hws, hw⟩
  cases h
  exact ha

lemma of_other {turn : Turn σ} (ht : ∀ memory a, turn ≠ .action memory a) (hws : Waits P ws)
    (hw : w.Imports P) : (⟨turn, ws, running, w⟩ : Point σ).Of P :=
  ⟨fun memory a h => absurd h (ht memory a), hws, hw⟩

lemma of_idle (hw : w.Imports P) : (idle w).Of P := of_other (fun _ _ => (nomatch ·)) waits_nil hw

lemma of_finish (hws : Waits P ws) (hw : w.Imports P) (e : Ended (List Value)) :
    (finish e running w ws).Of P := by
  unfold finish
  split
  · exact of_other (fun _ _ => (nomatch ·)) hws.tail hw
  · exact of_other (fun _ _ => (nomatch ·)) hws hw

lemma of_callImport (hws : Waits P ws) (hw : w.Imports P) (direct : Bool) (k : Nat)
    (cells : List Cell) : (callImport direct k cells ws n g rest w).Of P := by
  unfold callImport
  cases ho : w.opening? n k cells with
  | none =>
    exact of_other (fun _ _ => (nomatch ·)) hws
      (hw.of_outline (World.outline_hostCall World.steady_mute n direct k cells g w))
  | some opened =>
    obtain ⟨f, memory, values⟩ := opened
    exact of_action (hw.opening ho) (hws.cons (by rintro _ _ ⟨⟩)) hw memory

lemma of_enter (hws : Waits P ws) (hw : w.Imports P) (f : Address) (p : Program)
    (arguments : List Value) : (enter f p arguments ws g rest w).Of P := by
  unfold enter
  simp only
  split
  · split
    · exact of_callImport hws hw true _ _
    · exact of_other (fun _ _ => (nomatch ·)) hws hw
  · exact of_other (fun _ _ => (nomatch ·)) hws
      (hw.of_outline (World.outline_enter World.steady_mute f p arguments g w))

lemma of_act (hP : Action.Lasting P) {a : Action σ (List Value)} (ha : P a) (hws : Waits P ws)
    (hw : w.Imports P) (memory : Option Nat) : (act memory ws running w a).Of P := by
  cases a with
  | done values | fail message | panic => exact of_finish hws hw _
  | update change next =>
    exact of_action (w := { w with host := change w.host }) (hP.update ha _) hws
      (hw.of_outline rfl) memory
  | memory r next => exact of_action (hP.memory ha _) hws hw memory
  | operate owner o next =>
    exact of_action (hP.operate ha _) hws (hw.of_outline (World.outline_operate w owner o)) memory
  | call f arguments next =>
    simp only [act]
    split
    · exact of_action (hP.call ha none) hws hw memory
    · refine of_enter (hws.cons fun memory' next' h => ?_) (hw.setGuest none) f _ arguments
      cases h
      exact hP.call ha

lemma of_compute (hws : Waits P ws) (hw : w.Imports P) (p : Program) (fuel : Nat) (m : Machine) :
    (compute p fuel m ws w running).Of P := by
  unfold compute
  split
  · exact of_other (fun _ _ => (nomatch ·)) hws hw
  · split
    · exact of_other (fun _ _ => (nomatch ·)) hws hw
    · split
      · exact of_other (fun _ _ => (nomatch ·)) hws hw
      · exact of_other (fun _ _ => (nomatch ·)) hws hw
      · exact of_other (fun _ _ => (nomatch ·)) hws hw
      · exact of_callImport (hws.cons (by rintro _ _ ⟨⟩)) hw false _ _

lemma of_resume (hP : Action.Lasting P) (hws : Waits P ws) (hw : w.Imports P)
    (r : Except Stop (List Cell)) : (resume r w ws running).Of P := by
  unfold resume
  split
  · split <;> exact of_other (fun _ _ => (nomatch ·)) hws.tail hw
  · rename_i memory next ws n g rest
    have hnext := hws memory next (by simp)
    refine of_action ?_ hws.tail (hw.setGuest _) memory
    unfold reply
    split
    · exact hnext none
    · exact hP.panic
    · exact hnext _
  · exact of_other (fun _ _ => (nomatch ·)) hws.tail (hw.made _ r _)
  · exact of_other (fun _ _ => (nomatch ·)) hws hw

/-- A step does nothing of another kind. -/
lemma Of.next (hP : Action.Lasting P) (h : c.Of P) (hn : c.next = some c') : c'.Of P := by
  obtain ⟨turn, ws, running, w⟩ := c
  obtain ⟨hturn, hws, hw⟩ := h
  cases turn with
  | host => cases hn
  | action memory a =>
    cases hn
    exact of_act hP (hturn memory a rfl) hws hw memory
  | code p fuel m =>
    cases hn
    exact of_compute hws hw p fuel m
  | ended r =>
    cases hn
    exact of_resume hP hws hw r

/-- Nor does a run. -/
lemma Of.runs (hP : Action.Lasting P) (h : c.Of P) (hr : Runs P c c') : c'.Of P := by
  induction hr with
  | refl => exact h
  | tail _ hs ih =>
    cases hs with
    | next hn => exact ih.next hP hn
    | perform w ha => exact of_action ha waits_nil ih.imports none
    | system w system => exact of_idle ih.imports
    | launch hp hps =>
      refine of_other (fun memory a => ?_) (waits_nil.cons (by rintro _ _ ⟨⟩))
        (ih.imports.addSlot _ hps)
      split <;> exact (nomatch ·)

end Of

end Point

end Embedder
