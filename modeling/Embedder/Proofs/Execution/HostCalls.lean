import Embedder.Execution.Run
import Mathlib.Data.Nat.Find
import Mathlib.Tactic.Lemma

/-!
# The calls that a run makes to its host

A run takes one step after another, and between two of its own it may call the host. Where code comes
to an instruction that has no meaning here (`Execution.Machine`), its run ends with a fault.

* `Execution.CallsHost`: a run comes to a call to a function of the host;
* `Execution.CallsHost.keeps`, `Execution.run_keeps`, `Execution.run_preserves`: what every call keeps,
  the run keeps;
* `Execution.run_congr`: a run depends on its host only at the calls that it comes to;
* `Execution.run_agrees`: runs with two hosts that agree on every call agree as well;
* `Execution.run_eq_of_le`, `Execution.ends_of_run`: a run that ends is not changed by more fuel;
* `Execution.invoke_withSteps`: nor is a call that ends, by more steps that it may take;
* `Execution.Ends`, `Execution.CallsHost.ends`: a call that fails ends the run;
* `Execution.CallsHostAfter`: how many steps a run takes before a call to the host;
* `Execution.CallsHostAfter.exists_run_eq`: where it goes on after the call;
* `Execution.run_eq_error`: what else can stop a run;
* `Execution.invoke_imported`: code that only calls the host adds nothing.
-/

namespace Embedder.Execution

variable {W β : Type} {p : Program} {host host' : HostCall W}

/-- The machine that calls a function of a program. -/
def Program.entry (p : Program) (function : Nat) (arguments : List Cell) : Machine :=
  .ofCall function ((p.functions[function]?).elim 0 fun t => t.results.length) arguments

lemma invoke_eq_run (function : Nat) (arguments : List Cell) (g : Guest) (w : W) :
    invoke p host function arguments g w = run p host p.steps (p.entry function arguments) g w := rfl

/-- A run comes to a call to the function `k` of the host, at once, after a step of its own, or
after another call that gave results. -/
inductive CallsHost (p : Program) (host : HostCall W) (k : Nat) (arguments : List Cell) (g : Guest)
    (w : W) : Machine → Guest → W → Prop
  | now {m m' : Machine} {g' : Guest} (h : m.step p g' = .host k arguments m' g) :
      CallsHost p host k arguments g w m g' w
  | next {m m' : Machine} {g' g₁ : Guest} {w' : W} (h : m.step p g' = .next m' g₁)
      (hc : CallsHost p host k arguments g w m' g₁ w') : CallsHost p host k arguments g w m g' w'
  | later {m m' : Machine} {g' g₁ g₂ : Guest} {w' w₂ : W} {k' : Nat} {arguments' results : List Cell}
      (h : m.step p g' = .host k' arguments' m' g₁)
      (hr : host k' arguments' g₁ w' = ⟨.ok results, g₂, w₂⟩)
      (hc : CallsHost p host k arguments g w (m'.resume results) g₂ w₂) :
      CallsHost p host k arguments g w m g' w'

/-- What every call keeps is as it was when a run comes to a call. -/
theorem CallsHost.keeps {k : Nat} {arguments : List Cell} {g g' : Guest} {w w' : W} {m : Machine}
    (h : CallsHost p host k arguments g w m g' w') (f : W → β)
    (hf : ∀ k arguments g w, f (host k arguments g w).world = f w) : f w = f w' := by
  induction h with
  | now h => rfl
  | next h hc ih => exact ih
  | @later _ _ _ g₁ _ w' w₂ k' arguments' results h hr hc ih =>
    have hk := hf k' arguments' g₁ w'
    rw [hr] at hk
    exact ih.trans hk

/-- What every call preserves, a run preserves, however it ends. -/
theorem run_preserves {P : W → Prop} (hP : ∀ k arguments g w, P w → P (host k arguments g w).world)
    (fuel : Nat) (m : Machine) (g : Guest) {w : W} (hw : P w) : P (run p host fuel m g w).world := by
  induction fuel generalizing m g w with
  | zero => exact hw
  | succ fuel ih =>
    unfold run
    cases m.step p g with
    | next m' g' => exact ih m' g' hw
    | finished results g' => exact hw
    | fault e g' => exact hw
    | host k arguments m' g' =>
      have hk := hP k arguments g' w hw
      simp only
      cases hr : host k arguments g' w with
      | mk result g₂ w₂ =>
        rw [hr] at hk
        cases result with
        | ok results => exact ih _ g₂ hk
        | error s => exact hk

theorem run_keeps (f : W → β) (hf : ∀ k arguments g w, f (host k arguments g w).world = f w)
    (fuel : Nat) (m : Machine) (g : Guest) (w : W) : f (run p host fuel m g w).world = f w :=
  run_preserves (P := fun v => f v = f w) (fun k arguments g v hv => (hf k arguments g v).trans hv)
    fuel m g rfl

/-- **A run depends on its host only at the calls that it comes to.** -/
theorem run_congr (fuel : Nat) (m : Machine) (g : Guest) (w : W)
    (h : ∀ k arguments g' w', CallsHost p host k arguments g' w' m g w →
      host k arguments g' w' = host' k arguments g' w') :
    run p host fuel m g w = run p host' fuel m g w := by
  induction fuel generalizing m g w with
  | zero => rfl
  | succ fuel ih =>
    unfold run
    cases hs : m.step p g with
    | next m' g' => exact ih m' g' w fun k arguments g₁ w₁ hc => h k arguments g₁ w₁ (.next hs hc)
    | finished results g' => rfl
    | fault e g' => rfl
    | host k arguments m' g' =>
      simp only
      rw [← h k arguments g' w (.now hs)]
      cases hr : host k arguments g' w with
      | mk result g₂ w₂ =>
        cases result with
        | ok results =>
          exact ih _ g₂ w₂ fun k arguments g₁ w₁ hc => h k arguments g₁ w₁ (.later hs hr hc)
        | error s => rfl

/-! ### Two hosts -/

/-- Two calls have the same results and leave the same guest, and the worlds that they leave are
related. -/
structure Outcome.Agrees {W' : Type} (R : W → W' → Prop) (o : Outcome W) (o' : Outcome W') : Prop where
  result_eq : o'.result = o.result
  guest_eq : o'.guest = o.guest
  world : R o.world o'.world

lemma Outcome.eq_of_result {o : Outcome W} {r : Except Stop (List Cell)} (h : o.result = r) :
    o = ⟨r, o.guest, o.world⟩ := by
  rw [← h]

/-- **Runs with two hosts in step.** -/
theorem run_agrees {W' : Type} {R : W → W' → Prop} {host' : HostCall W'}
    (h : ∀ k arguments g w w', R w w' → (host k arguments g w).Agrees R (host' k arguments g w'))
    (fuel : Nat) (m : Machine) (g : Guest) {w : W} {w' : W'} (hw : R w w') :
    (run p host fuel m g w).Agrees R (run p host' fuel m g w') := by
  induction fuel generalizing m g w w' with
  | zero => exact ⟨rfl, rfl, hw⟩
  | succ fuel ih =>
    unfold run
    cases m.step p g with
    | next m' g' => exact ih m' g' hw
    | finished results g' => exact ⟨rfl, rfl, hw⟩
    | fault e g' => exact ⟨rfl, rfl, hw⟩
    | host k arguments m' g' =>
      obtain ⟨hresult, hguest, hworld⟩ := h k arguments g' w w' hw
      simp only
      generalize host k arguments g' w = o at hresult hguest hworld
      generalize host' k arguments g' w' = o' at hresult hguest hworld
      obtain ⟨result, g₁, w₁⟩ := o
      obtain ⟨result', g₁', w₁'⟩ := o'
      cases hresult
      cases hguest
      cases result with
      | ok results => exact ih _ g₁ hworld
      | error s => exact ⟨rfl, rfl, hworld⟩

/-! ### How a run ends -/

/-- **More fuel does not change the end of a run.** -/
theorem run_eq_of_le {m : Machine} {g : Guest} {w : W} {fuel fuel' : Nat} (hle : fuel ≤ fuel')
    (h : (run p host fuel m g w).result ≠ .error .outOfFuel) :
    run p host fuel' m g w = run p host fuel m g w := by
  induction fuel generalizing fuel' m g w with
  | zero => exact absurd rfl h
  | succ fuel ih =>
    obtain ⟨fuel', rfl⟩ := Nat.exists_eq_add_of_le' (Nat.le_trans (Nat.le_add_left 1 fuel) hle)
    have hle := Nat.le_of_succ_le_succ hle
    unfold run at h ⊢
    cases hs : m.step p g with
    | next m' g' =>
      simp only [hs] at h
      exact ih hle h
    | finished results g' => rfl
    | fault e g' => rfl
    | host k arguments m' g' =>
      simp only [hs] at h ⊢
      cases hr : host k arguments g' w with
      | mk result g₂ w₂ =>
        cases result with
        | error s => rfl
        | ok results =>
          simp only [hr] at h
          exact ih hle h

/-- With enough fuel the run ends so, and with less it has not ended. -/
def Ends (p : Program) (host : HostCall W) (m : Machine) (g : Guest) (w : W) (o : Outcome W) : Prop :=
  ∃ steps, ∀ fuel, (steps ≤ fuel → run p host fuel m g w = o) ∧
    (fuel < steps → (run p host fuel m g w).result = .error .outOfFuel)

/-- **A run that has ended once ends so with enough fuel.** -/
theorem ends_of_run {m : Machine} {g : Guest} {w : W} {n : Nat}
    (h : (run p host n m g w).result ≠ .error .outOfFuel) :
    Ends p host m g w (run p host n m g w) := by
  classical
  have hex : ∃ fuel, (run p host fuel m g w).result ≠ .error .outOfFuel := ⟨n, h⟩
  have hfirst : run p host (Nat.find hex) m g w = run p host n m g w :=
    (run_eq_of_le (Nat.find_min' hex h) (Nat.find_spec hex)).symm
  refine ⟨Nat.find hex, fun fuel => ⟨fun hle => ?_, fun hlt => ?_⟩⟩
  · exact (run_eq_of_le hle (Nat.find_spec hex)).trans hfirst
  · exact not_not.1 (Nat.find_min hex hlt)

/-- The program whose calls may take another number of steps. -/
def Program.withSteps (p : Program) (n : Nat) (h : 2 ≤ n) : Program :=
  { p with steps := n, two_le_steps := h }

lemma run_withSteps {n : Nat} (hn : 2 ≤ n) (fuel : Nat) (m : Machine) (g : Guest) (w : W) :
    run (p.withSteps n hn) host fuel m g w = run p host fuel m g w := by
  have hstep : ∀ (m : Machine) (g : Guest), m.step (p.withSteps n hn) g = m.step p g :=
    fun _ _ => rfl
  induction fuel generalizing m g w with
  | zero => rfl
  | succ fuel ih => simp only [run, hstep, ih]

/-- **Enough steps give the answer.** A call that comes to its end is answered alike by a program that
may take more steps. -/
theorem invoke_withSteps {n f : Nat} (hn : 2 ≤ n) {arguments : List Cell} {g : Guest} {w : W}
    (hle : p.steps ≤ n) (h : (invoke p host f arguments g w).result ≠ .error .outOfFuel) :
    invoke (p.withSteps n hn) host f arguments g w = invoke p host f arguments g w :=
  (run_withSteps hn n _ g w).trans (run_eq_of_le hle h)

/-! Single steps. -/

lemma run_of_next {m m' : Machine} {g g' : Guest} {w : W} {fuel : Nat} (h : m.step p g = .next m' g') :
    run p host (fuel + 1) m g w = run p host fuel m' g' w := by
  rw [run, h]

lemma run_of_host {m m' : Machine} {g g₁ g₂ : Guest} {w w₂ : W} {fuel k : Nat}
    {arguments results : List Cell} (h : m.step p g = .host k arguments m' g₁)
    (hk : host k arguments g₁ w = ⟨.ok results, g₂, w₂⟩) :
    run p host (fuel + 1) m g w = run p host fuel (m'.resume results) g₂ w₂ := by
  rw [run, h]
  simp only [hk]

lemma run_of_finished {m : Machine} {g g' : Guest} {w : W} {fuel : Nat} {results : List Cell}
    (h : m.step p g = .finished results g') :
    run p host (fuel + 1) m g w = ⟨.ok results, g', w⟩ := by
  rw [run, h]

lemma Ends.of_succ {m m' : Machine} {g g' : Guest} {w w' : W} {o : Outcome W}
    (he : Ends p host m' g' w' o)
    (h : ∀ fuel, run p host (fuel + 1) m g w = run p host fuel m' g' w') :
    Ends p host m g w o := by
  obtain ⟨steps, hs⟩ := he
  refine ⟨steps + 1, fun fuel => ?_⟩
  cases fuel with
  | zero => exact ⟨fun hle => absurd hle (by omega), fun _ => rfl⟩
  | succ fuel =>
    rw [h]
    exact ⟨fun hle => (hs fuel).1 (by omega), fun hlt => (hs fuel).2 (by omega)⟩

/-- A call to the host that fails ends the run that comes to it. -/
theorem CallsHost.ends {k : Nat} {arguments : List Cell} {g g₀ g' : Guest} {w w₀ w' : W}
    {m : Machine} {s : Stop} (h : CallsHost p host k arguments g w m g₀ w₀)
    (hk : host k arguments g w = ⟨.error s, g', w'⟩) :
    Ends p host m g₀ w₀ ⟨.error s, g', w'⟩ := by
  induction h with
  | now hs =>
    refine ⟨1, fun fuel => ?_⟩
    cases fuel with
    | zero => exact ⟨fun hle => absurd hle (by omega), fun _ => rfl⟩
    | succ fuel => exact ⟨fun _ => by simp [run, hs, hk], fun hlt => absurd hlt (by omega)⟩
  | next hs hc ih => exact ih.of_succ fun fuel => by simp [run, hs]
  | later hs hr hc ih => exact ih.of_succ fun fuel => by simp [run, hs, hr]

/-- A run comes to a call to the function `k` of the host after a number of steps. -/
inductive CallsHostAfter (p : Program) (host : HostCall W) (k : Nat) (arguments : List Cell)
    (g : Guest) (w : W) : Nat → Machine → Guest → W → Prop
  | now {m m' : Machine} {g' : Guest} (h : m.step p g' = .host k arguments m' g) :
      CallsHostAfter p host k arguments g w 0 m g' w
  | next {n : Nat} {m m' : Machine} {g' g₁ : Guest} {w' : W} (h : m.step p g' = .next m' g₁)
      (hc : CallsHostAfter p host k arguments g w n m' g₁ w') :
      CallsHostAfter p host k arguments g w (n + 1) m g' w'
  | later {n : Nat} {m m' : Machine} {g' g₁ g₂ : Guest} {w' w₂ : W} {k' : Nat}
      {arguments' results : List Cell} (h : m.step p g' = .host k' arguments' m' g₁)
      (hr : host k' arguments' g₁ w' = ⟨.ok results, g₂, w₂⟩)
      (hc : CallsHostAfter p host k arguments g w n (m'.resume results) g₂ w₂) :
      CallsHostAfter p host k arguments g w (n + 1) m g' w'

lemma CallsHostAfter.callsHost {n k : Nat} {arguments : List Cell} {g g₀ : Guest} {w w₀ : W}
    {m : Machine} (h : CallsHostAfter p host k arguments g w n m g₀ w₀) :
    CallsHost p host k arguments g w m g₀ w₀ := by
  induction h with
  | now hs => exact .now hs
  | next hs hc ih => exact .next hs ih
  | later hs hr hc ih => exact .later hs hr ih

lemma CallsHost.exists_after {k : Nat} {arguments : List Cell} {g g₀ : Guest} {w w₀ : W}
    {m : Machine} (h : CallsHost p host k arguments g w m g₀ w₀) :
    ∃ n, CallsHostAfter p host k arguments g w n m g₀ w₀ := by
  induction h with
  | now hs => exact ⟨0, .now hs⟩
  | next hs hc ih =>
    obtain ⟨n, hn⟩ := ih
    exact ⟨n + 1, .next hs hn⟩
  | later hs hr hc ih =>
    obtain ⟨n, hn⟩ := ih
    exact ⟨n + 1, .later hs hr hn⟩

/-- **A call to the host that fails ends a run** that has the fuel for the steps before it. -/
theorem CallsHostAfter.run_eq {n k : Nat} {arguments : List Cell} {g g₀ g' : Guest} {w w₀ w' : W}
    {m : Machine} {s : Stop} (h : CallsHostAfter p host k arguments g w n m g₀ w₀)
    (hk : host k arguments g w = ⟨.error s, g', w'⟩) (fuel : Nat) :
    (n < fuel → run p host fuel m g₀ w₀ = ⟨.error s, g', w'⟩) ∧
      (fuel ≤ n → (run p host fuel m g₀ w₀).result = .error .outOfFuel) := by
  induction h generalizing fuel with
  | now hs =>
    cases fuel with
    | zero => exact ⟨fun hlt => absurd hlt (Nat.not_lt_zero _), fun _ => rfl⟩
    | succ fuel => exact ⟨fun _ => by simp [run, hs, hk], fun hle => absurd hle (by omega)⟩
  | next hs hc ih =>
    cases fuel with
    | zero => exact ⟨fun hlt => absurd hlt (Nat.not_lt_zero _), fun _ => rfl⟩
    | succ fuel =>
      simp only [run, hs, Nat.add_lt_add_iff_right, Nat.add_le_add_iff_right]
      exact ih fuel
  | later hs hr hc ih =>
    cases fuel with
    | zero => exact ⟨fun hlt => absurd hlt (Nat.not_lt_zero _), fun _ => rfl⟩
    | succ fuel =>
      simp only [run, hs, hr, Nat.add_lt_add_iff_right, Nat.add_le_add_iff_right]
      exact ih fuel

/-- Goes on with the results of a call to the host, if it has any. -/
def Outcome.andThen (o : Outcome W) (p : Program) (host : HostCall W) (fuel : Nat) (m : Machine) :
    Outcome W :=
  match o.result with
  | .ok results => run p host fuel (m.resume results) o.guest o.world
  | .error s => ⟨.error s, o.guest, o.world⟩

/-- **A run goes on from what a call to the host leaves**, on the machine that has made the call. -/
theorem CallsHostAfter.exists_run_eq {n k : Nat} {arguments : List Cell} {g g₀ : Guest} {w w₀ : W}
    {m : Machine} (h : CallsHostAfter p host k arguments g w n m g₀ w₀) :
    ∃ (m₁ : Machine) (g₁ : Guest) (m' : Machine), m₁.step p g₁ = .host k arguments m' g ∧ ∀ fuel,
      run p host (n + 1 + fuel) m g₀ w₀ = (host k arguments g w).andThen p host fuel m' := by
  induction h with
  | @now m m' g' hs =>
    refine ⟨m, g', m', hs, fun fuel => ?_⟩
    rw [Nat.zero_add, Nat.add_comm, run, hs]
    simp only [Outcome.andThen]
    rcases host k arguments g w with ⟨_ | _, _, _⟩ <;> rfl
  | @next n m m₁ g' g₁ w' hs hc ih =>
    obtain ⟨m₂, g₂, m', hs', hrun⟩ := ih
    refine ⟨m₂, g₂, m', hs', fun fuel => ?_⟩
    rw [show n + 1 + 1 + fuel = n + 1 + fuel + 1 by omega, run, hs]
    exact hrun fuel
  | @later n m m₁ g' g₁ g₂ w' w₂ k' arguments' results hs hr hc ih =>
    obtain ⟨m₂, g₃, m', hs', hrun⟩ := ih
    refine ⟨m₂, g₃, m', hs', fun fuel => ?_⟩
    rw [show n + 1 + 1 + fuel = n + 1 + fuel + 1 by omega, run, hs]
    simp only [hr]
    exact hrun fuel

/-- **What stops a run**: the end of its fuel, a fault of the code, or a call to the host that it
comes to and that stops in this way. -/
theorem run_eq_error {fuel : Nat} {m : Machine} {g : Guest} {w : W} {s : Stop}
    (h : (run p host fuel m g w).result = .error s) :
    s = .outOfFuel ∨ (∃ f, s = .fault f) ∨
      ∃ k arguments g' w', CallsHost p host k arguments g' w' m g w ∧
        (host k arguments g' w').result = .error s := by
  induction fuel generalizing m g w with
  | zero =>
    cases h
    exact .inl rfl
  | succ fuel ih =>
    unfold run at h
    cases hs : m.step p g with
    | next m' g' =>
      simp only [hs] at h
      obtain h | h | ⟨k, arguments, g₁, w₁, hc, hk⟩ := ih h
      · exact .inl h
      · exact .inr (.inl h)
      · exact .inr (.inr ⟨k, arguments, g₁, w₁, .next hs hc, hk⟩)
    | finished results g' =>
      simp only [hs] at h
      cases h
    | fault f g' =>
      simp only [hs] at h
      cases h
      exact .inr (.inl ⟨f, rfl⟩)
    | host k arguments m' g' =>
      simp only [hs] at h
      cases hr : host k arguments g' w with
      | mk result g₂ w₂ =>
        rw [hr] at h
        cases result with
        | error s' =>
          cases h
          exact .inr (.inr ⟨k, arguments, g', w, .now hs, by rw [hr]⟩)
        | ok results =>
          obtain h | h | ⟨k', arguments', g₁, w₁, hc, hk⟩ := ih h
          · exact .inl h
          · exact .inr (.inl h)
          · exact .inr (.inr ⟨k', arguments', g₁, w₁, .later hs hr hc, hk⟩)

/-- **The code that calls a function of the host adds nothing**, if the arguments and the results are
as many as the type says. -/
theorem invoke_imported {f : Nat} {t : FunctionType} {arguments : List Cell} {g : Guest} {w : W}
    (ht : p.functions[f]? = some t) (hf : f < p.imported)
    (ha : arguments.length = t.params.length)
    (hr : ∀ results, (host f arguments g w).result = .ok results →
      results.length = t.results.length) :
    invoke p host f arguments g w = host f arguments g w := by
  let waiting : Machine := ⟨⟨#[], [], .done, [], t.results.length⟩, [], 0⟩
  have htake : ∀ cells : List Cell, (cells.reverse.take cells.length).reverse = cells := by
    intro cells
    rw [List.take_of_length_le (by simp), List.reverse_reverse]
  have hcall : (p.entry f arguments).step p g = .host f arguments waiting g := by
    simp [Program.entry, Machine.ofCall, Machine.step, Machine.stepOp, Machine.onControl,
      Machine.call, ht, hf, ← ha, htake, waiting]
  have hdone : ∀ results g', results.length = t.results.length →
      (waiting.resume results).step p g' = .finished results g' := by
    intro results g' hlength
    simp [waiting, Machine.resume, Activation.pushAll, Machine.step, Machine.close, Machine.leave,
      ← hlength, htake]
  obtain ⟨n, hn⟩ : ∃ n, p.steps = n + 2 := Nat.exists_eq_add_of_le' p.two_le_steps
  rw [invoke_eq_run, hn, run, hcall]
  cases hc : host f arguments g w with
  | mk result g₁ w₁ =>
    cases result with
    | error s => simp only [hc]
    | ok results => simp only [hc, run, hdone results g₁ (hr results (by rw [hc]))]

end Embedder.Execution
