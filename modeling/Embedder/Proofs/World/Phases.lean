import Embedder.Proofs.Execution.Segments
import Embedder.Proofs.Linking.Rules
import Embedder.Proofs.Modules.Compiling
import Embedder.Proofs.World.History

/-!
# The steps of an instantiation

The context of the system interface is built, the imports are resolved, the segments are copied, the
start function runs, and the exports are held. The first step that fails decides what the host is
told.

* `Setback`, `Setback.report`: which step fails and why, and what the host is told of it;
* `World.Prepares`, `World.Fails`: the first three steps succeed, and an instantiation fails;
* `World.instantiate_eq_made_or_fails`, `World.Fails.instantiate_eq`: an instance is made, or there is
  exactly one setback;
* `World.refusals_by_phase`: what each refusal says about the step that failed.
-/

namespace Embedder

open Execution (Program Guest Stop Trap)
open Execution.Guest (MissesTable MissesMemory)

variable {σ : Type}

/-! ### Setbacks -/

/-- The step of an instantiation that fails, and why. -/
inductive Setback where
  | context (e : FileError)
  | imports (r : Refusal)
  | segment (t : Trap)
  | start (s : Stop)
  | hidden (name : String)

/-- The start function itself is at fault, and what the host reads of it: the guest traps, a function
of the host fails, or the guest exits. A run that is not waited for to its end counts as well. -/
inductive Execution.Stop.Blames : Stop → String → Prop
  | fault (f : Execution.Fault) : Blames (.fault f) (Stop.fault f).message
  | failed (message : String) : Blames (.failed message) message
  | exited (code : Nat) :
      Blames (.exited code) ("start function exited with code " ++ toString code)
  | outOfFuel : Blames .outOfFuel Stop.outOfFuel.message

/-- What the host is told of a setback. -/
def Setback.report : Setback → Instantiated
  | .context e => .refused (.engine e.message)
  | .imports .panic => .panicked
  | .imports (.link e) => .refused (.link e)
  | .segment t => .refused (.trap t.message)
  | .start s => World.startError s
  | .hidden name =>
    .refused (.engine ("export '" ++ name ++ "' has a kind that cannot be exposed to the host"))

namespace World

variable {w v : World σ} {m : Module} {o : ImportObject σ} {b : Setback}

/-- The steps before the start function succeed, with these results. -/
structure Prepares (w : World σ) (m : Module) (o : ImportObject σ) (c : Wasi.Context)
    (ps : List (Provided σ)) (g : Guest) : Prop where
  context : w.contextFor o = .ok c
  imports : o.resolve m = .ok ps
  segments : Guest.populate m.definition (Provided.supplied ps) = .ok g

/-- An instantiation fails in a step, and leaves a world. -/
inductive Fails (w : World σ) (m : Module) (o : ImportObject σ) : Setback → World σ → Prop
  | context {e : FileError} (he : w.contextFor o = .error e) : Fails w m o (.context e) w
  | imports {c : Wasi.Context} {r : Refusal} (hc : w.contextFor o = .ok c)
      (hr : o.resolve m = .error r) : Fails w m o (.imports r) w
  | segment {c : Wasi.Context} {ps : List (Provided σ)} {t : Trap} (hc : w.contextFor o = .ok c)
      (hps : o.resolve m = .ok ps)
      (ht : Guest.populate m.definition (Provided.supplied ps) = .error t) :
      Fails w m o (.segment t) w
  | start {c : Wasi.Context} {ps : List (Provided σ)} {g g₁ : Guest} {s : Stop} {w₁ : World σ}
      (hp : w.Prepares m o c ps g)
      (hs : (w.addSlot m ps c).start m w.slots.size g = (.error s, g₁, w₁)) :
      Fails w m o (.start s) w₁.dropSlot
  | hidden {c : Wasi.Context} {ps : List (Provided σ)} {g g₁ : Guest} {w₁ : World σ} {name : String}
      (hp : w.Prepares m o c ps g)
      (hs : (w.addSlot m ps c).start m w.slots.size g = (.ok (), g₁, w₁))
      (he : m.exportsOf w.slots.size = .error name) : Fails w m o (.hidden name) w₁.dropSlot

/-- The start function of a new instance runs to its end, or the module has none. -/
def Starts (w : World σ) (m : Module) (c : Wasi.Context) (ps : List (Provided σ)) (g g₁ : Guest)
    (w₁ : World σ) : Prop :=
  (w.addSlot m ps c).start m w.slots.size g = (.ok (), g₁, w₁)

/-- The module has a start function, which stops without coming to its end. -/
def StartStops (w : World σ) (m : Module) (c : Wasi.Context) (ps : List (Provided σ)) (g : Guest)
    (s : Stop) : Prop :=
  m.definition.start.isSome = true ∧
    ((w.addSlot m ps c).start m w.slots.size g).1 = .error s

lemma instantiate_of_prepares {c : Wasi.Context} {ps : List (Provided σ)} {g : Guest}
    (h : w.Prepares m o c ps g) : w.instantiate m o = w.launch m ps c g := by
  simp only [instantiate, h.context, h.imports, h.segments]

/-- A setback is reported, and no instance stays behind. -/
theorem Fails.instantiate_eq (h : w.Fails m o b v) : w.instantiate m o = (b.report, v) := by
  cases h with
  | context he => simp only [instantiate, he, Setback.report]
  | @imports c r hc hr =>
    simp only [instantiate, hc, hr]
    cases r <;> rfl
  | segment hc hps ht => simp only [instantiate, hc, hps, ht, Setback.report]
  | start hp hs => simp only [instantiate_of_prepares hp, launch, hs, Setback.report]
  | hidden hp hs he => simp only [instantiate_of_prepares hp, launch, hs, he, Setback.report]

lemma report_ne_made (b : Setback) (i : Instance) : b.report ≠ .made i := by
  cases b with
  | imports r => cases r <;> simp [Setback.report]
  | start s => exact startError_ne_made s i
  | _ => simp [Setback.report]

/-- **An instance is made, or there is a setback.** -/
theorem instantiate_eq_made_or_fails (w : World σ) (m : Module) (o : ImportObject σ) :
    (∃ c ps g g₁ w₁ es, w.Prepares m o c ps g ∧ w.Starts m c ps g g₁ w₁ ∧
      m.exportsOf w.slots.size = .ok es ∧
      w.instantiate m o = (.made ⟨w.slots.size, m, es⟩, w₁.settle w.slots.size m.boundMemory g₁)) ∨
    ∃ b v, w.Fails m o b v := by
  cases hc : w.contextFor o with
  | error e => exact .inr ⟨_, _, .context hc⟩
  | ok c =>
    cases hps : o.resolve m with
    | error r => exact .inr ⟨_, _, .imports hc hps⟩
    | ok ps =>
      cases hg : Guest.populate m.definition (Provided.supplied ps) with
      | error t => exact .inr ⟨_, _, .segment hc hps hg⟩
      | ok g =>
        have hp : w.Prepares m o c ps g := ⟨hc, hps, hg⟩
        cases hs : (w.addSlot m ps c).start m w.slots.size g with
        | mk result rest =>
          obtain ⟨g₁, w₁⟩ := rest
          cases result with
          | error s => exact .inr ⟨_, _, .start hp hs⟩
          | ok u =>
            cases he : m.exportsOf w.slots.size with
            | error name => exact .inr ⟨_, _, .hidden hp hs he⟩
            | ok es =>
              refine .inl ⟨c, ps, g, g₁, w₁, es, hp, hs, rfl, ?_⟩
              simp only [instantiate_of_prepares hp, launch, hs, he]

/-- An instance is made of what was prepared. -/
lemma exists_prepares {i : Instance} (h : w.instantiate m o = (.made i, v)) :
    ∃ c ps g, w.Prepares m o c ps g := by
  obtain ⟨c, ps, g, _, _, _, hp, -⟩ | ⟨b, _, hb⟩ := instantiate_eq_made_or_fails w m o
  · exact ⟨c, ps, g, hp⟩
  · rw [hb.instantiate_eq] at h
    exact absurd (congrArg Prod.fst h) (report_ne_made b i)

/-- What an instantiation answers if it makes no instance is the report of a setback. -/
theorem instantiate_eq_iff {r : Instantiated} (hr : ∀ i, r ≠ .made i) :
    (w.instantiate m o).1 = r ↔ ∃ b v, w.Fails m o b v ∧ b.report = r := by
  constructor
  · rintro rfl
    obtain ⟨c, ps, g, g₁, w₁, es, -, -, -, h⟩ | ⟨b, v, h⟩ := instantiate_eq_made_or_fails w m o
    · exact absurd (congrArg Prod.fst h) (hr _)
    · exact ⟨b, v, h, by rw [h.instantiate_eq]⟩
  · rintro ⟨b, v, h, rfl⟩
    rw [h.instantiate_eq]

/-! ### Exports -/

lemma exportsOf_eq_error_iff {number : Nat} {name : String} :
    m.exportsOf number = .error name ↔
      ∃ e, (m.exports.find? fun e => Module.isHidden e.type) = some e ∧ e.name = name := by
  unfold Module.exportsOf
  cases m.exports.find? fun e => Module.isHidden e.type <;> simp

/-! ### The start function -/

lemma startError_eq_trap_iff {s : Stop} {message : String} :
    startError s = .refused (.trap message) ↔ s.Blames message := by
  constructor
  · intro h
    cases s with
    | fault f =>
      cases h
      exact .fault f
    | failed text =>
      cases h
      exact .failed text
    | exited code =>
      cases h
      exact .exited code
    | engine text => cases h
    | panicked => cases h
    | outOfFuel =>
      cases h
      exact .outOfFuel
  · rintro (_ | _ | _ | _) <;> rfl

lemma startError_eq_engine_iff {s : Stop} {message : String} :
    startError s = .refused (.engine message) ↔ s = .engine message := by
  cases s <;> simp [startError]

lemma startError_eq_panicked_iff {s : Stop} : startError s = .panicked ↔ s = .panicked := by
  cases s <;> simp [startError]

lemma startError_ne_link (s : Stop) (e : LinkError) : startError s ≠ .refused (.link e) := by
  cases s <;> simp [startError]

/-- Without a start function nothing stops. -/
lemma StartStops.of_start {c : Wasi.Context} {ps : List (Provided σ)} {g g₁ : Guest} {s : Stop}
    {w₁ : World σ} (hs : (w.addSlot m ps c).start m w.slots.size g = (.error s, g₁, w₁)) :
    w.StartStops m c ps g s := by
  refine ⟨?_, by rw [hs]⟩
  unfold start at hs
  cases hf : m.definition.start with
  | none =>
    rw [hf] at hs
    cases hs
  | some f => rfl

lemma StartStops.fails {c : Wasi.Context} {ps : List (Provided σ)} {g : Guest} {s : Stop}
    (hp : w.Prepares m o c ps g) (h : w.StartStops m c ps g s) :
    ∃ v, w.Fails m o (.start s) v := by
  obtain ⟨-, hs⟩ := h
  have hstart : (w.addSlot m ps c).start m w.slots.size g =
      (.error s, ((w.addSlot m ps c).start m w.slots.size g).2) := Prod.ext hs rfl
  exact ⟨_, .start hp hstart⟩

/-! ### What a refusal tells -/

/-- A link error comes from resolving, which comes after the context of the system interface. -/
theorem instantiate_eq_link_iff {e : LinkError} :
    (w.instantiate m o).1 = .refused (.link e) ↔
      (∃ c, w.contextFor o = .ok c) ∧ o.resolve m = .error (.link e) := by
  rw [instantiate_eq_iff (by simp)]
  constructor
  · rintro ⟨b, v, h, hb⟩
    cases h with
    | @imports c r hc hr =>
      cases r with
      | link e' =>
        cases hb
        exact ⟨⟨c, hc⟩, hr⟩
      | panic => cases hb
    | @start _ _ _ _ s => exact absurd hb (startError_ne_link s e)
    | _ => cases hb
  · rintro ⟨⟨c, hc⟩, hr⟩
    exact ⟨_, _, .imports hc hr, rfl⟩

/-- A trap comes from a segment that does not fit or from the start function. -/
theorem instantiate_eq_trap_iff {message : String} :
    (w.instantiate m o).1 = .refused (.trap message) ↔
      ∃ c ps, w.contextFor o = .ok c ∧ o.resolve m = .ok ps ∧
        ((∃ t, Guest.populate m.definition (Provided.supplied ps) = .error t ∧
            message = t.message) ∨
          ∃ g s, w.Prepares m o c ps g ∧ w.StartStops m c ps g s ∧ s.Blames message) := by
  rw [instantiate_eq_iff (by simp)]
  constructor
  · rintro ⟨b, v, h, hb⟩
    cases h with
    | @imports c r hc hr => cases r <;> cases hb
    | @segment c ps t hc hps ht =>
      cases hb
      exact ⟨c, ps, hc, hps, .inl ⟨t, ht, rfl⟩⟩
    | @start c ps g g₁ s w₁ hp hs =>
      exact ⟨c, ps, hp.context, hp.imports,
        .inr ⟨g, s, hp, .of_start hs, startError_eq_trap_iff.1 hb⟩⟩
    | _ => cases hb
  · rintro ⟨c, ps, hc, hps, ⟨t, ht, rfl⟩ | ⟨g, s, hp, hs, hb⟩⟩
    · exact ⟨_, _, .segment hc hps ht, rfl⟩
    · obtain ⟨v, hv⟩ := hs.fails hp
      exact ⟨_, _, hv, startError_eq_trap_iff.2 hb⟩

/-- An engine error comes from the context of the system interface, from one of its functions that
the start function calls, or from an export that a host cannot hold. -/
theorem instantiate_eq_engine_iff {message : String} :
    (w.instantiate m o).1 = .refused (.engine message) ↔
      (∃ e, w.contextFor o = .error e ∧ message = e.message) ∨
      ∃ c ps g, w.Prepares m o c ps g ∧
        (w.StartStops m c ps g (.engine message) ∨
          ∃ g₁ w₁ e, w.Starts m c ps g g₁ w₁ ∧
            (m.exports.find? fun e => Module.isHidden e.type) = some e ∧
            message = "export '" ++ e.name ++ "' has a kind that cannot be exposed to the host") := by
  rw [instantiate_eq_iff (by simp)]
  constructor
  · rintro ⟨b, v, h, hb⟩
    cases h with
    | context he =>
      cases hb
      exact .inl ⟨_, he, rfl⟩
    | @imports c r hc hr => cases r <;> cases hb
    | segment => cases hb
    | @start c ps g g₁ s w₁ hp hs =>
      cases startError_eq_engine_iff.1 hb
      exact .inr ⟨c, ps, g, hp, .inl (.of_start hs)⟩
    | @hidden c ps g g₁ w₁ name hp hs he =>
      obtain ⟨e, hfind, rfl⟩ := exportsOf_eq_error_iff.1 he
      cases hb
      exact .inr ⟨c, ps, g, hp, .inr ⟨g₁, w₁, e, hs, hfind, rfl⟩⟩
  · rintro (⟨e, he, rfl⟩ | ⟨c, ps, g, hp, hs | ⟨g₁, w₁, e, hs, hfind, rfl⟩⟩)
    · exact ⟨_, _, .context he, rfl⟩
    · obtain ⟨v, hv⟩ := hs.fails hp
      exact ⟨_, _, hv, rfl⟩
    · exact ⟨_, _, .hidden hp hs (exportsOf_eq_error_iff.2 ⟨e, hfind, rfl⟩), rfl⟩

/-- **A refusal tells which step failed, but for one pair of steps.** A link error is that of the
imports, after the context of the system interface was built. A trap names the start function, but it
comes just as well from an active segment that does not fit, whether or not there is a start function.
Any other refusal is an engine error: that of the context, that of a function of the system
interface which the start function has called, or an export that a host cannot hold. -/
theorem refusals_by_phase (w : World σ) (m : Module) (o : ImportObject σ) :
    (∀ e, (w.instantiate m o).1 = .refused (.link e) ↔
      (∃ c, w.contextFor o = .ok c) ∧ o.resolve m = .error (.link e)) ∧
    (∀ message, (w.instantiate m o).1 = .refused (.trap message) ↔
      ∃ c ps, w.contextFor o = .ok c ∧ o.resolve m = .ok ps ∧
        let s := Provided.supplied ps
        ((MissesTable m.definition s ∧ message = Trap.tableOutOfBounds.message) ∨
          (¬ MissesTable m.definition s ∧ MissesMemory m.definition s ∧
            message = Trap.memoryOutOfBounds.message) ∨
          (¬ MissesTable m.definition s ∧ ¬ MissesMemory m.definition s ∧
            ∃ g stop, Guest.populate m.definition s = .ok g ∧ w.StartStops m c ps g stop ∧
              stop.Blames message))) ∧
    (∀ message, (w.instantiate m o).1 = .refused (.engine message) ↔
      (∃ e, w.contextFor o = .error e ∧ message = e.message) ∨
      ∃ c ps g, w.Prepares m o c ps g ∧
        (w.StartStops m c ps g (.engine message) ∨
          ∃ g₁ w₁ e, w.Starts m c ps g g₁ w₁ ∧
            (m.exports.find? fun e => Module.isHidden e.type) = some e ∧
            message = "export '" ++ e.name ++
              "' has a kind that cannot be exposed to the host")) := by
  refine ⟨fun e => instantiate_eq_link_iff, fun message => ?_, fun message =>
    instantiate_eq_engine_iff⟩
  rw [instantiate_eq_trap_iff]
  refine exists_congr fun c => exists_congr fun ps => and_congr_right fun hc =>
    and_congr_right fun hps => ?_
  simp only [Guest.populate_eq_error_iff]
  constructor
  · rintro (⟨t, ⟨hmiss, rfl⟩ | ⟨hfit, hmiss, rfl⟩, rfl⟩ | ⟨g, s, hp, hs, hb⟩)
    · exact .inl ⟨hmiss, rfl⟩
    · exact .inr (.inl ⟨hfit, hmiss, rfl⟩)
    · obtain ⟨hfit, hfit'⟩ := Guest.exists_populate_iff.1 ⟨g, hp.segments⟩
      exact .inr (.inr ⟨hfit, hfit', g, s, hp.segments, hs, hb⟩)
  · rintro (⟨hmiss, rfl⟩ | ⟨hfit, hmiss, rfl⟩ | ⟨-, -, g, s, hg, hs, hb⟩)
    · exact .inl ⟨_, .inl ⟨hmiss, rfl⟩, rfl⟩
    · exact .inl ⟨_, .inr ⟨hfit, hmiss, rfl⟩, rfl⟩
    · exact .inr ⟨g, s, ⟨hc, hps, hg⟩, hs, hb⟩

end World

/-- A module without a start function. Its one segment begins where its memory ends. -/
def Module.overflowDefinition : Definition :=
  { Definition.empty with
    memories := [⟨1, none, false, false⟩]
    datas := [⟨.active 0 [.op (.const (.i32 65536))], [0x61]⟩] }

def Module.overflow : Module where
  engine := .standard 0
  binary := Binary.encode overflowDefinition .empty
  definition := overflowDefinition
  code := []
  imports := []
  exports := []
  customs := []
  name := none
  bodies_eq := by decide
  imports_eq := rfl
  exports_eq := rfl

lemma Module.compile_overflow : compile (.standard 0) overflow.binary = .ok overflow :=
  compile_self (m := overflow) (by decide +kernel) (by decide +kernel) (by decide +kernel)
    rfl rfl

/-- A segment that does not fit is reported as a trap of a start function, though there is none. -/
theorem World.trap_without_start_function :
    Module.compile (.standard 0) Module.overflow.binary = .ok .overflow ∧
      Module.overflow.definition.start = none ∧
      (World.instantiate (.create () (.ofFiles .empty)) .overflow .empty).1 =
        .refused (.trap "wasm trap: out of bounds memory access") ∧
      (InstantiationError.trap "wasm trap: out of bounds memory access").message =
        "start function trapped: wasm trap: out of bounds memory access" := by
  refine ⟨Module.compile_overflow, rfl, ?_, by decide⟩
  have hfit : ¬ MissesTable Module.overflow.definition ⟨[], [], []⟩ := fun ⟨_, he, _⟩ => nomatch he
  have hmiss : MissesMemory Module.overflow.definition ⟨[], [], []⟩ := by
    refine ⟨_, .head [], fun hholds => ?_⟩
    obtain ⟨m, hm, hle⟩ := hholds 0 [.op (.const (.i32 65536))] rfl
    obtain rfl : Memory.ofType ⟨1, none, false, false⟩ = m := Option.some.inj hm
    change 65536 + 1 ≤ _ at hle
    simp [Memory.byteSize, Memory.size, Memory.ofType, pageSize] at hle
  have hpopulate : Guest.populate Module.overflow.definition ⟨[], [], []⟩ =
      .error .memoryOutOfBounds :=
    Guest.populate_eq_error_iff.2 (.inr ⟨hfit, hmiss, rfl⟩)
  exact instantiate_eq_trap_iff.2
    ⟨.empty, [], rfl, ImportObject.resolve_empty rfl, .inl ⟨_, hpopulate, rfl⟩⟩

end Embedder
