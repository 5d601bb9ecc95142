import Embedder.Proofs.Calls.Signatures
import Embedder.Proofs.Typing.World
import Embedder.Proofs.World.Relay

/-!
# Calling a function of the host through an instance

A module may export a function that it imports. A host that calls the export runs its own function,
once and on the very arguments that it gave, and it gets the very results.

* `Outline.Relays`: a function of an instance is a function of the host;
* `Moment.PassesTo`: a call runs the body of a function once, and it ends as the body ends;
* `Moment.Runs.refuses_references`: code cannot hand references to the host;
* `HostFunction.call_transparent`: which calls are made, and how they end.
-/

namespace Embedder

open Execution (Program Guest Machine Stop Outcome)
open Elementwise

variable {σ α : Type}

/-! ### Functions of the host in an instance -/

/-- How a call ends when the body of the function has ended. -/
def FunctionType.answer (type : FunctionType) : World.Ended (List Value) → World.CallAnswer
  | .done outs => .ended (World.checkResults type.results outs)
  | .failed message => .ended (.error (.failed message))
  | .panicked => .panicked

/-- What a host is told when the body of the function that it called has ended. -/
def FunctionType.told (type : FunctionType) :
    World.Ended (List Value) → World.Ended (Except CallError (List Value))
  | .done outs => .done (CallError.results type (some (World.checkResults type.results outs)))
  | .failed message => .done (.error (.trap message))
  | .panicked => .panicked

/-- The function `k` of an instance is a function of the host that it imports. -/
structure Outline.Relays (o : Outline σ) (k : Nat) (f : HostFunction σ) : Prop where
  type : o.program.functions[k]? = some f.type
  isImported : k < o.program.imported
  function : o.imported[k]? = some (.host f)

namespace World

/-- The message for code that hands a reference to the host. -/
def referenceMessage : String := "reference arguments cannot reach host functions"

/-- An instance of a module that exports what it imports has the function of the host under that
name. -/
theorem exists_relays {w w' : World σ} {m : Module} {o : ImportObject σ} {i : Instance}
    (h : w.instantiate m o = (.made i, w')) {k : Nat} {e : ImportEntry × Nat}
    (he : m.definition.functionImports[k]? = some e) {f : HostFunction σ}
    (hf : o.get? e.1.module e.1.name = some (.function f)) {name : String}
    (hx : ⟨name, .function, k⟩ ∈ m.definition.exports) :
    i.exports.function name = .ok ⟨⟨i.number, k⟩, f.type⟩ ∧
      ∃ out, w'.outline[i.number]? = some out ∧ out.Relays k f := by
  obtain ⟨ps, hps, hn, -, hexports, hout⟩ := outline_instantiate_made h
  have hall := ImportObject.forall₂_functions o hps
  have hk : k < m.definition.functionImports.length := (List.getElem?_eq_some_iff.1 he).1
  obtain ⟨x, hxk⟩ : ∃ x, (Provided.functions ps)[k]? = some x :=
    ⟨_, List.getElem?_eq_getElem (hall.length_eq ▸ hk)⟩
  have hserves := rel_of_forall₂ hall he hxk
  obtain ⟨f', hitem, rfl⟩ := hserves.eq_host hf
  cases hitem
  have htype : m.definition.functionType? k = some f.type :=
    (m.functionType?_of_import he).trans hserves.type_eq
  constructor
  · obtain ⟨t, ht, hget⟩ := m.get_exportsOf hexports hx
    simp only [Definition.exportType?, Definition.entityType?, htype, Option.map_some,
      Option.some.injEq] at ht
    subst ht
    unfold Exports.function
    rw [hget]
    rfl
  · refine ⟨_, by rw [hout, hn, ← size_outline w, Array.getElem?_push_size], ?_⟩
    exact ⟨(m.functions_program k).trans htype, by rwa [m.imported_program], by simpa using hxk⟩

/-! ### One call -/

section Relayed

variable {w : World σ} {n k d : Nat} {f : HostFunction σ} {s : Slot σ} {g : Guest}
  {arguments : List Value}

lemma takes_of_relays (hr : s.outline.Relays k f) (ha : arguments.map Value.type = f.type.params) :
    s.program.takes k (arguments.map Cell.ofValue) = true := by
  have htype : s.program.functions[k]? = some f.type := hr.type
  unfold Program.takes
  rw [htype, Option.any_some, Cell.map_type_ofValue, ha]
  exact beq_self_eq_true _

lemma slots_setGuest_none (hs : w.slots[n]? = some s) :
    (w.setGuest n none).slots[n]? = some { s with guest := none } := by
  simp only [setGuest, Array.getElem?_modify, if_true, hs, Option.map_some]

/-- A call to a function of the host through an instance at rest runs the body of the function. -/
lemma callWithin_relayed (hs : w.slots[n]? = some s) (hg : s.guest = some g)
    (hr : s.outline.Relays k f) (hm : f.usesMemory = false)
    (ha : arguments.map Value.type = f.type.params) :
    callWithin (d + 1) ⟨n, k⟩ arguments w =
      let r := run (callWithin d) none (f.body arguments) g (w.setGuest n none)
      (f.type.answer r.1, r.2.2.setGuest n (some r.2.1)) := by
  have hlt : k < s.program.imported := hr.isImported
  have himported : s.imported[k]? = some (.host f) := hr.function
  rw [callWithin_some d (f := ⟨n, k⟩) arguments hs hg]
  unfold enter hostCall callHost
  simp only [takes_of_relays hr ha, if_true, hlt, slots_setGuest_none hs, himported,
    Option.bind_some, Option.map_some, Cell.mapM_toValue?_ofValue, hm, Bool.false_and,
    Bool.false_eq_true, if_false]
  generalize run (callWithin d) none (f.body arguments) g (w.setGuest n none) = r
  obtain ⟨ended, g', w'⟩ := r
  cases ended with
  | panicked => rfl
  | failed message => rfl
  | done outs =>
    simp only [FunctionType.answer]
    by_cases hfit : outs.map Value.type = f.type.results
    · rw [checkResults_eq_ok_iff.2 ⟨hfit, rfl⟩]
      rfl
    · obtain ⟨message, hmessage⟩ := exists_checkResults_error hfit
      rw [hmessage]
      rfl

end Relayed

end World

/-- Results that are taken reach the caller with all their bits. -/
lemma CallError.results_checkResults {type : FunctionType} {outs values : List Value} :
    CallError.results type (some (World.checkResults type.results outs)) = .ok values ↔
      outs = values ∧ values.map Value.type = type.results := by
  cases hr : World.checkResults type.results outs with
  | ok cells =>
    obtain ⟨htypes, rfl⟩ := World.checkResults_eq_ok_iff.1 hr
    simp only [CallError.results, Cell.mapM_toValue?_ofValue, Except.ok.injEq]
    constructor
    · rintro rfl
      exact ⟨rfl, htypes⟩
    · exact And.left
  | error e =>
    simp only [CallError.results, reduceCtorEq, false_iff, not_and]
    rintro rfl htypes
    rw [World.checkResults_eq_ok_iff.2 ⟨htypes, rfl⟩] at hr
    cases hr

namespace Moment

open World (callWithin run checkResults)

/-- A call runs the body of a function of the host once, and it ends as the body ends: with the same
results if they have the types of the function, and else with a trap that says what is wrong. The
state of the instance `owner` is the body's meanwhile. -/
structure PassesTo (outer : Moment σ (Except CallError (List Value))) (owner : Nat)
    (type : FunctionType) (inside : Moment σ (List Value)) : Prop where
  enters_iff : ∀ t, outer.Enters t ↔ t = inside
  ends_after : ∀ t, outer.Step t → ∃ r, t.action = .done r
  state : outer.ends.2 = (outer.guest, inside.ends.2.2.setGuest owner (some inside.ends.2.1))
  ok_iff : ∀ outs, outer.ends.1 = .done (.ok outs) ↔
    inside.ends.1 = .done outs ∧ outs.map Value.type = type.results
  unfit : ∀ outs, inside.ends.1 = .done outs → outs.map Value.type ≠ type.results →
    ∃ message, checkResults type.results outs = .error (.failed message) ∧
      outer.ends.1 = .done (.error (.trap message))
  failed : ∀ message, inside.ends.1 = .failed message →
    outer.ends.1 = .done (.error (.trap message))
  panicked : inside.ends.1 = .panicked → outer.ends.1 = .panicked

/-- A call that ends as its body is told of does so in every case. -/
lemma PassesTo.of_ends {outer : Moment σ (Except CallError (List Value))} {n : Nat}
    {type : FunctionType} {inside : Moment σ (List Value)}
    (he : ∀ t, outer.Enters t ↔ t = inside) (hs : ∀ t, outer.Step t → ∃ r, t.action = .done r)
    (h : outer.ends = (type.told inside.ends.1, outer.guest,
      inside.ends.2.2.setGuest n (some inside.ends.2.1))) : outer.PassesTo n type inside := by
  refine ⟨he, hs, by rw [h], fun outs => ?_, fun outs hdone hne => ?_, fun message hfailed => ?_,
    fun hpanicked => ?_⟩
  · rw [h]
    cases inside.ends.1 with
    | done values =>
      simp only [FunctionType.told, World.Ended.done.injEq]
      exact CallError.results_checkResults
    | failed message => simp [FunctionType.told]
    | panicked => simp [FunctionType.told]
  · obtain ⟨message, hmessage⟩ := World.exists_checkResults_error hne
    refine ⟨message, hmessage, ?_⟩
    rw [h, hdone]
    simp only [FunctionType.told, hmessage]
    rfl
  · rw [h, hfailed]
    rfl
  · rw [h, hpanicked]
    rfl

section Relayed

variable {w : World σ} {n k d : Nat} {f : HostFunction σ} {s : Slot σ} {g g₀ : Guest}
  {arguments : List Value} {running : List Nat} {memory : Option Nat}

lemma enters_relayed_iff {next : Option (Except Stop (List Cell)) → Action σ α}
    (hs : w.slots[n]? = some s) (hg : s.guest = some g)
    (hr : s.outline.Relays k f) (hm : f.usesMemory = false)
    (ha : arguments.map Value.type = f.type.params) (t : Moment σ (List Value)) :
    Enters ⟨running, d + 1, memory, .call ⟨n, k⟩ arguments next, g₀, w⟩ t ↔
      t = ⟨n :: running, d, none, f.body arguments, g, w.setGuest n none⟩ := by
  have himported : s.imported[k]? = some (.host f) := hr.function
  constructor
  · intro he
    cases he with
    | call hs' hg' hc ht =>
      cases hs.symm.trans hs'
      cases hg.symm.trans hg'
      cases hc with
      | code _ hlt => exact absurd hr.isImported hlt
      | direct _ hlt =>
        cases ht with
        | intro hs' hf hv hm' =>
          cases (World.slots_setGuest_none hs).symm.trans hs'
          cases himported.symm.trans hf
          cases (Cell.mapM_toValue?_ofValue arguments).symm.trans hv
          rw [hm, if_neg Bool.false_ne_true]
  · rintro rfl
    have hbegins : Begins (n :: running) d n k (arguments.map Cell.ofValue) g (w.setGuest n none)
        ⟨n :: running, d, if f.usesMemory then s.boundMemory else none, f.body arguments, g,
          w.setGuest n none⟩ :=
      .intro (s := { s with guest := none }) (World.slots_setGuest_none hs) himported
        (Cell.mapM_toValue?_ofValue arguments) (by rw [hm, Bool.false_and])
    rw [hm, if_neg Bool.false_ne_true] at hbegins
    exact .call hs hg (.direct (World.takes_of_relays hr ha) hr.isImported) hbegins

lemma ends_relayed (hs : w.slots[n]? = some s) (hg : s.guest = some g)
    (hr : s.outline.Relays k f) (hm : f.usesMemory = false)
    (ha : arguments.map Value.type = f.type.params) :
    ends ⟨running, d + 1, memory,
        .call ⟨n, k⟩ arguments fun a => .done (CallError.results f.type a), g₀, w⟩ =
      let r := run (callWithin d) none (f.body arguments) g (w.setGuest n none)
      (f.type.told r.1, g₀, r.2.2.setGuest n (some r.2.1)) := by
  have hcall := World.callWithin_relayed (d := d) hs hg hr hm ha
  generalize run (callWithin d) none (f.body arguments) g (w.setGuest n none) = r at hcall ⊢
  unfold ends run
  simp only [hcall]
  cases r.1 <;> rfl

/-- **A call to a function of the host through an instance at rest passes to its body.** -/
theorem passesTo_relayed (hs : w.slots[n]? = some s) (hg : s.guest = some g)
    (hr : s.outline.Relays k f) (hm : f.usesMemory = false)
    (hfault : f.type.fault? arguments = none) :
    PassesTo ⟨running, d + 1, memory, Handle.call ⟨⟨n, k⟩, f.type⟩ arguments, g₀, w⟩ n f.type
      ⟨n :: running, d, none, f.body arguments, g, w.setGuest n none⟩ := by
  have ha := ((f.type.fault?_eq_none_iff arguments).1 hfault).2
  have hcall : (Handle.call ⟨⟨n, k⟩, f.type⟩ arguments : Action σ _) =
      .call ⟨n, k⟩ arguments fun a => .done (CallError.results f.type a) := by
    unfold Handle.call
    rw [hfault]
  rw [hcall]
  refine .of_ends (enters_relayed_iff hs hg hr hm ha) (fun t ht => ?_)
    (ends_relayed hs hg hr hm ha)
  cases ht with
  | refused _ => exact ⟨_, rfl⟩
  | returned _ => exact ⟨_, rfl⟩

end Relayed

/-! ### At any moment -/

variable {w : World σ}

lemma not_enters_done {β : Type} (t : Moment σ α) (r : β) {t' : Moment σ (List Value)} :
    ¬ (t.turn (.done r)).Enters t' := by
  obtain ⟨running, depth, memory, action, guest, world⟩ := t
  intro he
  cases he

/-- An instance without an operation in progress passes a call on, at whatever moment. -/
theorem Occurs.passesTo (hw : w.AtRest) {t : Moment σ α} (ht : t.Occurs w) {n k : Nat}
    {f : HostFunction σ} {out : Outline σ} (hout : w.outline[n]? = some out)
    (hr : out.Relays k f) (hm : f.usesMemory = false) (hn : n ∉ t.running)
    {arguments : List Value} (hfault : f.type.fault? arguments = none) :
    ∃ g, t.world.guest? n = some g ∧
      PassesTo (t.turn (Handle.call ⟨⟨n, k⟩, f.type⟩ arguments)) n f.type
        ⟨n :: t.running, t.depth - 1, none, f.body arguments, g, t.world.setGuest n none⟩ := by
  have hsound := ht.sound hw
  obtain ⟨atRest, hout'⟩ := ht.outline_getElem? hout
  have hsize : n < t.world.slots.size := by
    rw [← World.size_outline]
    exact (Array.getElem?_eq_some_iff.1 hout').1
  obtain ⟨g, hg⟩ := Option.ne_none_iff_exists'.1 (mt (hsound.running_iff n hsize).1 hn)
  have hdepth := World.resting_setGuest_none t.world n hg
  have hle := hsound.resting_le
  refine ⟨g, hg, ?_⟩
  obtain ⟨s, hs, hsg⟩ := Option.bind_eq_some_iff.1 hg
  have hrelays : s.outline.Relays k f := by
    rw [World.outline_getElem?, hs] at hout'
    rw [Option.some.inj hout']
    exact ⟨hr.type, hr.isImported, hr.function⟩
  obtain ⟨running, depth, memory, action, guest, world⟩ := t
  obtain ⟨d, rfl⟩ : ∃ d, depth = d + 1 := ⟨depth - 1, by simp only at hle hdepth; omega⟩
  exact passesTo_relayed hs hsg hrelays hm hfault

/-- **Code cannot hand references to the host.** A call to a function with a reference among its
parameters fails before any function of the host begins, and the code that called ends there. -/
theorem Runs.refuses_references (hw : w.Reached) {n d : Nat} {p : Program} {m : Machine}
    {g g' : Guest} {v v' : World σ} {k : Nat} {cells : List Cell} {s : Slot σ}
    {f : HostFunction σ} (h : Runs w n d p m g v)
    (hc : Execution.CallsHost p (World.hostCall (callWithin d) n false) k cells g' v' m g v)
    (hs : v'.slots[n]? = some s) (hf : s.imported[k]? = some (.host f))
    (href : ∃ u ∈ f.type.params, u.isReference = true) :
    (∀ running t, ¬ Begins running d n k cells g' v' t) ∧
      World.hostCall (callWithin d) n false k cells g' v' =
        ⟨.error (.failed World.referenceMessage), g', v'⟩ := by
  obtain ⟨contexts, hcode⟩ := h.exists_typed hw
  obtain ⟨t, ht, hcells, hv'⟩ := hcode.callsHost hc
  have hslot := hv'.outline n s.outline (by rw [World.outline_getElem?, hs]; rfl)
  cases (hslot.imported k _ hf).symm.trans ht
  have hnone : cells.mapM Cell.toValue? = none := by
    rw [Cell.mapM_toValue?_eq_none_iff, hcells]
    exact href
  constructor
  · intro running t hb
    cases hb with
    | intro _ _ hvalues _ =>
      rw [hnone] at hvalues
      cases hvalues
  · unfold World.hostCall World.callHost
    simp only [hs, hf, Option.bind_some, Option.map_some, hnone]
    rfl

end Moment

namespace HostFunction

/-- **Functions of the host are transparent.** A module asks for a function that the host has, and it
exports the function again. Then a call to the export is refused if its signature does not fit, and
nothing runs. Else, unless an operation on the instance is in progress, the function runs exactly
once, on the very arguments, and the call ends as it does. Code that calls any function of the host
with a reference among its parameters is stopped, and the function does not run. -/
theorem call_transparent :
    (∀ {w₀ w₁ w : World σ} {m : Module} {o : ImportObject σ} {i : Instance},
      w₀.Reached → w₀.instantiate m o = (.made i, w₁) → World.Leads w₁ w →
      ∀ {k : Nat} {e : ImportEntry × Nat}, m.definition.functionImports[k]? = some e →
      ∀ {type : FunctionType} {body : List Value → Action σ (List Value)},
      o.get? e.1.module e.1.name = some (.function ⟨type, false, body⟩) →
      ∀ {name : String}, ⟨name, .function, k⟩ ∈ m.definition.exports →
      ∃ h : Handle FunctionType, i.exports.function name = .ok h ∧ h.type = type ∧
        ∀ {α : Type} (t : Moment σ α), t.Occurs w → ∀ arguments : List Value,
          ((∃ u ∈ type.results, u.isReference = true) ∨
              arguments.map Value.type ≠ type.params →
            ∃ fault, type.fault? arguments = some fault ∧
              (t.turn (h.call arguments)).ends =
                (.done (.error (.signatureMismatch type fault)), t.guest, t.world) ∧
              ∀ t', ¬ (t.turn (h.call arguments)).Enters t') ∧
          ((∀ u ∈ type.results, u.isReference = false) →
            arguments.map Value.type = type.params → i.number ∉ t.running →
            ∃ g, t.world.guest? i.number = some g ∧
              (t.turn (h.call arguments)).PassesTo i.number type
                ⟨i.number :: t.running, t.depth - 1, none, body arguments, g,
                  t.world.setGuest i.number none⟩)) ∧
    (∀ {w v v' : World σ} {n d k : Nat} {p : Program} {m : Machine} {g g' : Guest}
      {cells : List Cell} {s : Slot σ} {f : HostFunction σ},
      w.Reached → Moment.Runs w n d p m g v →
      Execution.CallsHost p (World.hostCall (World.callWithin d) n false) k cells g' v' m g v →
      v'.slots[n]? = some s → s.imported[k]? = some (.host f) →
      (∃ u ∈ f.type.params, u.isReference = true) →
      (∀ running t, ¬ Moment.Begins running d n k cells g' v' t) ∧
      Execution.Ends p (World.hostCall (World.callWithin d) n false) m g v
        ⟨.error (.failed World.referenceMessage), g', v'⟩) := by
  constructor
  · intro w₀ w₁ w m o i h₀ hi hw k e he type body hf name hx
    obtain ⟨hexport, out, hout, hr⟩ := World.exists_relays hi he hf hx
    have hreached : w.Reached := by
      have h₁ := World.Event.instantiate w₀ m o
      rw [hi] at h₁
      exact (h₀.leads (.single h₁)).leads hw
    refine ⟨_, hexport, rfl, fun t ht arguments => ⟨fun hunfit => ?_, fun hresults hargs hn => ?_⟩⟩
    · obtain ⟨fault, hfault⟩ : ∃ fault, type.fault? arguments = some fault := by
        refine Option.ne_none_iff_exists'.1 fun hnone => ?_
        obtain ⟨hresults, hargs⟩ := (type.fault?_eq_none_iff arguments).1 hnone
        rcases hunfit with ⟨u, hu, href⟩ | hne
        · rw [hresults u hu] at href
          cases href
        · exact hne hargs
      have hcall : (Handle.call ⟨⟨i.number, k⟩, type⟩ arguments : Action σ _) =
          .done (.error (.signatureMismatch type fault)) := by
        unfold Handle.call
        rw [hfault]
      rw [hcall]
      exact ⟨fault, hfault, rfl, fun t' => t.not_enters_done _⟩
    · have hfault := (type.fault?_eq_none_iff arguments).2 ⟨hresults, hargs⟩
      exact ht.passesTo hreached.atRest (hw.outline_getElem? hout) hr rfl hn hfault
  · intro w v v' n d k p m g g' cells s f hw hruns hc hs hf href
    obtain ⟨hbegins, hcall⟩ := hruns.refuses_references hw hc hs hf href
    exact ⟨hbegins, hc.ends hcall⟩

/-- A function of the host that gives back its arguments. -/
def echo : HostFunction Unit := ⟨⟨[.f32, .v128], [.f32, .v128]⟩, false, .done⟩

/-- A function of the host that takes a reference. -/
def taker : HostFunction Unit := ⟨⟨[.funcref], []⟩, false, fun _ => .panic⟩

/-- The world with an instance that hands a reference to it. -/
def takerWorld : World Unit :=
  ((World.create () (.ofFiles .empty)).instantiate .handover taker.offer).2

/-- A NaN and a vector come back with all their bits, and a null reference does not get through. -/
theorem call_transparent_echo :
    (∃ i w h, (World.create () (.ofFiles .empty)).instantiate (.relay echo.type (by decide))
        echo.offer = (.made i, w) ∧ i.exports.function "f" = .ok h ∧
      (w.perform (h.call [.f32 0x7FA00001, .v128 (.allOnes 128)])).1 =
        .done (.ok [.f32 0x7FA00001, .v128 (.allOnes 128)])) ∧
    ∃ p m g v g' v', Moment.Runs takerWorld 0 0 p m g v ∧
      Execution.Ends p (World.hostCall (World.callWithin 0) 0 false) m g v
        ⟨.error (.failed World.referenceMessage), g', v'⟩ := by
  constructor
  · have hreached : World.Reached (World.create () (.ofFiles .empty)) := ⟨(), _, .refl⟩
    have hi := World.instantiate_relay (World.create () (.ofFiles .empty)) echo (by decide)
    obtain ⟨h, hexport, -, hcalls⟩ := call_transparent.1 hreached hi .refl (k := 0) rfl
      (Dictionary.find?_insert_self ..) (List.mem_singleton.2 rfl)
    obtain ⟨g, -, hpasses⟩ := (hcalls _ (.perform (.panic : Action Unit Unit))
      [.f32 0x7FA00001, .v128 (.allOnes 128)]).2 (by decide) rfl (by simp)
    exact ⟨_, _, h, hi, hexport, (hpasses.ok_iff _).2 ⟨rfl, rfl⟩⟩
  · have hreached : World.Reached takerWorld := ⟨(), _, .single (.instantiate ..)⟩
    have hslots : takerWorld.slots = #[⟨Module.handover.program, #[.host taker], none, none, .empty,
        some ⟨#[], #[], #[], #[], #[]⟩⟩] := by
      rw [takerWorld, taker, World.instantiate_handover]
      rfl
    have hresting : takerWorld.resting = 1 := by simp [World.resting, hslots]
    have hcall : (⟨[], takerWorld.resting, none, .call ⟨0, 1⟩ [] .done, ⟨#[], #[], #[], #[], #[]⟩,
        takerWorld⟩ : Moment Unit _).Occurs takerWorld := .perform _
    rw [hresting] at hcall
    have hruns := Moment.Runs.call hcall (by rw [hslots]; rfl) rfl rfl (by decide)
    exact ⟨_, _, _, _, _, _, hruns,
      (call_transparent.2 hreached hruns (.next rfl (.next rfl (.now rfl)))
        (by simp [World.setGuest, hslots]; rfl) rfl ⟨.funcref, by decide, rfl⟩).2⟩

end HostFunction

end Embedder
