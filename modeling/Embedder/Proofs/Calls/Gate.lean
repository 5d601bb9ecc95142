import Embedder.Proofs.World.Refusals
import Embedder.Proofs.World.Relay

/-!
# What a call of an exported function checks

A call is looked at before it is made: whether the host can read the results of the function, whether
the arguments are as many as the parameters, and whether each of them has the type of its parameter.
After that the types are right on both sides. Code that computes with vectors or uses atomic accesses
gives no results here: such a call ends with a trap.

* `FunctionType.FirstFault`: what is wrong with a call first, in this order;
* `FunctionType.fault?_eq_some_iff`: it is what a call is refused with;
* `FunctionType.exists_firstFault_iff`: there is something wrong with a call;
* `Moment.call_gate_fixes_types`: all of it for the exported functions of an instance, at every moment,
  and what a call that ends gives back.
-/

namespace Embedder

variable {σ α : Type}

/-! ### The first fault -/

/-- What is wrong with a call of a function of a type, where everything that is looked at before is as
it should be. -/
inductive FunctionType.FirstFault (t : FunctionType) (arguments : List Value) : SignatureFault → Prop
  | referenceResult {i : Nat} {u : ValueType} (hu : t.results[i]? = some u)
      (href : u.isReference = true) (hbefore : ∀ v ∈ t.results.take i, v.isReference = false) :
      FirstFault t arguments (.referenceResult i u)
  | argumentCount (hresults : ∀ u ∈ t.results, u.isReference = false)
      (hlength : arguments.length ≠ t.params.length) :
      FirstFault t arguments (.argumentCount t.params.length arguments.length)
  | argumentType {i : Nat} {u : ValueType} {v : Value}
      (hresults : ∀ u ∈ t.results, u.isReference = false)
      (hlength : arguments.length = t.params.length) (hu : t.params[i]? = some u)
      (hv : arguments[i]? = some v) (hne : v.type ≠ u)
      (hbefore : (arguments.take i).map Value.type = t.params.take i) :
      FirstFault t arguments (.argumentType i u v.type)

/-- The search counts from `k`, so the index of what it finds is behind it. -/
lemma referenceResult?_eq_some_iff (k : Nat) (ts : List ValueType) (f : SignatureFault) :
    referenceResult? k ts = some f ↔ ∃ i u, f = .referenceResult (k + i) u ∧ ts[i]? = some u ∧
      u.isReference = true ∧ ∀ v ∈ ts.take i, v.isReference = false := by
  induction ts generalizing k with
  | nil => simp [referenceResult?]
  | cons t ts ih =>
    unfold referenceResult?
    split
    · rename_i ht
      constructor
      · intro h
        exact ⟨0, t, (Option.some.inj h).symm, rfl, ht, by simp⟩
      · rintro ⟨i, u, rfl, hu, -, hbefore⟩
        cases i with
        | zero =>
          cases hu
          rfl
        | succ i =>
          have hfirst := hbefore t (by simp)
          rw [ht] at hfirst
          cases hfirst
    · rename_i ht
      rw [ih]
      constructor
      · rintro ⟨i, u, rfl, hu, href, hbefore⟩
        refine ⟨i + 1, u, by rw [Nat.add_right_comm, Nat.add_assoc], hu, href, ?_⟩
        simpa [ht] using hbefore
      · rintro ⟨i, u, rfl, hu, href, hbefore⟩
        cases i with
        | zero =>
          cases hu
          exact absurd href ht
        | succ i =>
          refine ⟨i, u, by rw [Nat.add_right_comm, Nat.add_assoc], hu, href, fun v hv => ?_⟩
          exact hbefore v (by simp [hv])

lemma argumentFault?_eq_some_iff (k : Nat) (ts : List ValueType) (values : List Value)
    (f : SignatureFault) :
    argumentFault? k ts values = some f ↔ ∃ i u v, f = .argumentType (k + i) u v.type ∧
      ts[i]? = some u ∧ values[i]? = some v ∧ v.type ≠ u ∧
      (values.take i).map Value.type = ts.take i := by
  induction ts generalizing k values with
  | nil => simp [argumentFault?]
  | cons t ts ih =>
    cases values with
    | nil => simp [argumentFault?]
    | cons x values =>
      unfold argumentFault?
      split
      · rename_i hx
        rw [ih]
        constructor
        · rintro ⟨i, u, v, rfl, hu, hv, hne, hbefore⟩
          refine ⟨i + 1, u, v, by rw [Nat.add_right_comm, Nat.add_assoc], hu, hv, hne, ?_⟩
          rw [List.take_succ_cons, List.take_succ_cons, List.map_cons, hx, hbefore]
        · rintro ⟨i, u, v, rfl, hu, hv, hne, hbefore⟩
          cases i with
          | zero =>
            cases hu
            cases hv
            exact absurd hx hne
          | succ i =>
            refine ⟨i, u, v, by rw [Nat.add_right_comm, Nat.add_assoc], hu, hv, hne, ?_⟩
            exact (List.cons.inj hbefore).2
      · rename_i hx
        constructor
        · intro h
          exact ⟨0, t, x, (Option.some.inj h).symm, rfl, rfl, hx, rfl⟩
        · rintro ⟨i, u, v, rfl, hu, hv, -, hbefore⟩
          cases i with
          | zero =>
            cases hu
            cases hv
            rfl
          | succ i => exact absurd (List.cons.inj hbefore).1 hx

namespace FunctionType

variable (t : FunctionType) (arguments : List Value)

/-- **A call is refused with what is wrong first.** -/
theorem fault?_eq_some_iff (f : SignatureFault) :
    t.fault? arguments = some f ↔ t.FirstFault arguments f := by
  unfold fault?
  cases hresults : referenceResult? 0 t.results with
  | some f' =>
    obtain ⟨i, u, rfl, hu, href, hbefore⟩ := (referenceResult?_eq_some_iff 0 _ _).1 hresults
    rw [Nat.zero_add] at hresults ⊢
    constructor
    · intro h
      cases h
      exact .referenceResult hu href hbefore
    · intro h
      cases h with
      | referenceResult hu' href' hbefore' =>
        have hfirst := (referenceResult?_eq_some_iff 0 _ _).2 ⟨_, _, rfl, hu', href', hbefore'⟩
        rw [Nat.zero_add] at hfirst
        exact hresults.symm.trans hfirst
      | argumentCount hnone | argumentType hnone =>
        rw [hnone u (List.mem_of_getElem? hu)] at href
        cases href
  | none =>
    rw [referenceResult?_eq_none_iff] at hresults
    simp only
    split
    · rename_i hlength
      rw [argumentFault?_eq_some_iff]
      constructor
      · rintro ⟨i, u, v, rfl, hu, hv, hne, hbefore⟩
        rw [Nat.zero_add]
        exact .argumentType hresults hlength hu hv hne hbefore
      · intro h
        cases h with
        | referenceResult hu href =>
          rw [hresults _ (List.mem_of_getElem? hu)] at href
          cases href
        | argumentCount _ hne => exact absurd hlength hne
        | argumentType _ _ hu hv hne hbefore =>
          exact ⟨_, _, _, by rw [Nat.zero_add], hu, hv, hne, hbefore⟩
    · rename_i hlength
      constructor
      · intro h
        cases h
        exact .argumentCount hresults hlength
      · intro h
        cases h with
        | referenceResult hu href =>
          rw [hresults _ (List.mem_of_getElem? hu)] at href
          cases href
        | argumentCount => rfl
        | argumentType _ heq => exact absurd heq hlength

/-- Something is wrong with a call: a result is a reference, the arguments are too many or too few, or
one of them has another type. -/
theorem exists_firstFault_iff :
    (∃ f, t.FirstFault arguments f) ↔
      (∃ u ∈ t.results, u.isReference = true) ∨ arguments.length ≠ t.params.length ∨
        ∃ (i : Nat) (u : ValueType) (v : Value),
          t.params[i]? = some u ∧ arguments[i]? = some v ∧ v.type ≠ u := by
  constructor
  · rintro ⟨f, h⟩
    cases h with
    | referenceResult hu href => exact .inl ⟨_, List.mem_of_getElem? hu, href⟩
    | argumentCount _ hlength => exact .inr (.inl hlength)
    | argumentType _ _ hu hv hne => exact .inr (.inr ⟨_, _, _, hu, hv, hne⟩)
  · intro h
    simp only [← fault?_eq_some_iff]
    refine Option.ne_none_iff_exists'.1 fun hnone => ?_
    obtain ⟨hresults, hparams⟩ := (t.fault?_eq_none_iff arguments).1 hnone
    rcases h with ⟨u, hu, href⟩ | hlength | ⟨i, u, v, hu, hv, hne⟩
    · rw [hresults u hu] at href
      cases href
    · exact hlength (by rw [← hparams, List.length_map])
    · rw [← hparams, List.getElem?_map, hv, Option.map_some, Option.some.injEq] at hu
      exact hne hu

/-- No value of the host is a reference, so none is an argument where a reference is asked for. -/
lemma exists_firstFault_of_reference (h : ∃ u ∈ t.params, u.isReference = true) :
    ∃ f, t.FirstFault arguments f := by
  obtain ⟨u, hu, href⟩ := h
  simp only [← fault?_eq_some_iff]
  refine Option.ne_none_iff_exists'.1 fun hnone => ?_
  rw [← ((t.fault?_eq_none_iff arguments).1 hnone).2] at hu
  obtain ⟨v, -, rfl⟩ := List.mem_map.1 hu
  cases v <;> cases href

end FunctionType

/-! ### Calls -/

lemma CallError.results_ne_signatureMismatch {t type : FunctionType}
    {a : Option (Except Execution.Stop (List Cell))} {f : SignatureFault}
    (ha : ∀ cells, a = some (.ok cells) → ∃ values, cells.mapM Cell.toValue? = some values) :
    results t a ≠ .error (.signatureMismatch type f) := by
  intro h
  rcases a with _ | s | cells
  · cases h
  · cases s <;> cases h
  · obtain ⟨values, hvalues⟩ := ha cells rfl
    simp [results, hvalues] at h

namespace Moment

open World (callWithin)

variable {t : Moment σ α} {h : Handle FunctionType} {arguments : List Value}

/-- A call with a fault ends at once. -/
lemma call_of_firstFault {f : SignatureFault} (hf : h.type.FirstFault arguments f) :
    (t.turn (h.call arguments)).ends =
        (.done (.error (.signatureMismatch h.type f)), t.guest, t.world) ∧
      (t.turn (h.call arguments)).RunsNoCode := by
  have hcall : h.call arguments =
      (.done (.error (.signatureMismatch h.type f)) : Action σ _) := by
    rw [Handle.call, (h.type.fault?_eq_some_iff arguments f).2 hf]
  rw [hcall]
  exact ⟨rfl, t.runsNoCode_done _⟩

variable {w₀ w₁ w : World σ} {m : Module} {o : ImportObject σ} {i : Instance} {name : String}

/-- The function behind an export has the type that the host sees. -/
lemma Occurs.exists_function (hi : w₀.instantiate m o = (.made i, w₁)) (hw : World.Leads w₁ w)
    (hx : i.exports.function name = .ok h) (ht : t.Occurs w) :
    ∃ s, t.world.slots[h.address.owner]? = some s ∧
      s.program.functions[h.address.index]? = some h.type := by
  obtain ⟨-, -, -, -, hexports, -⟩ := World.outline_instantiate_made hi
  obtain ⟨hown, htype⟩ := m.function_eq_ok hexports hx
  obtain ⟨ps, atRest, -, ho⟩ := ht.outline_of_made hi hw
  rw [World.outline_getElem?] at ho
  obtain ⟨s, hs, -⟩ := Option.map_eq_some_iff.1 ho
  refine ⟨s, hown ▸ hs, ?_⟩
  rw [ht.program_eq hi hw hs, m.functions_program, htype]

/-- A call is refused for its signature only before it is made. -/
lemma Occurs.signatureMismatch_iff (h₀ : w₀.Reached) (hi : w₀.instantiate m o = (.made i, w₁))
    (hw : World.Leads w₁ w) (hx : i.exports.function name = .ok h) (ht : t.Occurs w)
    (type : FunctionType) (f : SignatureFault) :
    (t.turn (h.call arguments)).ends.1 = .done (.error (.signatureMismatch type f)) ↔
      type = h.type ∧ h.type.FirstFault arguments f := by
  constructor
  · intro hends
    cases hf : h.type.fault? arguments with
    | some f' =>
      have hfirst := (h.type.fault?_eq_some_iff arguments f').1 hf
      rw [(call_of_firstFault hfirst).1] at hends
      cases hends
      exact ⟨rfl, hfirst⟩
    | none =>
      exfalso
      simp only [ends, turn, Handle.call, hf, World.run] at hends
      cases hc : callWithin t.depth h.address arguments t.world with
      | mk answer v =>
        rw [hc] at hends
        cases answer with
        | busy => cases hends
        | panicked => cases hends
        | ended a =>
          have hanswer := World.Ended.done.inj hends
          refine CallError.results_ne_signatureMismatch (fun cells ha => ?_) hanswer
          cases ha
          exact ht.readable h₀ hi hw hx hf hc
  · rintro ⟨rfl, hf⟩
    rw [(call_of_firstFault hf).1]

/-- What a call that ends gives to the host. -/
lemma Occurs.call_of_ended (h₀ : w₀.Reached) (hi : w₀.instantiate m o = (.made i, w₁))
    (hw : World.Leads w₁ w) (hx : i.exports.function name = .ok h) (ht : t.Occurs w)
    (hf : h.type.fault? arguments = none) {cells : List Cell} {v : World σ}
    (hc : callWithin t.depth h.address arguments t.world = (.ended (.ok cells), v)) :
    ∃ values, (t.turn (h.call arguments)).ends = (.done (.ok values), t.guest, v) ∧
      cells = values.map Cell.ofValue ∧ values.map Value.type = h.type.results := by
  obtain ⟨values, hvalues⟩ := ht.readable h₀ hi hw hx hf hc
  have hcells := Cell.mapM_toValue?_eq_some_iff.1 hvalues
  refine ⟨values, ?_, hcells, ?_⟩
  · simp only [ends, turn, Handle.call, hf, World.run, hc, CallError.results, hvalues]
  · rw [← ht.type_results h₀ hi hw hx hc, hcells, Cell.map_type_ofValue]

/-- **The types of a call are fixed on both sides.** An exported function is one of the type that the
host sees, whether the module has code for it or imports it. At every moment after the instance was
made, a call is refused for its signature if and only if a result is a reference, the arguments are too
many or too few, or one of them has another type than its parameter; the refusal names what is wrong
first, and it is all that happens. So a function that takes a reference is never entered. A call that
is not refused is one that the engine takes, and if it ends with results, then the host gets all of
them, and they have the types of the function. -/
theorem call_gate_fixes_types (h₀ : w₀.Reached) (hi : w₀.instantiate m o = (.made i, w₁))
    (hw : World.Leads w₁ w) (hx : i.exports.function name = .ok h) (ht : t.Occurs w) :
    (∀ arguments type fault,
      (t.turn (h.call arguments)).ends.1 = .done (.error (.signatureMismatch type fault)) ↔
        type = h.type ∧ h.type.FirstFault arguments fault) ∧
    (∀ arguments,
      (∃ type fault, (t.turn (h.call arguments)).ends.1 =
        .done (.error (.signatureMismatch type fault))) ↔
      (∃ u ∈ h.type.results, u.isReference = true) ∨ arguments.length ≠ h.type.params.length ∨
        ∃ (j : Nat) (u : ValueType) (v : Value),
          h.type.params[j]? = some u ∧ arguments[j]? = some v ∧ v.type ≠ u) ∧
    (∀ arguments fault, h.type.FirstFault arguments fault →
      (t.turn (h.call arguments)).ends =
        (.done (.error (.signatureMismatch h.type fault)), t.guest, t.world) ∧
      (t.turn (h.call arguments)).RunsNoCode) ∧
    ((∃ u ∈ h.type.params, u.isReference = true) → ∀ arguments,
      (∃ fault, h.type.FirstFault arguments fault) ∧
      ∀ t', Relation.ReflTransGen Step (t.turn (h.call arguments)) t' → ∀ u, ¬ t'.Enters u) ∧
    ∃ s, t.world.slots[h.address.owner]? = some s ∧
      s.program.functions[h.address.index]? = some h.type ∧
      ∀ arguments, (∀ fault, ¬ h.type.FirstFault arguments fault) →
        s.program.takes h.address.index (arguments.map Cell.ofValue) = true ∧
        ∀ cells v, callWithin t.depth h.address arguments t.world = (.ended (.ok cells), v) →
          ∃ values, (t.turn (h.call arguments)).ends = (.done (.ok values), t.guest, v) ∧
            cells = values.map Cell.ofValue ∧ values.map Value.type = h.type.results := by
  have hiff : ∀ arguments type fault,
      (t.turn (h.call arguments)).ends.1 = .done (.error (.signatureMismatch type fault)) ↔
        type = h.type ∧ h.type.FirstFault arguments fault :=
    fun arguments => ht.signatureMismatch_iff h₀ hi hw hx
  refine ⟨hiff, fun arguments => ?_, fun arguments fault => call_of_firstFault,
    fun href arguments => ?_, ?_⟩
  · rw [← h.type.exists_firstFault_iff]
    simp only [hiff, exists_and_left, exists_eq_left]
  · obtain ⟨fault, hfault⟩ := h.type.exists_firstFault_of_reference arguments href
    obtain ⟨-, hcode⟩ := call_of_firstFault (t := t) hfault
    exact ⟨⟨fault, hfault⟩, fun t' hsteps u => hcode.not_enters hsteps⟩
  · obtain ⟨s, hs, hfunction⟩ := ht.exists_function hi hw hx
    refine ⟨s, hs, hfunction, fun arguments hno => ?_⟩
    have hf : h.type.fault? arguments = none := by
      refine Option.eq_none_iff_forall_ne_some.2 fun f hf => hno f ?_
      exact (h.type.fault?_eq_some_iff arguments f).1 hf
    refine ⟨?_, fun cells v hc => ht.call_of_ended h₀ hi hw hx hf hc⟩
    rw [Execution.Program.takes, hfunction, Option.any_some, beq_iff_eq, Cell.map_type_ofValue]
    exact ((h.type.fault?_eq_none_iff arguments).1 hf).2

/-- A function of the host that a module exports again is refused an integer for its second parameter,
a float, and refused a single argument. With the right arguments it is called. -/
theorem call_gate_of_relay :
    ∃ (h : Handle FunctionType) (t : Moment Unit Unit), h.type = ⟨[.i32, .f32], [.i64]⟩ ∧
      (t.turn (h.call [.i32 1, .i32 2])).ends.1 =
        .done (.error (.signatureMismatch h.type (.argumentType 1 .f32 .i32))) ∧
      (t.turn (h.call [.i32 1])).ends.1 =
        .done (.error (.signatureMismatch h.type (.argumentCount 2 1))) ∧
      (t.turn (h.call [.i32 1, .f32 2])).ends.1 = .done (.ok [.i64 5]) := by
  let f : HostFunction Unit := ⟨⟨[.i32, .f32], [.i64]⟩, false, fun _ => .done [.i64 5]⟩
  let w : World Unit := .create () (.ofFiles .empty)
  have hi := w.instantiate_relay f (by decide)
  have hx : Exports.function ⟨[⟨"f", .function ⟨⟨w.slots.size, 0⟩, f.type⟩⟩]⟩ "f" =
    .ok ⟨⟨w.slots.size, 0⟩, f.type⟩ := rfl
  obtain ⟨hmismatch, -, -, -, s, -, -, hmade⟩ :=
    call_gate_fixes_types ⟨(), _, .refl⟩ hi .refl hx (.perform (.done ()))
  obtain ⟨-, hended⟩ := hmade [.i32 1, .f32 2] fun fault hfault => by
    have hnone : f.type.fault? [.i32 1, .f32 2] = none := by decide
    rw [(f.type.fault?_eq_some_iff _ fault).2 hfault] at hnone
    cases hnone
  obtain ⟨values, hends, hcells, -⟩ := hended [.value (.i64 5)] _ rfl
  refine ⟨_, _, rfl, (hmismatch _ _ _).2 ⟨rfl, ?_⟩, (hmismatch _ _ _).2 ⟨rfl, ?_⟩, ?_⟩
  · exact (f.type.fault?_eq_some_iff _ _).1 (by decide)
  · exact (f.type.fault?_eq_some_iff _ _).1 (by decide)
  · rw [hends]
    match values, hcells with
    | [v], hcells =>
      cases hcells
      rfl

end Moment

end Embedder
