import Embedder.Proofs.Calls.Exit
import Embedder.Proofs.Linking.Postponed
import Embedder.Proofs.Modules.Compiling
import Embedder.Proofs.World.Binding
import Embedder.Proofs.World.Phases

/-!
# Start functions and calls

A function does the same as the start function of a module and as an export that is called once the
instance is there. The two are told to the host in different words, and on one occasion as different
things. Both end with the same trap where code comes to a vector or atomic instruction.

* `World.startRun`: what the start function of a new instance leaves;
* `World.instantiate_of_start`: what the instantiation makes of that;
* `World.perform_of_postponed`: what a call makes of the same;
* `World.SystemFails`: a function of the system interface fails on the way;
* `World.start_agrees_with_call`: both compared, for every module and import object.
-/

namespace Embedder

open Execution (Program Guest Machine Stop Outcome)

variable {σ : Type}

/-- No function of the host that is offered uses a memory. -/
def ImportObject.Unaware (o : ImportObject σ) : Prop :=
  ∀ (ns name : String) (f : HostFunction σ),
    o.get? ns name = some (.function f) → f.usesMemory = false

/-- Every function of the system interface takes or gives something. -/
lemma Wasi.Function.type_ne_nothing (f : Function) : f.type ≠ ⟨[], []⟩ := by
  cases f <;> decide

namespace World

variable {w v : World σ} {m m' : Module} {o : ImportObject σ} {c : Wasi.Context}
  {ps : List (Provided σ)} {g : Guest} {f n : Nat} {name : String}

/-! ### The last instance -/

/-- The instance that was added last. -/
lemma slots_addSlot (w : World σ) (m : Module) (ps : List (Provided σ)) (c : Wasi.Context) :
    (w.addSlot m ps c).slots[w.slots.size]? =
      some ⟨m.program, (Provided.functions ps).toArray, none, m.exportedMemory, c, none⟩ := by
  simp [addSlot]

lemma rebind_setGuest (v : World σ) (n : Nat) (memory : Option Nat) (g : Guest) :
    (v.rebind n memory).setGuest n (some g) = v.settle n memory g := by
  unfold rebind setGuest settle
  rw [Elementwise.modify_modify]
  rfl

/-- An instance that was put to rest and runs again is as before, but for its memory. -/
lemma settle_setGuest (hv : v.guest? n = none) (memory : Option Nat) (g : Guest) :
    (v.settle n memory g).setGuest n none = v.rebind n memory := by
  unfold settle setGuest rebind
  rw [Elementwise.modify_modify]
  congr 1
  refine Elementwise.modify_congr fun s hs => ?_
  have hg : s.guest = none := by simpa [guest?, hs] using hv
  exact congrArg (fun x => { s with boundMemory := memory, guest := x }) hg.symm

lemma dropSlot_settle (hv : v.slots.size = n + 1) (memory : Option Nat) (g : Guest) :
    (v.settle n memory g).dropSlot = v.dropSlot := by
  unfold settle dropSlot
  congr 1
  refine Array.ext_getElem? fun i => ?_
  simp only [Array.getElem?_pop, Array.getElem?_modify, Array.size_modify, hv]
  split
  · rename_i hi
    rw [if_neg (by omega)]
  · rfl

lemma addSlot_rebound (hps : o.resolve m = .ok ps) (ho : o.Unaware) (c : Wasi.Context)
    (memory : Option Nat) :
    Rebound w.slots.size memory (w.addSlot m ps c)
      ((w.addSlot m ps c).rebind w.slots.size memory) := by
  refine ⟨rfl, fun s hs k f hf => ?_⟩
  cases (slots_addSlot w m ps c).symm.trans hs
  obtain ⟨ns, name, hget⟩ := o.exists_function hps hf
  exact ho ns name f hget

/-! ### The start function -/

/-- What the start function of a new instance leaves. -/
def startRun (w : World σ) (m : Module) (ps : List (Provided σ)) (c : Wasi.Context) (g : Guest)
    (f : Nat) : Outcome (World σ) :=
  let v := w.addSlot m ps c
  Execution.invoke m.program (hostCall (callWithin v.resting) w.slots.size false) f [] g v

lemma start_eq_startRun (hf : m.definition.start = some f) :
    (w.addSlot m ps c).start m w.slots.size g =
      ((w.startRun m ps c g f).result.map fun _ => (), (w.startRun m ps c g f).guest,
        (w.startRun m ps c g f).world) := by
  simp only [start, hf]
  rfl

lemma size_startRun : (w.startRun m ps c g f).world.slots.size = w.slots.size + 1 := by
  have houtline : (w.startRun m ps c g f).world.outline = (w.addSlot m ps c).outline :=
    Execution.run_keeps outline (outline_hostCall (outline_callWithin _) w.slots.size false) ..
  rw [size_congr _ houtline, addSlot, Array.size_push]

/-- **What an instantiation makes of the run of a start function.** -/
theorem instantiate_of_start (hp : w.Prepares m o c ps g) (hf : m.definition.start = some f) :
    w.instantiate m o =
      match (w.startRun m ps c g f).result with
      | .error s => (startError s, (w.startRun m ps c g f).world.dropSlot)
      | .ok _ =>
        match m.exportsOf w.slots.size with
        | .error text => ((Setback.hidden text).report, (w.startRun m ps c g f).world.dropSlot)
        | .ok es =>
          (.made ⟨w.slots.size, m, es⟩, (w.startRun m ps c g f).world.settle w.slots.size
            m.boundMemory (w.startRun m ps c g f).guest) := by
  simp only [instantiate_of_prepares hp, launch, start_eq_startRun hf]
  cases (w.startRun m ps c g f).result <;> rfl

/-- A start function that comes to its end gives nothing. -/
lemma startRun_eq_ok (h₀ : w.Reached) (hp : w.Prepares m o c ps g)
    (hf : m.definition.start = some f) {cells : List Cell}
    (h : (w.startRun m ps c g f).result = .ok cells) : cells = [] := by
  obtain ⟨contexts, hw⟩ := h₀.exists_typed
  obtain ⟨contexts', hd, hw'⟩ := hw.extend m
  have hnone : ([] : List Cell).map Cell.type = [] := rfl
  have hrun := Execution.invoke_typed (m.program_checked hd)
    (hostCall_keeps (callWithin_typed (w.addSlot m ps c).resting) m.program w.slots.size false)
    (hd.startFunction hf) hnone (Guest.populate_typed hd (o.supplied_typed hp.imports) hp.segments)
    (addSlot_typed (s := c) hw' hp.imports hd)
  exact List.map_eq_nil_iff.1 (hrun.result cells h)

/-! ### The same function called -/

lemma Prepares.postponed (hm : m.Postponed f name m') :
    w.Prepares m' o c ps g ↔ w.Prepares m o c ps g := by
  constructor
  · rintro ⟨hc, hps, hg⟩
    exact ⟨hc, hm.resolve_eq o ▸ hps, hm.populate_eq _ ▸ hg⟩
  · rintro ⟨hc, hps, hg⟩
    exact ⟨hc, (hm.resolve_eq o).trans hps, (hm.populate_eq _).trans hg⟩

/-- Without the run of a start function both modules fail alike. -/
lemma instantiate_of_not_prepared (hm : m.Postponed f name m')
    (h : ¬ ∃ c ps g, w.Prepares m o c ps g) : w.instantiate m' o = w.instantiate m o := by
  unfold instantiate
  cases hc : w.contextFor o with
  | error e => rfl
  | ok c =>
    rw [hm.resolve_eq]
    cases hps : o.resolve m with
    | error r => cases r <;> rfl
    | ok ps =>
      simp only [hm.populate_eq]
      cases hg : Guest.populate m.definition (Provided.supplied ps) with
      | error t => rfl
      | ok g => exact absurd ⟨c, ps, g, hc, hps, hg⟩ h

/-- The other module has no start function, so its instance rests at once. -/
lemma instantiate_of_postponed (hm : m.Postponed f name m') (hp : w.Prepares m o c ps g) :
    w.instantiate m' o =
      match m'.exportsOf w.slots.size with
      | .error text => ((Setback.hidden text).report, w)
      | .ok es =>
        (.made ⟨w.slots.size, m', es⟩,
          (w.addSlot m ps c).settle w.slots.size m.boundMemory g) := by
  have hadd : w.addSlot m' ps c = w.addSlot m ps c := by
    unfold addSlot
    rw [hm.program_eq, hm.exportedMemory_eq]
  have hdrop : (w.addSlot m ps c).dropSlot = w := by simp [addSlot, dropSlot]
  simp only [instantiate_of_prepares ((Prepares.postponed hm).2 hp), launch, hadd, start,
    hm.start_eq, hm.boundMemory_eq]
  cases m'.exportsOf w.slots.size with
  | error text => exact congrArg (Prod.mk _) hdrop
  | ok es => rfl

/-- A start function that is imported is one of the host, which gives nothing. -/
lemma exists_host_of_start (hps : o.resolve m = .ok ps) (hf : m.definition.start = some f)
    (hlt : f < m.program.imported) :
    ∃ x : HostFunction σ, (Provided.functions ps)[f]? = some (.host x) ∧ x.type.results = [] := by
  have hall := o.forall₂_functions hps
  rw [m.imported_program] at hlt
  have hi := List.getElem?_eq_getElem hlt
  obtain ⟨y, hy⟩ : ∃ y, (Provided.functions ps)[f]? = some y :=
    ⟨_, List.getElem?_eq_getElem (hall.length_eq ▸ hlt)⟩
  have htype := (m.functionType?_of_import hi).symm.trans (m.functionType?_start hf)
  have hnothing : y.type = ⟨[], []⟩ :=
    Option.some.inj ((Elementwise.rel_of_forall₂ hall hi hy).type_eq.symm.trans htype)
  cases y with
  | host x => exact ⟨x, hy, congrArg FunctionType.results hnothing⟩
  | generated version x => exact absurd hnothing x.type_ne_nothing

/-- It does not matter whether the host calls the function or code does. -/
lemma enter_eq_invoke (hps : o.resolve m = .ok ps) (hf : m.definition.start = some f)
    {calls : Calls σ} {s : Slot σ} (hs : v.slots[n]? = some s)
    (hi : s.imported = (Provided.functions ps).toArray) :
    enter calls ⟨n, f⟩ m.program [] g v =
      Execution.invoke m.program (hostCall calls n false) f [] g v := by
  have ht : m.program.functions[f]? = some ⟨[], []⟩ := by
    rw [m.functions_program, m.functionType?_start hf]
  have htakes : m.program.takes f [] = true := by
    rw [Program.takes, ht]
    rfl
  unfold enter
  simp only [List.map_nil, htakes, if_true]
  split
  · rename_i hlt
    obtain ⟨x, hx, hnothing⟩ := exists_host_of_start hps hf hlt
    have hk : s.imported[f]? = some (.host x) := by rw [hi, List.getElem?_toArray, hx]
    have hcall : ∀ direct, hostCall calls n direct f [] g v = callHost calls s.boundMemory x [] g v :=
      fun direct => by simp [hostCall, hs, hk]
    rw [hcall, Execution.invoke_imported ht hlt rfl, hcall]
    intro results hresults
    rw [hcall] at hresults
    have htypes := callHost_eq_ok hresults
    rw [hnothing, List.map_eq_nil_iff] at htypes
    rw [htypes]
    rfl
  · rfl

/-- A new instance that rests is one more. -/
lemma resting_settle (w : World σ) (m : Module) (ps : List (Provided σ)) (c : Wasi.Context)
    (memory : Option Nat) (g : Guest) :
    ((w.addSlot m ps c).settle w.slots.size memory g).resting = (w.addSlot m ps c).resting + 1 := by
  have houtline := outline_addSlot w m ps c
  rw [resting_eq_countP, resting_eq_countP, outline_settle_last houtline, houtline]
  simp

/-- The world in which the instance of the other module is called. -/
lemma slot_of_postponed (w : World σ) (m : Module) (ps : List (Provided σ)) (c : Wasi.Context)
    (memory : Option Nat) (g : Guest) :
    ((w.addSlot m ps c).settle w.slots.size memory g).slots[w.slots.size]? =
      some ⟨m.program, (Provided.functions ps).toArray, memory, m.exportedMemory, c, some g⟩ := by
  simp only [settle, Array.getElem?_modify, if_true, slots_addSlot, Option.map_some]

/-- The code of that instance runs as the start function did. -/
lemma invoke_rebound_startRun (hp : w.Prepares m o c ps g) (ho : o.Unaware) (f : Nat) :
    (w.startRun m ps c g f).Agrees (Rebound w.slots.size m.boundMemory)
      (Execution.invoke m.program
        (hostCall (callWithin (w.addSlot m ps c).resting) w.slots.size false) f [] g
        (((w.addSlot m ps c).settle w.slots.size m.boundMemory g).setGuest w.slots.size none)) := by
  have hnone : (w.addSlot m ps c).guest? w.slots.size = none := by
    rw [guest?, slots_addSlot]
    rfl
  rw [settle_setGuest hnone]
  exact invoke_rebound (callWithin_rebound _ _ _) _ _ _ _ _ (addSlot_rebound hp.imports ho c _)

/-- **What a call makes of the same run.** -/
theorem perform_of_postponed (hm : m.Postponed f name m') (hp : w.Prepares m o c ps g)
    (ho : o.Unaware) :
    ((w.addSlot m ps c).settle w.slots.size m.boundMemory g).perform
        (Handle.call ⟨⟨w.slots.size, f⟩, ⟨[], []⟩⟩ []) =
      (match (w.startRun m ps c g f).result with
        | .error .panicked => .panicked
        | r => .done (CallError.results ⟨[], []⟩ (some r)),
        (w.startRun m ps c g f).world.settle w.slots.size m.boundMemory
          (w.startRun m ps c g f).guest) := by
  have hslot := slot_of_postponed w m ps c m.boundMemory g
  have hcall : (Handle.call ⟨⟨w.slots.size, f⟩, ⟨[], []⟩⟩ [] :
      Action σ (Except CallError (List Value))) =
        .call ⟨w.slots.size, f⟩ [] fun a => .done (CallError.results ⟨[], []⟩ a) := rfl
  obtain ⟨hresult, hguest, hworld, -⟩ := invoke_rebound_startRun hp ho f
  rw [perform, resting_settle, hcall, run, callWithin_some _ [] hslot rfl,
    enter_eq_invoke hp.imports hm.start (slots_setGuest_self hslot none) rfl]
  simp only [hresult, hguest, hworld, rebind_setGuest]
  cases (w.startRun m ps c g f).result with
  | ok cells => rfl
  | error s => cases s <;> rfl

/-! ### Failures of the system interface -/

/-- The call of a function that takes nothing comes to a function of the system interface, which fails
with a message. -/
inductive SystemFails (w : World σ) (a : Address) (message : String) : Prop
  | intro {s : Slot σ} {g g' : Guest} {v : World σ} {k steps : Nat} {cells : List Cell}
      {version : Wasi.Version} {x : Wasi.Function} (hs : w.slots[a.owner]? = some s)
      (hg : s.guest = some g) (hk : s.imported[k]? = some (.generated version x))
      (hsteps : steps < s.program.steps)
      (hc : Execution.CallsHostAfter s.program
        (hostCall (callWithin (w.resting - 1)) a.owner false) k cells g' v steps
        (s.program.entry a.index []) g (w.setGuest a.owner none))
      (hx : (hostCall (callWithin (w.resting - 1)) a.owner false k cells g' v).result =
        .error (.engine message)) : SystemFails w a message

/-- **Code fails as the engine does exactly if a function of the system interface does** that it has
come to. -/
theorem systemFails_iff {a : Address} {s : Slot σ} (hs : w.slots[a.owner]? = some s)
    (hg : s.guest = some g) {message : String} :
    w.SystemFails a message ↔
      (Execution.invoke s.program (hostCall (callWithin (w.resting - 1)) a.owner false) a.index [] g
        (w.setGuest a.owner none)).result = .error (.engine message) := by
  rw [Execution.invoke_eq_run]
  constructor
  · rintro ⟨hs', hg', hk, hsteps, hc, hx⟩
    cases hs.symm.trans hs'
    cases hg.symm.trans hg'
    rw [(hc.run_eq (Outcome.eq_of_result hx) _).1 hsteps]
  · intro h
    obtain hstop | ⟨_, hstop⟩ | ⟨k, cells, g', v, hc, hx⟩ := Execution.run_eq_error h
    · cases hstop
    · cases hstop
    · obtain ⟨s', version, x, hs', hk, -⟩ := exists_generated_of_hostCall hx (.inr ⟨_, rfl⟩)
      have houtline := hc.keeps outline (outline_hostCall (outline_callWithin _) a.owner false)
      obtain ⟨s'', hs'', hsame⟩ := exists_slot houtline (slots_setGuest_self hs none)
      cases hs'.symm.trans hs''
      rw [show s'.imported = s.imported from congrArg Outline.imported hsame] at hk
      obtain ⟨steps, hsteps⟩ := hc.exists_after
      refine .intro hs hg hk (Nat.lt_of_not_le fun hle => ?_) hsteps hx
      rw [(hsteps.run_eq (Outcome.eq_of_result hx) _).2 hle] at h
      cases h

/-- The start function fails so exactly if the call comes to such a function. -/
lemma systemFails_of_postponed (hp : w.Prepares m o c ps g) (ho : o.Unaware) {message : String} :
    ((w.addSlot m ps c).settle w.slots.size m.boundMemory g).SystemFails ⟨w.slots.size, f⟩ message ↔
      (w.startRun m ps c g f).result = .error (.engine message) := by
  rw [systemFails_iff (slot_of_postponed w m ps c m.boundMemory g) rfl, resting_settle,
    Nat.add_sub_cancel]
  exact Eq.congr_left (invoke_rebound_startRun hp ho f).result_eq

/-! ### Both compared -/

section Postponed

variable {i : Instance} {h : Handle FunctionType}

/-- The instance of the other module, and the function that it exports. -/
lemma made_of_postponed (hm : m.Postponed f name m') (hi : w.instantiate m' o = (.made i, v))
    (hx : i.exports.function name = .ok h) :
    ∃ c ps g, w.Prepares m o c ps g ∧
      v = (w.addSlot m ps c).settle w.slots.size m.boundMemory g ∧ i.number = w.slots.size ∧
      (∃ es, m.exportsOf w.slots.size = .ok es) ∧ h = ⟨⟨w.slots.size, f⟩, ⟨[], []⟩⟩ := by
  obtain ⟨c, ps, g, hp⟩ := exists_prepares hi
  have hp := (Prepares.postponed hm).1 hp
  rw [instantiate_of_postponed hm hp] at hi
  cases hes : m'.exportsOf w.slots.size with
  | error text =>
    rw [hes] at hi
    cases hi
  | ok es =>
    rw [hes] at hi
    cases hi
    have hh : h = ⟨⟨w.slots.size, f⟩, ⟨[], []⟩⟩ :=
      Except.ok.inj (hx.symm.trans (hm.function_eq_ok hes))
    refine ⟨c, ps, g, hp, rfl, rfl, ?_, hh⟩
    cases hes' : m.exportsOf w.slots.size with
    | error text => cases hes.symm.trans (hm.exportsOf_eq_error_iff.2 hes')
    | ok es' => exact ⟨es', rfl⟩

/-- A start function that comes to its end is one whose call answers. -/
lemma exists_made_iff (h₀ : w.Reached) (hm : m.Postponed f name m') (ho : o.Unaware) :
    (∃ i, w.instantiate m o = (.made i, v) ∧ i.number = n) ↔
      ∃ i w₁ h, w.instantiate m' o = (.made i, w₁) ∧ i.number = n ∧
        i.exports.function name = .ok h ∧ w₁.perform (h.call []) = (.done (.ok []), v) := by
  constructor
  · rintro ⟨i, hi, rfl⟩
    obtain ⟨c, ps, g, hp⟩ := exists_prepares hi
    have hperform := perform_of_postponed hm hp ho
    rw [instantiate_of_start hp hm.start] at hi
    cases hr : (w.startRun m ps c g f).result with
    | error s =>
      rw [hr] at hi
      exact absurd (congrArg Prod.fst hi) (startError_ne_made s i)
    | ok cells =>
      obtain rfl := startRun_eq_ok h₀ hp hm.start hr
      simp only [hr] at hi hperform
      cases hes : m.exportsOf w.slots.size with
      | error text =>
        rw [hes] at hi
        cases hi
      | ok es =>
        rw [hes] at hi
        cases hi
        cases hes' : m'.exportsOf w.slots.size with
        | error text => cases hes.symm.trans (hm.exportsOf_eq_error_iff.1 hes')
        | ok es' =>
          have hi' := instantiate_of_postponed hm hp
          rw [hes'] at hi'
          exact ⟨_, _, _, hi', rfl, hm.function_eq_ok hes', hperform⟩
  · rintro ⟨i, w₁, h, hi, rfl, hx, hv⟩
    obtain ⟨c, ps, g, hp, rfl, hnumber, ⟨es, hes⟩, rfl⟩ := made_of_postponed hm hi hx
    rw [perform_of_postponed hm hp ho] at hv
    have hstart := instantiate_of_start hp hm.start
    cases hr : (w.startRun m ps c g f).result with
    | error s =>
      rw [hr] at hv
      cases s <;> cases hv
    | ok cells =>
      obtain rfl := startRun_eq_ok h₀ hp hm.start hr
      simp only [hr, hes] at hv hstart
      cases hv
      exact ⟨_, hstart, hnumber.symm⟩

/-- A start function that stops leaves the world as its call does, but for the instance. -/
lemma refused_of_postponed {s : Stop} (hp : w.Prepares m o c ps g)
    (hf : m.definition.start = some f) (hr : (w.startRun m ps c g f).result = .error s) :
    w.instantiate m o =
      (startError s, ((w.startRun m ps c g f).world.settle w.slots.size m.boundMemory
        (w.startRun m ps c g f).guest).dropSlot) := by
  rw [instantiate_of_start hp hf, hr, dropSlot_settle size_startRun]

end Postponed

/-- **A start function and a call of the same function agree**, but for failures of the system
interface. For every module with a start function there is one that exports it under a fresh name
instead. If no function of the host uses a memory, then both modules fail alike before the function
runs; the first one is made an instance exactly if the call of the function answers, and then the
worlds are the same, with all that the instances own; and if the call stops, the host is told of it as
a trap of the start function with the same message, an exit with a message that has its status. But a
failure of the system interface, which a call tells as a trap, is told as one of the engine. -/
theorem start_agrees_with_call {w : World σ} (h₀ : w.Reached) {m : Module} {f : Nat} {name : String}
    (hf : m.definition.start = some f) (hname : name ∉ m.definition.exports.map ExportEntry.name)
    {o : ImportObject σ} (ho : o.Unaware) :
    (∃ m', m.Postponed f name m') ∧ ∀ m', m.Postponed f name m' →
      ((¬ ∃ c ps g, w.Prepares m o c ps g) → w.instantiate m' o = w.instantiate m o) ∧
      (∀ n v, (∃ i, w.instantiate m o = (.made i, v) ∧ i.number = n) ↔
        ∃ i w₁ h, w.instantiate m' o = (.made i, w₁) ∧ i.number = n ∧
          i.exports.function name = .ok h ∧ w₁.perform (h.call []) = (.done (.ok []), v)) ∧
      ∀ i w₁ h r v, w.instantiate m' o = (.made i, w₁) → i.exports.function name = .ok h →
        w₁.perform (h.call []) = (r, v) →
        (∀ code, r = .done (.error (.exit code)) →
          w.instantiate m o =
            (.refused (.trap ("start function exited with code " ++ toString code)),
              v.dropSlot)) ∧
        (∀ message, r = .done (.error (.trap message)) →
          (¬ w₁.SystemFails h.address message →
            w.instantiate m o = (.refused (.trap message), v.dropSlot)) ∧
          (w₁.SystemFails h.address message →
            w.instantiate m o = (.refused (.engine message), v.dropSlot))) ∧
        (r = .panicked → w.instantiate m o = (.panicked, v.dropSlot)) := by
  refine ⟨m.exists_postponed hf hname, fun m' hm => ⟨instantiate_of_not_prepared hm, fun n v =>
    exists_made_iff h₀ hm ho, fun i w₁ h r v hi hx hv => ?_⟩⟩
  obtain ⟨c, ps, g, hp, rfl, -, -, rfl⟩ := made_of_postponed hm hi hx
  rw [perform_of_postponed hm hp ho] at hv
  simp only [systemFails_of_postponed hp ho]
  cases hr : (w.startRun m ps c g f).result with
  | ok cells =>
    obtain rfl := startRun_eq_ok h₀ hp hf hr
    rw [hr] at hv
    cases hv
    refine ⟨fun code h => ?_, fun message h => ?_, fun h => ?_⟩ <;> cases h
  | error s =>
    have hi := refused_of_postponed hp hf hr
    rw [hr] at hv
    cases s with
    | exited code =>
      cases hv
      refine ⟨fun code' h => ?_, fun _ h => (nomatch h), (nomatch ·)⟩
      cases h
      exact hi
    | engine text =>
      cases hv
      refine ⟨fun _ h => (nomatch h), fun message h => ?_, (nomatch ·)⟩
      cases h
      exact ⟨fun hno => absurd rfl hno, fun _ => hi⟩
    | panicked =>
      cases hv
      exact ⟨fun _ h => (nomatch h), fun _ h => (nomatch h), fun _ => hi⟩
    | _ =>
      cases hv
      refine ⟨fun _ h => (nomatch h), fun message h => ?_, (nomatch ·)⟩
      cases h
      exact ⟨fun _ => hi, (nomatch ·)⟩

end World

/-! ### A guest that exits at its start -/

/-- A module whose start function exits with a status. -/
def Module.starterDefinition (status : UInt32) : Definition :=
  { Definition.empty with
    types := [⟨[.i32], []⟩, ⟨[], []⟩]
    imports := [⟨"wasi_snapshot_preview1", "proc_exit", .function 0⟩]
    functions := [1]
    memories := [⟨1, none, false, false⟩]
    exports := [⟨"memory", .memory, 0⟩]
    start := some 1
    bodies := [⟨[], [.op (.const (.i32 status)), .op (.call 0)]⟩] }

def Module.starter (status : UInt32) : Module where
  engine := .standard 0
  binary := Binary.encode (starterDefinition status) .empty
  definition := starterDefinition status
  code := [.op (.const (.i32 status)) (.op (.call 0) .done)]
  imports := [⟨"wasi_snapshot_preview1", "proc_exit", .function ⟨[.i32], []⟩⟩]
  exports := [⟨"memory", .memory ⟨1, none, false, false⟩⟩]
  customs := []
  name := none
  bodies_eq := rfl
  imports_eq := rfl
  exports_eq := rfl

/-- The module that exports that function instead. -/
def Module.postponedStarter (status : UInt32) : Module where
  engine := .standard 0
  binary := Binary.encode ((starterDefinition status).postpone 1 "go") .empty
  definition := (starterDefinition status).postpone 1 "go"
  code := (starter status).code
  imports := (starter status).imports
  exports := [⟨"memory", .memory ⟨1, none, false, false⟩⟩, ⟨"go", .function ⟨[], []⟩⟩]
  customs := []
  name := none
  bodies_eq := rfl
  imports_eq := rfl
  exports_eq := rfl

lemma Module.postponed_starter (status : UInt32) :
    (starter status).Postponed 1 "go" (postponedStarter status) := ⟨rfl, rfl, rfl⟩

lemma ImportObject.unaware_system : system.Unaware := fun _ _ _ h => nomatch h

namespace World

/-- A world without instances, files or streams. -/
def bare : World Unit := create () (.ofFiles .empty)

lemma prepares_starter (status : UInt32) :
    bare.Prepares (.starter status) .system leaverSlot.context [.generated .snapshot1 .procExit]
      leaverGuest :=
  ⟨rfl, ImportObject.resolve_leaver, rfl⟩

/-- Two steps come before the one that exits: the call of the start function, and the status. -/
lemma callsHost_starter (status : UInt32) (host : Execution.HostCall (World Unit)) (v : World Unit) :
    Execution.CallsHostAfter (Module.starter status).program host 0 [.i32 status] leaverGuest v 2
      ((Module.starter status).program.entry 1 []) leaverGuest v := by
  have hdepth : ¬ (Module.starter status).program.depth ≤ 0 :=
    Nat.not_le.2 (by decide : 0 < Module.leaver.program.depth)
  have himported : (Module.starter status).program.imported = 1 := rfl
  have hstart : (Module.starter status).program.functions[1]? = some ⟨[], []⟩ := rfl
  have hexit : (Module.starter status).program.functions[0]? = some ⟨[.i32], []⟩ := rfl
  have hbody : (Module.starter status).program.bodies[0]? =
      some ⟨[], .op (.const (.i32 status)) (.op (.call 0) .done)⟩ := rfl
  let caller : Execution.Activation := ⟨#[], [], .done, [], 0⟩
  let body : Execution.Activation := ⟨#[], [], .op (.const (.i32 status)) (.op (.call 0) .done), [], 0⟩
  have hcall : ((Module.starter status).program.entry 1 []).step (Module.starter status).program
      leaverGuest = .next ⟨body, [caller], 1⟩ leaverGuest := by
    simp [Program.entry, Machine.ofCall, Machine.step, Machine.stepOp, Machine.onControl,
      Machine.call, Machine.activation, hdepth, himported, hstart, hbody, body, caller]
  have hhost : Machine.step (Module.starter status).program
      ⟨{ body with stack := [.i32 status], code := .op (.call 0) .done }, [caller], 1⟩ leaverGuest =
        .host 0 [.i32 status] ⟨{ body with code := .done }, [caller], 1⟩ leaverGuest := by
    simp [Machine.step, Machine.stepOp, Machine.onControl, Machine.call, himported, hexit, body]
  exact .next hcall (.next rfl (.now hhost))

/-- The world with the instance whose start function runs. -/
def starting (status : UInt32) : World Unit :=
  bare.addSlot (.starter status) [.generated .snapshot1 .procExit] leaverSlot.context

lemma startRun_starter (status : UInt32) :
    (bare.startRun (.starter status) [.generated .snapshot1 .procExit] leaverSlot.context leaverGuest
      1).result = .error (Wasi.Function.exitStop (some 0) status) := by
  have hslot : (starting status).slots[0]? = some
      ⟨(Module.starter status).program, #[.generated .snapshot1 .procExit], none, some 0,
        leaverSlot.context, none⟩ :=
    slots_addSlot bare (.starter status) [.generated .snapshot1 .procExit] leaverSlot.context
  have hmemory : ∀ j, some 0 = some j → ∃ mem, leaverGuest.memories[j]? = some mem := by
    rintro _ ⟨⟩
    exact ⟨_, rfl⟩
  have hexit : hostCall (callWithin 0) 0 false 0 [.i32 status] leaverGuest (starting status) =
      ⟨.error (Wasi.Function.exitStop (some 0) status), leaverGuest, starting status⟩ :=
    hostCall_exit hslot rfl hmemory status
  rw [startRun, Execution.invoke_eq_run]
  exact congrArg Outcome.result
    (((callsHost_starter status _ _).run_eq hexit _).1
      (show 2 < Engine.standardPatience by decide))

/-- The world with the instance that exports the function. -/
def started (status : UInt32) : World Unit := (starting status).settle 0 (some 0) leaverGuest

/-- The function. -/
def go : Handle FunctionType := ⟨⟨0, 1⟩, ⟨[], []⟩⟩

lemma instantiate_postponedStarter (status : UInt32) :
    bare.instantiate (.postponedStarter status) .system =
      (.made ⟨0, .postponedStarter status, ⟨[⟨"memory", .memory ⟨⟨0, 0⟩, ⟨1, none, false, false⟩⟩⟩,
        ⟨"go", .function go⟩]⟩⟩, started status) :=
  instantiate_of_postponed (Module.postponed_starter status) (prepares_starter status)

lemma perform_go (status : UInt32) : ((started status).perform (go.call [])).1 =
    .done (.error (.ofStop (Wasi.Function.exitStop (some 0) status))) := by
  have hperform := perform_of_postponed (Module.postponed_starter status) (prepares_starter status)
    ImportObject.unaware_system
  rw [startRun_starter] at hperform
  have hpanic := Wasi.Function.exitStop_ne_panicked (some 0) status
  generalize Wasi.Function.exitStop (some 0) status = s at hperform hpanic ⊢
  cases s with
  | panicked => exact absurd rfl hpanic
  | _ => exact congrArg Prod.fst hperform

/-- The status 5 is told as a trap of the start function. -/
theorem starter_exits_with_five :
    Module.compile (.standard 0) (Module.starter 5).binary = .ok (.starter 5) ∧
    bare.Reached ∧ (Module.starter 5).definition.start = some 1 ∧
      "go" ∉ (Module.starter 5).definition.exports.map ExportEntry.name ∧
      ImportObject.system.Unaware ∧
      (bare.instantiate (.starter 5) .system).1 =
        .refused (.trap "start function exited with code 5") := by
  have hreached : bare.Reached := ⟨(), _, .refl⟩
  have hstart : (Module.starter 5).definition.start = some 1 := rfl
  have hname : "go" ∉ (Module.starter 5).definition.exports.map ExportEntry.name := by decide
  have hcompile : Module.compile (.standard 0) (Module.starter 5).binary = .ok (.starter 5) :=
    Module.compile_self (m := .starter 5) (by decide +kernel) (by decide +kernel)
      (by decide +kernel) rfl rfl
  refine ⟨hcompile, hreached, hstart, hname, ImportObject.unaware_system, ?_⟩
  obtain ⟨-, hall⟩ := start_agrees_with_call hreached hstart hname ImportObject.unaware_system
  obtain ⟨-, -, hcall⟩ := hall _ (Module.postponed_starter 5)
  obtain ⟨hexit, -⟩ :=
    hcall _ _ go _ _ (instantiate_postponedStarter 5) rfl (Prod.ext (perform_go 5) rfl)
  exact congrArg Prod.fst (hexit 5 rfl)

/-- The status 200 is told as a trap by a call, and as a failure of the engine by the instantiation. -/
theorem starter_fails_with_two_hundred :
    Module.compile (.standard 0) (Module.starter 200).binary = .ok (.starter 200) ∧
    Module.compile (.standard 0) (Module.postponedStarter 200).binary = .ok (.postponedStarter 200) ∧
    (Module.starter 200).Postponed 1 "go" (.postponedStarter 200) ∧ ImportObject.system.Unaware ∧
      ∃ i, bare.instantiate (.postponedStarter 200) .system = (.made i, started 200) ∧
        i.exports.function "go" = .ok go ∧
        ((started 200).perform (go.call [])).1 =
          .done (.error (.trap "exit with invalid exit status outside of [0..126)")) ∧
        (bare.instantiate (.starter 200) .system).1 =
          .refused (.engine "exit with invalid exit status outside of [0..126)") := by
  have hstarter : Module.compile (.standard 0) (Module.starter 200).binary = .ok (.starter 200) :=
    Module.compile_self (m := .starter 200) (by decide +kernel) (by decide +kernel)
      (by decide +kernel) rfl rfl
  have hpostponed : Module.compile (.standard 0) (Module.postponedStarter 200).binary =
      .ok (.postponedStarter 200) :=
    Module.compile_self (m := .postponedStarter 200) (by decide +kernel) (by decide +kernel)
      (by decide +kernel) rfl rfl
  refine ⟨hstarter, hpostponed, Module.postponed_starter 200, ImportObject.unaware_system, _,
    instantiate_postponedStarter 200, rfl, perform_go 200, ?_⟩
  rw [instantiate_of_start (prepares_starter 200) rfl, startRun_starter]
  rfl

end World

end Embedder
