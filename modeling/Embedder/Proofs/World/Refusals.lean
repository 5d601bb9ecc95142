import Embedder.Proofs.Memories.Limits
import Embedder.Proofs.Typing.World
import Embedder.Proofs.World.Entities

/-!
# Refused operations

What a host tries with the exports of an instance can be refused: there is no such export, arguments
do not fit, a global is not mutable, bytes do not exist, a memory does not grow, or the instance is
running. A refusal is neither a trap nor the end of a program.

* `Attempt`: what a host can try, with its answers, and `Attempt.Refused`: those that refuse;
* `Action.Reads`: an action that changes nothing, whatever it is told;
* `Use.Looks`, `Use.run_of_refused`: nor does a use that only looks, nor one that is refused, unless
  it is a call;
* `Moment.RunsNoCode`: an action that runs neither code of an instance nor a function of the host;
* `Moment.Occurs.type_results`, `Moment.Occurs.readable`: what an exported function returns has the
  types of its results, and can be read by the host;
* `Moment.refusals_change_nothing`: at every moment a refused attempt has done nothing at all.
-/

namespace Embedder

open Execution (Guest Stop Outcome)

variable {σ α β : Type}

/-! ### Attempts -/

/-- The error is neither a trap nor the end of a program. -/
def CallError.IsRefusal : CallError → Prop
  | .signatureMismatch _ _ | .reentrant => True
  | .trap _ | .exit _ => False

def InvokeError.IsRefusal : InvokeError → Prop
  | .exports _ => True
  | .call e => e.IsRefusal

namespace Use

/-- The answer refuses the use. -/
def Refused : (u : Use) → u.Answer → Prop
  | .call _ _ => fun r => ∃ e, r = .error e ∧ e.IsRefusal
  | .memorySize _ | .memoryByteSize _ | .memoryGrow _ _ | .viewLength _ => fun r => ∃ e, r = .error e
  | .memoryRead _ _ _ => fun r => ∃ e, r = .error e
  | .memoryWrite _ _ _ | .viewSet _ _ _ => fun r => ∃ e, r = .error e
  | .viewIsEmpty _ => fun r => ∃ e, r = .error e
  | .viewGet _ _ => fun r => ∃ e, r = .error e
  | .viewToList _ => fun r => ∃ e, r = .error e
  | .globalGet _ => fun r => ∃ e, r = .error e
  | .globalSet _ _ => fun r => ∃ e, r = .error e
  | .tableSize _ => fun r => r = none

/-- What is used is an export. -/
def IsOf (es : Exports) : Use → Prop
  | .call h _ => ∃ name, es.function name = .ok h
  | .memorySize h | .memoryByteSize h | .memoryGrow h _ | .memoryRead h _ _ | .memoryWrite h _ _ =>
    ∃ name, es.memory name = .ok h
  | .viewLength v | .viewIsEmpty v | .viewGet v _ | .viewSet v _ _ | .viewToList v =>
    ∃ name, es.memory name = .ok v.memory
  | .globalGet h | .globalSet h _ => ∃ name, es.global name = .ok h
  | .tableSize h => ∃ name, es.table name = .ok h

end Use

/-- What a host can try with the exports of an instance. -/
inductive Attempt where
  | get (name : String)
  | function (name : String)
  | memory (name : String)
  | global (name : String)
  | table (name : String)
  | invoke (name : String) (arguments : List Value)
  | use (u : Use)

namespace Attempt

abbrev Answer : Attempt → Type
  | .get _ => Except ExportError Export
  | .function _ => Except ExportError (Handle FunctionType)
  | .memory _ => Except ExportError (Handle MemoryType)
  | .global _ => Except ExportError (Handle GlobalType)
  | .table _ => Except ExportError (Handle TableType)
  | .invoke _ _ => Except InvokeError (List Value)
  | .use u => u.Answer

def action (es : Exports) : (a : Attempt) → Action σ a.Answer
  | .get name => .done (es.get name)
  | .function name => .done (es.function name)
  | .memory name => .done (es.memory name)
  | .global name => .done (es.global name)
  | .table name => .done (es.table name)
  | .invoke name arguments => es.invoke name arguments
  | .use u => u.action

/-- The answer refuses the attempt. -/
def Refused : (a : Attempt) → a.Answer → Prop
  | .get _ => fun r => ∃ e, r = .error e
  | .function _ => fun r => ∃ e, r = .error e
  | .memory _ => fun r => ∃ e, r = .error e
  | .global _ => fun r => ∃ e, r = .error e
  | .table _ => fun r => ∃ e, r = .error e
  | .invoke _ _ => fun r => ∃ e, r = .error e ∧ e.IsRefusal
  | .use u => u.Refused

/-- What is used is an export; any name can be tried. -/
def IsOf (es : Exports) : Attempt → Prop
  | .use u => u.IsOf es
  | _ => True

end Attempt

/-! ### Actions that change nothing -/

lemma Action.bind_done (a : Action σ α) : (a.bind fun r => .done r) = a := by
  induction a with
  | done | fail | panic => rfl
  | update change next ih => exact congrArg _ (funext ih)
  | memory r next ih => exact congrArg _ (funext ih)
  | operate owner o next ih => exact congrArg _ (funext ih)
  | call f arguments next ih => exact congrArg _ (funext ih)

/-- The action only asks for operations that leave an instance as it is. -/
inductive Action.Reads : Action σ α → Prop
  | done (r : α) : Reads (.done r)
  | operate {owner : Nat} {o : Operation} {next : Option o.Result → Action σ α}
      (ho : ∀ g, (o.perform g).2 = g) (h : ∀ x, Reads (next x)) : Reads (.operate owner o next)

lemma World.operate_of_perform_eq (w : World σ) (owner : Nat) {o : Operation}
    (h : ∀ g, w.guest? owner = some g → (o.perform g).2 = g) : (w.operate owner o).2 = w := by
  cases hg : w.guest? owner with
  | none => simp [operate, hg]
  | some g => rw [operate_of_guest? _ _ hg, h g hg, setGuest_self _ _ hg]

namespace Action

open World (run Calls)

variable {a : Action σ α} {calls : Calls σ}

lemma Reads.bind (h : a.Reads) {f : α → Action σ β} (hf : ∀ r, (f r).Reads) :
    (a.bind f).Reads := by
  induction h with
  | done r => exact hf r
  | operate ho _ ih => exact .operate ho ih

lemma Reads.map (h : a.Reads) (f : α → β) : (a.bind fun r => .done (f r)).Reads :=
  h.bind fun r => .done (f r)

lemma Reads.run_eq (h : a.Reads) (memory : Option Nat) (g : Guest) (w : World σ) :
    (run calls memory a g w).2 = (g, w) := by
  induction h generalizing w with
  | done r => rfl
  | operate ho _ ih => rw [run, ih, World.operate_of_perform_eq w _ fun g _ => ho g]

/-- An action that ends with a single operation has changed nothing if the operation has not. -/
lemma run_operate_of_last {owner : Nat} {o : Operation} {next : Option o.Result → Action σ α}
    (hnext : ∀ x, ∃ r, next x = .done r) {P : α → Prop}
    (ho : ∀ g r, next (some (o.perform g).1) = .done r → P r → (o.perform g).2 = g)
    {memory : Option Nat} {g g' : Guest} {w w' : World σ} {r : α}
    (h : run calls memory (.operate owner o next) g w = (.done r, g', w')) (hr : P r) :
    g' = g ∧ w' = w := by
  obtain ⟨r', hr'⟩ := hnext (w.operate owner o).1
  simp only [run, hr', Prod.mk.injEq, World.Ended.done.injEq] at h
  obtain ⟨rfl, rfl, rfl⟩ := h
  refine ⟨rfl, World.operate_of_perform_eq w owner fun g₀ hg₀ => ho g₀ r' ?_ hr⟩
  rwa [World.operate_of_guest? _ _ hg₀] at hr'

end Action

/-! ### Refused uses -/

namespace Use

open World (run Calls)

variable (h : Handle MemoryType)

lemma reads_byteSize : (h.byteSize : Action σ _).Reads :=
  Action.Reads.map (.operate (fun _ => rfl) fun x => by cases x <;> exact .done _) _

lemma reads_read (start length : Nat) : (h.read start length : Action σ _).Reads :=
  .operate (fun _ => rfl) fun x => by rcases x with _ | _ | _ <;> exact .done _

lemma reads_length (v : View) : (v.length : Action σ _).Reads := (reads_byteSize v.memory).map _

/-- The use only looks at what it uses. -/
def Looks : Use → Prop
  | .call _ _ | .memoryGrow _ _ | .memoryWrite _ _ _ | .viewSet _ _ _ | .globalSet _ _ => False
  | _ => True

lemma Looks.reads {u : Use} (hu : u.Looks) : (u.action : Action σ _).Reads := by
  cases u with
  | memorySize h => exact .operate (fun _ => rfl) fun x => by cases x <;> exact .done _
  | memoryByteSize h => exact reads_byteSize h
  | memoryRead h start length => exact reads_read h start length
  | viewLength v => exact reads_length v
  | viewIsEmpty v => exact (reads_length v).map _
  | viewGet v index =>
    simp only [action, View.get]
    cases v.address index with
    | error e => exact .done _
    | ok start => exact (reads_read v.memory start v.element.width).map _
  | viewToList v =>
    refine (reads_byteSize v.memory).bind fun size => ?_
    cases size with
    | error e => exact .done _
    | ok size =>
      simp only
      split
      · exact .done _
      · exact (reads_read v.memory v.offset (size - v.offset)).map _
  | globalGet h =>
    refine .operate (fun _ => rfl) fun x => ?_
    cases x with
    | none => exact .done _
    | some c =>
      simp only
      cases c.toValue? <;> exact .done _
  | tableSize h => exact .operate (fun _ => rfl) fun x => .done x
  | call | memoryGrow | memoryWrite | viewSet | globalSet => exact hu.elim

variable {h} {calls : Calls σ} {memory : Option Nat} {g g' : Guest} {w w' : World σ}

lemma run_of_looks {u : Use} {r : u.Answer}
    (hrun : run calls memory u.action g w = (.done r, g', w')) (hu : u.Looks) :
    g' = g ∧ w' = w := by
  have hsame : (run calls memory u.action g w).2 = (g, w) := hu.reads.run_eq memory g w
  rw [hrun] at hsame
  exact Prod.mk.inj hsame

/-- A memory that cannot grow does not grow by less. -/
lemma run_grow_of_error {delta : Nat} {r : Except MemoryError Nat}
    (hrun : run calls memory (h.grow delta) g w = (.done r, g', w'))
    (hr : ∃ e, r = .error e) : g' = g ∧ w' = w := by
  refine Action.run_operate_of_last (P := fun r => ∃ e, r = .error e) (fun x => ?_)
    (fun g r hnext hr => ?_) hrun hr
  · rcases x with _ | _ | _ <;> exact ⟨_, rfl⟩
  · obtain ⟨e, rfl⟩ := hr
    simp only [Operation.perform] at hnext ⊢
    split
    · rename_i hgrow
      simp [hgrow] at hnext
    · rfl

/-- Bytes that do not exist are not written, nor those before them. -/
lemma run_write_of_error {start : Nat} {bytes : List UInt8} {r : Except MemoryError Unit}
    (hrun : run calls memory (h.write start bytes) g w = (.done r, g', w'))
    (hr : ∃ e, r = .error e) : g' = g ∧ w' = w := by
  refine Action.run_operate_of_last (P := fun r => ∃ e, r = .error e) (fun x => ?_)
    (fun g r hnext hr => ?_) hrun hr
  · rcases x with _ | _ | _ <;> exact ⟨_, rfl⟩
  · by_cases hin : Execution.Machine.inMemory g h.address.index start bytes.length = true
    · obtain ⟨e, rfl⟩ := hr
      simp [Operation.perform, hin] at hnext
    · simp [Operation.perform, hin]

lemma run_set_of_error {h : Handle GlobalType} {v : Value} {r : Except GlobalError Unit}
    (hrun : run calls memory (h.set v) g w = (.done r, g', w')) (hr : ∃ e, r = .error e) :
    g' = g ∧ w' = w := by
  unfold Handle.set at hrun
  split at hrun
  · split at hrun
    · refine Action.run_operate_of_last (P := fun r => ∃ e, r = .error e) (fun x => ?_)
        (fun g r hnext hr => ?_) hrun hr
      · cases x <;> exact ⟨_, rfl⟩
      · obtain ⟨e, rfl⟩ := hr
        cases hnext
    · cases hrun
      exact ⟨rfl, rfl⟩
  · cases hrun
    exact ⟨rfl, rfl⟩

/-- **A use that is refused has changed nothing.** -/
theorem run_of_refused {u : Use} {x : Space × Address} (hu : u.entity? = some x) {r : u.Answer}
    (hrun : run calls memory u.action g w = (.done r, g', w')) (hr : u.Refused r) :
    g' = g ∧ w' = w := by
  cases u with
  | call h arguments => cases hu
  | memoryGrow h delta => exact run_grow_of_error hrun hr
  | memoryWrite h start bytes => exact run_write_of_error hrun hr
  | globalSet h v => exact run_set_of_error hrun hr
  | viewSet v index n =>
    simp only [action, View.set] at hrun
    cases ha : v.address index with
    | error e =>
      rw [ha] at hrun
      cases hrun
      exact ⟨rfl, rfl⟩
    | ok start =>
      rw [ha] at hrun
      exact run_write_of_error hrun hr
  | _ => exact run_of_looks hrun trivial

end Use

/-! ### Calls -/

lemma World.callWithin_busy {d : Nat} {f : Address} {arguments : List Value} {w w' : World σ}
    (h : callWithin d f arguments w = (.busy, w')) : w' = w := by
  cases d with
  | zero => exact (Prod.mk.inj h).2.symm
  | succ d =>
    unfold callWithin at h
    split at h
    · exact (Prod.mk.inj h).2.symm
    · exfalso
      have hbusy := (Prod.mk.inj h).1
      unfold answerOf at hbusy
      split at hbusy <;> cases hbusy

lemma World.eq_ok_of_answerOf {r : Except Stop (List Cell)} {cells : List Cell}
    (h : answerOf r = .ended (.ok cells)) : r = .ok cells := by
  unfold answerOf at h
  split at h
  · cases h
  · exact CallAnswer.ended.inj h

/-- A call that was made is refused only if the host cannot read what it returned. -/
lemma CallError.not_refused_of_readable {t : FunctionType} {a : Except Stop (List Cell)}
    (ha : ∀ cells, a = .ok cells → ∃ values, cells.mapM Cell.toValue? = some values) {e : CallError}
    (h : results t (some a) = .error e) : ¬ e.IsRefusal := by
  cases a with
  | error s =>
    cases h
    cases s <;> exact id
  | ok cells =>
    obtain ⟨values, hvalues⟩ := ha cells rfl
    simp [results, hvalues] at h

namespace Moment

open World (callWithin)

section Code

variable {t t' : Moment σ α} {s : Space} {x : Address}

/-- On its way the action calls no instance at rest. So neither code of an instance nor a function of
the host begins to run. -/
def RunsNoCode (t : Moment σ α) : Prop :=
  ∀ t', Relation.ReflTransGen Step t t' → ∀ f arguments next,
    t'.action = .call f arguments next → t'.world.guest? f.owner = none

lemma RunsNoCode.not_enters (h : t.RunsNoCode) (ht : Relation.ReflTransGen Step t t')
    {u : Moment σ (List Value)} : ¬ t'.Enters u := by
  rintro ⟨hs, hg, -, -⟩
  have hnone := h _ ht _ _ _ rfl
  simp [World.guest?, hs, hg] at hnone

lemma runsNoCode_done (t : Moment σ β) (r : α) : (t.turn (.done r)).RunsNoCode := by
  intro t' ht f arguments next hcall
  rcases ht.cases_head with rfl | ⟨_, hs, -⟩
  · cases hcall
  · cases hs

/-- An action that only operates on an entity does so after every step. -/
lemma Step.on (h : Step t t') (ht : t.action.On s x) : t'.action.On s x := by
  cases h with
  | operate =>
    cases ht with
    | operate _ _ hnext => exact hnext _
  | _ => cases ht

lemma runsNoCode_of_on (ht : t.action.On s x) : t.RunsNoCode := by
  have hon : ∀ t', Relation.ReflTransGen Step t t' → t'.action.On s x := by
    intro t' hsteps
    induction hsteps with
    | refl => exact ht
    | tail _ hs ih => exact hs.on ih
  intro t' hsteps f arguments next hcall
  have hcall' := hon t' hsteps
  rw [hcall] at hcall'
  cases hcall'

end Code

/-- A call that ends with an answer that it has only without results was not made. -/
lemma Sound.ends_of_not_called {t : Moment σ α} (ht : t.Sound) {f : Address}
    {arguments : List Value} {φ : Option (Except Stop (List Cell)) → β} {r : β} {g : Guest}
    {v : World σ}
    (hends : (t.turn (.call f arguments fun a => .done (φ a))).ends = (.done r, g, v))
    (hr : ∀ a v', callWithin t.depth f arguments t.world = (.ended a, v') → φ (some a) ≠ r) :
    g = t.guest ∧ v = t.world ∧ (t.turn (.call f arguments fun a => .done (φ a))).RunsNoCode := by
  have hanswer := World.callWithin_ne_busy (f := f) arguments ht.resting_le
  simp only [ends, turn, World.run] at hends
  cases hcall : callWithin t.depth f arguments t.world with
  | mk answer v' =>
    rw [hcall] at hends hanswer
    cases answer with
    | panicked => cases hends
    | ended a =>
      simp only [Prod.mk.injEq, World.Ended.done.injEq] at hends
      exact absurd hends.1 (hr a v' hcall)
    | busy =>
      obtain rfl := World.callWithin_busy hcall
      simp only [Prod.mk.injEq] at hends
      have hnone : t.world.guest? f.owner = none := by
        by_contra hne
        exact hanswer hne rfl
      refine ⟨hends.2.1.symm, hends.2.2.symm, fun t' hsteps f' arguments' next hf => ?_⟩
      rcases hsteps.cases_head with rfl | ⟨t₁, hs, hrest⟩
      · cases hf
        exact hnone
      · obtain ⟨r', hr'⟩ : ∃ r', t₁.action = .done r' := by
          cases hs <;> exact ⟨_, rfl⟩
        rcases hrest.cases_head with rfl | ⟨t₂, hs', -⟩
        · rw [hr'] at hf
          cases hf
        · cases hs' <;> cases hr'

/-! ### Refused attempts -/

section Attempts

variable {w₀ w₁ w : World σ} {m : Module} {o : ImportObject σ} {i : Instance} {t : Moment σ α}

/-- An instance keeps the program of its module. -/
lemma Occurs.program_eq (hi : w₀.instantiate m o = (.made i, w₁)) (hw : World.Leads w₁ w)
    (ht : t.Occurs w) {s : Slot σ} (hs : t.world.slots[i.number]? = some s) :
    s.program = m.program := by
  obtain ⟨ps, atRest, -, ho⟩ := ht.outline_of_made hi hw
  rw [World.outline_getElem?, hs, Option.map_some] at ho
  exact congrArg Outline.program (Option.some.inj ho)

/-- **What an exported function returns has the types that the module declares.** -/
theorem Occurs.type_results (h₀ : w₀.Reached) (hi : w₀.instantiate m o = (.made i, w₁))
    (hw : World.Leads w₁ w) (ht : t.Occurs w) {name : String} {h : Handle FunctionType}
    (hx : i.exports.function name = .ok h) {arguments : List Value} {cells : List Cell} {v : World σ}
    (hcall : callWithin t.depth h.address arguments t.world = (.ended (.ok cells), v)) :
    cells.map Cell.type = h.type.results := by
  obtain ⟨ps, -, -, -, hexports, -⟩ := World.outline_instantiate_made hi
  obtain ⟨hown, htype⟩ := m.function_eq_ok hexports hx
  obtain ⟨contexts, htyped⟩ := ht.exists_typed ((h₀.made hi).leads hw)
  cases hg : t.world.guest? h.address.owner with
  | none =>
    rw [World.callWithin_none _ arguments hg] at hcall
    cases hcall
  | some g =>
    obtain ⟨s, hs, hsg⟩ := Option.bind_eq_some_iff.1 hg
    have hprogram := ht.program_eq hi hw (hown ▸ hs)
    have hslot := htyped.outline _ s.outline (by rw [World.outline_getElem?, hs]; rfl)
    cases hd : t.depth with
    | zero =>
      rw [hd] at hcall
      cases hcall
    | succ d =>
      rw [hd, World.callWithin_some d arguments hs hsg] at hcall
      have hresults := (World.enter_typed (World.callWithin_typed d) arguments hslot.program
        (htyped.guest _ g hg) (htyped.setGuest_none h.address.owner)).2.2 cells
      obtain ⟨type, hfunction, htypes⟩ := hresults (World.eq_ok_of_answerOf (Prod.mk.inj hcall).1)
      have hfunction' : s.program.functions[h.address.index]? = some type := hfunction
      rw [hprogram, m.functions_program, htype, Option.some.injEq] at hfunction'
      rw [htypes, hfunction']

/-- **What an exported function returns to the host can be read by it**, since a function that
returns references is not called. -/
theorem Occurs.readable (h₀ : w₀.Reached) (hi : w₀.instantiate m o = (.made i, w₁))
    (hw : World.Leads w₁ w) (ht : t.Occurs w) {name : String} {h : Handle FunctionType}
    (hx : i.exports.function name = .ok h) {arguments : List Value}
    (hf : h.type.fault? arguments = none) {cells : List Cell} {v : World σ}
    (hcall : callWithin t.depth h.address arguments t.world = (.ended (.ok cells), v)) :
    ∃ values, cells.mapM Cell.toValue? = some values := by
  refine Option.ne_none_iff_exists'.1 fun hnone => ?_
  obtain ⟨u, hu, href⟩ := (Cell.mapM_toValue?_eq_none_iff cells).1 hnone
  rw [ht.type_results h₀ hi hw hx hcall] at hu
  rw [((h.type.fault?_eq_none_iff arguments).1 hf).1 u hu] at href
  cases href

/-- A call of an exported function that is refused was not made. -/
lemma Occurs.call_refused (h₀ : w₀.Reached) (hi : w₀.instantiate m o = (.made i, w₁))
    (hw : World.Leads w₁ w) (ht : t.Occurs w) {name : String} {h : Handle FunctionType}
    (hx : i.exports.function name = .ok h) {arguments : List Value}
    (φ : Except CallError (List Value) → β) {r : β} {g : Guest} {v : World σ}
    (hends : (t.turn ((h.call arguments).bind fun a => .done (φ a))).ends = (.done r, g, v))
    (hr : ∀ a, φ a = r → ∃ e, a = .error e ∧ e.IsRefusal) :
    g = t.guest ∧ v = t.world ∧
      (t.turn ((h.call arguments).bind fun a => .done (φ a))).RunsNoCode := by
  unfold Handle.call at hends ⊢
  cases hf : h.type.fault? arguments with
  | some f =>
    rw [hf] at hends
    simp only [Action.bind, ends, turn, World.run, Prod.mk.injEq] at hends
    exact ⟨hends.2.1.symm, hends.2.2.symm, t.runsNoCode_done _⟩
  | none =>
    rw [hf] at hends
    refine (ht.sound ((h₀.made hi).leads hw).atRest).ends_of_not_called hends
      fun a v' hcall hφ => ?_
    obtain ⟨e, he, hrefusal⟩ := hr _ hφ
    refine CallError.not_refused_of_readable (fun cells ha => ?_) he hrefusal
    subst ha
    exact ht.readable h₀ hi hw hx hf hcall

/-- Bytes that begin within a memory and end outside of it are not written, not even the first. -/
lemma ends_write_of_lt {h : Handle MemoryType} {g : Guest} {mem : Memory}
    (hg : t.world.guest? h.address.owner = some g) (hm : g.memories[h.address.index]? = some mem)
    {start : Nat} {bytes : List UInt8} (hlt : mem.byteSize < start + bytes.length) :
    (t.turn (h.write start bytes)).ends =
      (.done (.error (.outOfBounds start bytes.length)), t.guest, t.world) := by
  have hin : Execution.Machine.inMemory g h.address.index start bytes.length = false := by
    rw [Execution.Machine.inMemory, hm, Option.any_some]
    exact decide_eq_false (Nat.not_le.2 hlt)
  simp only [ends, turn, Handle.write, World.run, World.operate_of_guest? _ _ hg,
    Operation.perform, hin, Bool.false_eq_true, if_false, World.setGuest_self _ _ hg]

/-- **Refused attempts have done nothing.** This holds at every moment after the instance was made.
An attempt that is refused leaves the whole world and the instance that makes it as they are. It has
run no code. Trying again is refused in the same way. In particular, bytes or an element of a view
that begin within a memory and end outside of it are refused as a whole. -/
theorem refusals_change_nothing (h₀ : w₀.Reached) (hi : w₀.instantiate m o = (.made i, w₁))
    (hw : World.Leads w₁ w) (ht : t.Occurs w) :
    (∀ (a : Attempt), a.IsOf i.exports → ∀ r g v,
      (t.turn (a.action i.exports)).ends = (.done r, g, v) → a.Refused r →
        g = t.guest ∧ v = t.world ∧ (t.turn (a.action i.exports)).RunsNoCode ∧
        (t.turn (a.action i.exports >>= fun _ => a.action i.exports)).ends =
          (.done r, t.guest, t.world)) ∧
    ∀ name h mem, i.exports.memory name = .ok h → i.number ∉ t.running →
      t.memory? h.address = some mem →
      (∀ start bytes, start < mem.byteSize → mem.byteSize < start + bytes.length →
        (t.turn (h.write start bytes)).ends =
          (.done (.error (.outOfBounds start bytes.length)), t.guest, t.world)) ∧
      ∀ (v : View) index n, v.memory = h →
        index * v.element.width + v.offset < mem.byteSize →
        mem.byteSize < index * v.element.width + v.offset + v.element.width →
        (t.turn (v.set index n)).ends =
          (.done (.error (.outOfBounds (index * v.element.width + v.offset) v.element.width)),
            t.guest, t.world) := by
  constructor
  · intro a ha r g v hends hr
    have hsame : g = t.guest ∧ v = t.world ∧ (t.turn (a.action i.exports)).RunsNoCode := by
      cases a with
      | get | function | memory | global | table =>
        cases hends
        exact ⟨rfl, rfl, t.runsNoCode_done _⟩
      | invoke name arguments =>
        simp only [Attempt.action, Exports.invoke] at hends ⊢
        cases hx : i.exports.function name with
        | error e =>
          rw [hx] at hends
          cases hends
          exact ⟨rfl, rfl, t.runsNoCode_done _⟩
        | ok h =>
          rw [hx] at hends
          refine ht.call_refused h₀ hi hw hx (Except.mapError InvokeError.call) hends ?_
          rintro (e | values) rfl
          · obtain ⟨_, he, hrefusal⟩ := hr
            cases he
            exact ⟨e, rfl, hrefusal⟩
          · obtain ⟨_, he, -⟩ := hr
            cases he
      | use u =>
        cases hu : u.entity? with
        | some x =>
          obtain ⟨hg, hv⟩ := Use.run_of_refused hu hends hr
          exact ⟨hg, hv, runsNoCode_of_on (Use.on hu)⟩
        | none =>
          cases u with
          | call h arguments =>
            obtain ⟨name, hx⟩ := ha
            have hbind : ((h.call (σ := σ) arguments).bind fun a => .done a) = h.call arguments :=
              Action.bind_done _
            change (t.turn (h.call arguments)).ends = _ at hends
            change _ ∧ _ ∧ (t.turn (h.call arguments)).RunsNoCode
            rw [← hbind] at hends ⊢
            exact ht.call_refused h₀ hi hw hx (fun a => a) hends fun a ha => ha ▸ hr
          | _ => cases hu
    obtain ⟨rfl, rfl, hcode⟩ := hsame
    refine ⟨rfl, rfl, hcode, ?_⟩
    unfold ends turn at hends ⊢
    rw [World.run_bind, hends]
    exact hends
  · intro name h mem hx hrun hmem
    obtain ⟨g, mem', hg, hmem', hseen, hwithin⟩ := ht.exists_memory h₀ hi hw hx hrun
    obtain rfl := Option.some.inj (hmem.symm.trans hseen)
    refine ⟨fun start bytes _ hlt => ends_write_of_lt hg hmem' hlt, fun v index n hv hin hlt => ?_⟩
    subst hv
    have hbound : mem.byteSize ≤ maxPages * pageSize := Nat.mul_le_mul_right _ hwithin.allows.2
    have hlimit : maxPages * pageSize ≤ View.addressLimit := by decide
    have haddress : v.address index = .ok (index * v.element.width + v.offset) :=
      if_pos (Nat.lt_of_lt_of_le hin (Nat.le_trans hbound hlimit))
    have hlength := v.element.length_encode n
    rw [View.set, haddress, ← hlength]
    exact ends_write_of_lt hg hmem' (hlength ▸ hlt)

end Attempts

/-- Two bytes of which the second is behind the memory are not written, and a memory of three pages
does not grow to five. -/
theorem refusals_at_the_last_byte :
    ∃ (h : Handle MemoryType) (t : Moment Unit Unit), t.Occurs .threePages ∧
      (t.turn (h.write 131071 [1, 2])).ends =
        (.done (.error (.outOfBounds 131071 2)), t.guest, t.world) ∧
      (t.turn (h.grow 3 >>= fun _ => h.grow 3)).ends =
        (.done (.error (.growth 3)), t.guest, t.world) := by
  have hx : Exports.memory ⟨[⟨"m", .memory ⟨⟨0, 0⟩, ⟨1, some 5, false, false⟩⟩⟩]⟩ "m" =
    .ok ⟨⟨0, 0⟩, ⟨1, some 5, false, false⟩⟩ := rfl
  let t : Moment Unit Unit :=
    ⟨[], World.threePages.resting, none, .done (), ⟨#[], #[], #[], #[], #[]⟩, .threePages⟩
  have ht : t.Occurs .threePages := .perform (.done ())
  obtain ⟨hattempts, hwrites⟩ :=
    refusals_change_nothing ⟨(), _, .refl⟩ World.instantiate_threePages .refl ht
  obtain ⟨g, hg, hm⟩ := Option.bind_eq_some_iff.1 World.memory?_threePages
  obtain ⟨hwrite, -⟩ := hwrites "m" _ _ hx (by simp [t]) (memory?_of_world World.memory?_threePages)
  have hgrow := (ends_grow (t := t) (h := ⟨⟨0, 0⟩, ⟨1, some 5, false, false⟩⟩) hg hm 3).2 (by decide)
  obtain ⟨-, -, -, hagain⟩ :=
    hattempts (.use (.memoryGrow _ 3)) ⟨"m", hx⟩ _ _ _ hgrow ⟨_, rfl⟩
  exact ⟨_, _, ht, hwrite 131071 [1, 2] (by decide) (by decide), hagain⟩

end Moment

end Embedder
