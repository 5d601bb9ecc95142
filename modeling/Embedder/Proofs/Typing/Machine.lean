import Embedder.Proofs.Typing.Code
import Embedder.Proofs.Typing.Instructions

/-!
# Checked code keeps types

A machine that runs checked code keeps the types that the checker has seen: those of its operands and
locals, of what the instance owns, of the arguments that it hands to the host and of the results that
it ends with.

* `Program.Checked`: the functions of a program have the types of a context, and their code is
  checked;
* `Machine.Typed`: a machine that goes on well once values of given types are pushed;
* `Machine.step_typed`: what one step preserves.
-/

namespace Embedder.Execution

open Validation (Context Stack)

/-! ### Programs -/

/-- The functions of the program are those of the context, and their code is checked in it. -/
structure Program.Checked (c : Context) (p : Program) : Prop where
  types : ∀ n : Nat, p.types[n]? = c.types[n]?
  functions : ∀ n : Nat, p.functions[n]? = c.functions[n]?
  bodies : ∀ (f : Nat) (t : FunctionType) (b : FunctionCode), c.functions[f]? = some t →
    ¬ f < p.imported → p.bodies[f - p.imported]? = some b →
    c.body t (t.params ++ b.locals).toArray b.code = true

/-! ### Machines -/

/-- The context of code with locals, labels and results of its function. -/
def frameContext (c : Context) (locals : Array ValueType) (labels : List (List ValueType))
    (results : List ValueType) : Context :=
  { c with locals, labels, results }

lemma inside_frameContext (c : Context) (locals : Array ValueType) (labels : List (List ValueType))
    (results carried : List ValueType) :
    (frameContext c locals labels results).inside carried =
      frameContext c locals (carried :: labels) results := rfl

/-- What the open blocks go on with is checked: the labels carry the given types, and the code of the
innermost block ends with values of the types `inner`. -/
inductive LabelsChecked (c : Context) (locals : Array ValueType) (results : List ValueType) :
    List Label → List (List ValueType) → List ValueType → Prop
  | function : LabelsChecked c locals results [] [results] results
  | block {l : Label} {ls : List Label} {carried inner outer : List ValueType}
      {labels : List (List ValueType)} (harity : l.arity = carried.length)
      (htarget : (frameContext c locals labels results).Checks
        (.known (carried.reverse ++ l.outer.map Cell.type)) l.target outer)
      (hrest : (frameContext c locals labels results).Checks
        (.known (inner.reverse ++ l.outer.map Cell.type)) l.rest outer)
      (h : LabelsChecked c locals results ls labels outer) :
      LabelsChecked c locals results (l :: ls) (carried :: labels) inner

/-- The activation goes on well once values of the types `awaited` are pushed, and its function gives
values of the types `results`. -/
structure Activation.Typed (c : Context) (a : Activation) (awaited results : List ValueType) :
    Prop where
  arity : a.arity = results.length
  code : ∃ labels inner, LabelsChecked c (a.locals.map Cell.type) results a.labels labels inner ∧
    (frameContext c (a.locals.map Cell.type) labels results).Checks
      (.known (awaited.reverse ++ a.stack.map Cell.type)) a.code inner

/-- The callers wait for values of the types `awaited`, and the outermost gives the types `results`. -/
inductive CallersTyped (c : Context) : List Activation → List ValueType → List ValueType → Prop
  | outermost (results : List ValueType) : CallersTyped c [] results results
  | caller {a : Activation} {as : List Activation} {awaited given results : List ValueType}
      (ha : a.Typed c awaited given) (h : CallersTyped c as given results) :
      CallersTyped c (a :: as) awaited results

/-- The machine goes on well once values of the types `awaited` are pushed, and its call ends with
values of the types `results`. -/
def Machine.Typed (c : Context) (m : Machine) (awaited results : List ValueType) : Prop :=
  ∃ given, m.current.Typed c awaited given ∧ CallersTyped c m.callers given results

/-- Everything that a step leads to has the types that belong there. -/
def Step.Typed (c : Context) (p : Program) (results : List ValueType) : Step → Prop
  | .next m g => m.Typed c [] results ∧ g.Typed c
  | .host k arguments m g => ∃ t, c.functions[k]? = some t ∧ k < p.imported ∧
      arguments.map Cell.type = t.params ∧ m.Typed c t.results results ∧ g.Typed c
  | .finished cells g => cells.map Cell.type = results ∧ g.Typed c
  | .fault _ g => g.Typed c

variable {c : Context} {p : Program} {m : Machine} {g : Guest} {results awaited : List ValueType}

lemma Activation.Typed.pushAll {a : Activation} (h : a.Typed c awaited results) {cells : List Cell}
    (hc : cells.map Cell.type = awaited) : (a.pushAll cells).Typed c [] results := by
  refine ⟨h.arity, ?_⟩
  have hcode := h.code
  rw [← hc] at hcode
  simpa [Activation.pushAll] using hcode

lemma Machine.Typed.resume (h : m.Typed c awaited results) {cells : List Cell}
    (hc : cells.map Cell.type = awaited) : (m.resume cells).Typed c [] results := by
  obtain ⟨given, ha, hcallers⟩ := h
  exact ⟨given, ha.pushAll hc, hcallers⟩

/-- The operands on top are taken from a stack whose types begin with theirs. -/
lemma map_take_eq {stack : List Cell} {ts rest : List ValueType}
    (h : stack.map Cell.type = ts.reverse ++ rest) :
    (stack.take ts.length).map Cell.type = ts.reverse ∧
      (stack.drop ts.length).map Cell.type = rest := by
  rw [List.map_take, List.map_drop, h]
  exact ⟨List.take_left' (by simp), List.drop_left' (by simp)⟩

/-! ### Leaving and branching -/

/-- Leaving a function with its results on top of the stack. -/
lemma Machine.leave_typed {given rest : List ValueType} (harity : m.current.arity = given.length)
    (hstack : m.current.stack.map Cell.type = given.reverse ++ rest)
    (hcallers : CallersTyped c m.callers given results) (hg : g.Typed c) :
    (m.leave g).Typed c p results := by
  have htaken : ((m.current.stack.take m.current.arity).reverse).map Cell.type = given := by
    rw [List.map_reverse, harity, (map_take_eq hstack).1, List.reverse_reverse]
  obtain ⟨current, callers, depth⟩ := m
  cases hcallers with
  | outermost => exact ⟨htaken, hg⟩
  | caller ha hcallers => exact ⟨⟨_, ha.pushAll htaken, hcallers⟩, hg⟩

/-- A branch finds its label, or the function itself behind the outermost block. -/
lemma LabelsChecked.drop {locals : Array ValueType} {given : List ValueType} {ls : List Label}
    {labels : List (List ValueType)} {inner carried : List ValueType}
    (h : LabelsChecked c locals given ls labels inner) {n : Nat} (hn : labels[n]? = some carried) :
    match ls.drop n with
    | l :: ls' => ∃ labels' outer, l.arity = carried.length ∧
        LabelsChecked c locals given ls' labels' outer ∧
        (frameContext c locals labels' given).Checks
          (.known (carried.reverse ++ l.outer.map Cell.type)) l.target outer
    | [] => carried = given := by
  induction h generalizing n with
  | function =>
    cases n with
    | zero => exact (Option.some.inj hn).symm
    | succ n => cases hn
  | @block l ls carried' inner outer labels harity htarget hrest h ih =>
    cases n with
    | zero =>
      cases hn
      exact ⟨labels, outer, harity, h, htarget⟩
    | succ n => exact ih hn

namespace Machine

/-- The context of the code in front of a machine. -/
def context (m : Machine) (c : Context) (labels : List (List ValueType)) (given : List ValueType) :
    Context :=
  frameContext c (m.current.locals.map Cell.type) labels given

/-- What stays while a machine runs the code of one block: the labels that carry the types `labels`,
the types `inner` with which the block ends, and those with which the function and the whole call
end. -/
structure Framed (c : Context) (m : Machine) (labels : List (List ValueType))
    (inner given results : List ValueType) : Prop where
  arity : m.current.arity = given.length
  labels : LabelsChecked c (m.current.locals.map Cell.type) given m.current.labels labels inner
  callers : CallersTyped c m.callers given results

variable {labels : List (List ValueType)} {inner given carried rest : List ValueType}

/-- A machine is typed if the code in front of it is checked. -/
lemma Framed.typed (hm : m.Framed c labels inner given results)
    (hcode : (m.context c labels given).Checks
      (.known (awaited.reverse ++ m.current.stack.map Cell.type)) m.current.code inner) :
    m.Typed c awaited results :=
  ⟨given, ⟨hm.arity, labels, inner, hm.labels, hcode⟩, hm.callers⟩

lemma Framed.setStack (hm : m.Framed c labels inner given results) (stack : List Cell) :
    Framed c { m with current := { m.current with stack } } labels inner given results :=
  ⟨hm.arity, hm.labels, hm.callers⟩

lemma branch_typed (hm : m.Framed c labels inner given results) {n : Nat}
    (hn : labels[n]? = some carried)
    (hstack : m.current.stack.map Cell.type = carried.reverse ++ rest) (hg : g.Typed c) :
    (m.branch g n).Typed c p results := by
  have hdrop := hm.labels.drop hn
  unfold branch
  cases hls : m.current.labels.drop n with
  | nil =>
    rw [hls] at hdrop
    subst hdrop
    exact leave_typed hm.arity hstack hm.callers hg
  | cons l ls =>
    rw [hls] at hdrop
    obtain ⟨labels', outer, hl, hlabels', htarget⟩ := hdrop
    refine ⟨⟨given, ⟨hm.arity, labels', outer, hlabels', ?_⟩, hm.callers⟩, hg⟩
    rw [hl]
    simpa [(map_take_eq hstack).1] using htarget

/-! ### Blocks -/

lemma blockArity_eq (hp : p.Checked c) {type : BlockType} {t : FunctionType}
    (ht : c.blockType type = some t) :
    blockArity p type = some (t.params.length, t.results.length) := by
  cases type with
  | empty =>
    cases ht
    rfl
  | value u =>
    cases ht
    rfl
  | index n =>
    rw [blockArity, hp.types n]
    exact congrArg (Option.map _) ht

lemma enter_typed (hp : p.Checked c) (hm : m.Framed c labels inner given results)
    {type : BlockType} {body rest : Code}
    (hcode : (m.context c labels given).Checks
      (.known (m.current.stack.map Cell.type)) (.block type body rest) inner) (hg : g.Typed c) :
    (enter p m g type body rest).Typed c p results := by
  obtain ⟨t, outer, ht, hstack, hbody, hrest⟩ := Context.checks_block_iff.1 hcode
  obtain ⟨htake, hdrop⟩ := map_take_eq hstack
  simp only [enter, blockArity_eq hp ht]
  rw [← hdrop] at hrest
  refine ⟨⟨given, ⟨hm.arity, t.results :: labels, t.results, ?_, ?_⟩, hm.callers⟩, hg⟩
  · exact .block rfl hrest hrest hm.labels
  · simpa [htake, context, inside_frameContext] using hbody

/-- A loop starts again with the code that it was entered from. -/
lemma enterLoop_typed (hp : p.Checked c) (hm : m.Framed c labels inner given results)
    {type : BlockType} {body rest : Code}
    (hcode : (m.context c labels given).Checks
      (.known (m.current.stack.map Cell.type)) (.loop type body rest) inner) (hg : g.Typed c) :
    (enterLoop p m g type body rest).Typed c p results := by
  obtain ⟨t, outer, ht, hstack, hbody, hrest⟩ := Context.checks_loop_iff.1 hcode
  obtain ⟨htake, hdrop⟩ := map_take_eq hstack
  simp only [enterLoop, blockArity_eq hp ht]
  rw [hstack, ← hdrop] at hcode
  rw [← hdrop] at hrest
  refine ⟨⟨given, ⟨hm.arity, t.params :: labels, t.results, ?_, ?_⟩, hm.callers⟩, hg⟩
  · exact .block rfl hcode hrest hm.labels
  · simpa [htake, context, inside_frameContext] using hbody

lemma close_typed (hm : m.Framed c labels inner given results)
    (hstack : m.current.stack.map Cell.type = inner.reverse) (hg : g.Typed c) :
    (m.close g).Typed c p results := by
  have hlabels := hm.labels
  unfold close
  cases hls : m.current.labels with
  | nil =>
    rw [hls] at hlabels
    cases hlabels
    exact leave_typed hm.arity (hstack.trans (List.append_nil _).symm) hm.callers hg
  | cons l ls =>
    rw [hls] at hlabels
    cases hlabels with
    | block harity htarget hrest h =>
      refine ⟨⟨given, ⟨hm.arity, _, _, h, ?_⟩, hm.callers⟩, hg⟩
      simpa [hstack] using hrest

/-! ### Calls -/

/-- The body of a function starts with its arguments and with zeros as its locals. -/
lemma activation_typed (hp : p.Checked c) {f : Nat} {t : FunctionType} {b : FunctionCode}
    (ht : c.functions[f]? = some t) (hf : ¬ f < p.imported)
    (hb : p.bodies[f - p.imported]? = some b) {arguments : List Cell}
    (harguments : arguments.map Cell.type = t.params) :
    (activation t b arguments).Typed c [] t.results := by
  have hbody := hp.bodies f t b ht hf hb
  unfold Context.body at hbody
  obtain ⟨s, hs, hends⟩ := (Option.any_eq_true _ _).1 hbody
  refine ⟨rfl, [t.results], t.results, .function, s, ?_, hends⟩
  have hlocals : (arguments ++ b.locals.map Cell.zero).toArray.map Cell.type =
      (t.params ++ b.locals).toArray := by
    simp [harguments, Function.comp_def, Cell.type_zero]
  simpa [activation, frameContext, hlocals, Stack.known] using hs

lemma call_typed (hp : p.Checked c) (hm : m.Framed c labels inner given results) {f : Nat}
    {t : FunctionType} (ht : c.functions[f]? = some t) {outer : List ValueType}
    (hstack : m.current.stack.map Cell.type = t.params.reverse ++ outer)
    (hcode : (m.context c labels given).Checks
      (.known (t.results.reverse ++ outer)) m.current.code inner) (hg : g.Typed c) :
    (m.call p g f).Typed c p results := by
  obtain ⟨htake, hdrop⟩ := map_take_eq hstack
  have harguments : ((m.current.stack.take t.params.length).reverse).map Cell.type = t.params := by
    rw [List.map_reverse, htake, List.reverse_reverse]
  have hwaiting : Activation.Typed c
      { m.current with stack := m.current.stack.drop t.params.length } t.results given :=
    ⟨hm.arity, labels, inner, hm.labels, by simpa [hdrop, context] using hcode⟩
  simp only [call, hp.functions f, ht]
  split
  · rename_i hf
    exact ⟨t, ht, hf, harguments, ⟨given, hwaiting, hm.callers⟩, hg⟩
  · rename_i hf
    split
    · exact hg
    · rename_i b hb
      split
      · exact hg
      · exact ⟨⟨t.results, activation_typed hp ht hf hb harguments, .caller hwaiting hm.callers⟩, hg⟩

lemma tailCall_typed (hp : p.Checked c) (hm : m.Framed c labels inner given results) {f : Nat}
    {t : FunctionType} (ht : c.functions[f]? = some t) (hresults : t.results = given)
    {outer : List ValueType} (hstack : m.current.stack.map Cell.type = t.params.reverse ++ outer)
    (hg : g.Typed c) : (m.tailCall p g f).Typed c p results := by
  have harguments : ((m.current.stack.take t.params.length).reverse).map Cell.type = t.params := by
    rw [List.map_reverse, (map_take_eq hstack).1, List.reverse_reverse]
  subst hresults
  simp only [tailCall, hp.functions f, ht]
  split
  · rename_i hf
    refine ⟨t, ht, hf, harguments, ⟨t.results, ⟨hm.arity, [t.results], t.results, .function, ?_⟩,
      hm.callers⟩, hg⟩
    simpa using Context.checks_done_iff.2 rfl
  · rename_i hf
    split
    · exact hg
    · rename_i b hb
      exact ⟨⟨t.results, activation_typed hp ht hf hb harguments, hm.callers⟩, hg⟩

/-- A call through a table means a function of the type that is called. -/
lemma type_of_indirect (hp : p.Checked c) {table type i f : Nat} {t : FunctionType}
    (h : indirect p g table type i = .ok f) (ht : c.indirectType table type = some t) :
    c.functions[f]? = some t := by
  unfold Context.indirectType at ht
  obtain ⟨u, -, ht⟩ := Option.bind_eq_some_iff.1 ht
  unfold indirect at h
  simp only [hp.functions, hp.types] at h
  grind

/-! ### Single instructions -/

/-- Instructions that go somewhere else. -/
lemma onControl_typed (hp : p.Checked c) (hm : m.Framed c labels inner given results) {o : Op}
    {s : Stack} (hop : (m.context c labels given).op
      (.known (m.current.stack.map Cell.type)) o = some s)
    (hcode : (m.context c labels given).Checks s m.current.code inner)
    (hg : g.Typed c) : (onControl p m g o).Typed c p results := by
  unfold onControl
  split
  all_goals
    simp only [Context.op, Option.bind_eq_bind, Option.bind_eq_some_iff, Option.map_eq_some_iff,
      Stack.pop_known_iff, Stack.popAll_known_iff, Stack.step_known_iff] at hop
  -- unreachable
  · exact hg
  -- br
  · obtain ⟨ts, hl, s', ⟨rest, hstack, -⟩, -⟩ := hop
    exact branch_typed hm hl hstack hg
  -- br_if
  · rename_i l n stack hs
    obtain ⟨ts, hl, s', ⟨rest, hstack, rfl⟩, hstep⟩ := hop
    rw [hs] at hstack
    cases hstack
    obtain ⟨outer, hstack, rfl⟩ := Stack.step_known_iff.1 hstep
    rw [← hstack] at hcode
    simp only
    split
    · exact ⟨(hm.setStack stack).typed hcode, hg⟩
    · exact branch_typed (hm.setStack stack) hl hstack hg
  -- br_table
  · rename_i ls other i stack hs
    have htarget : ls.getD i.toNat other = other ∨ ls.getD i.toNat other ∈ ls := by
      rw [List.getD_eq_getElem?_getD]
      cases hi : ls[i.toNat]? with
      | none => exact .inl rfl
      | some l => exact .inr (List.mem_of_getElem? hi)
    obtain ⟨rest, ts, outer, hrest, hl, hstack⟩ := Context.branchTable_targets hop htarget
    rw [hs] at hrest
    cases hrest
    exact branch_typed (hm.setStack stack) hl hstack hg
  -- return
  · obtain ⟨s', ⟨rest, hstack, -⟩, -⟩ := hop
    exact leave_typed hm.arity hstack hm.callers hg
  -- call
  · obtain ⟨t, ht, rest, hstack, rfl⟩ := hop
    exact call_typed hp hm ht hstack hcode hg
  -- call_indirect
  · rename_i table type i stack hs
    obtain ⟨t, ht, s', ⟨rest, hstack, rfl⟩, hstep⟩ := hop
    rw [hs] at hstack
    cases hstack
    obtain ⟨outer, hstack, rfl⟩ := Stack.step_known_iff.1 hstep
    simp only
    split
    · rename_i f hf
      exact call_typed hp (hm.setStack stack) (type_of_indirect hp hf ht) hstack hcode hg
    · exact hg
  -- return_call
  · obtain ⟨t, ht, hcall⟩ := hop
    obtain ⟨hresults, outer, hstack⟩ := Context.tailCall_known hcall
    exact tailCall_typed hp hm ht hresults hstack hg
  -- return_call_indirect
  · rename_i table type i stack hs
    obtain ⟨t, ht, s', ⟨rest, hstack, rfl⟩, hcall⟩ := hop
    rw [hs] at hstack
    cases hstack
    obtain ⟨hresults, outer, hstack⟩ := Context.tailCall_known hcall
    simp only
    split
    · rename_i f hf
      exact tailCall_typed hp (hm.setStack stack) (type_of_indirect hp hf ht) hresults hstack hg
    · exact hg
  · exact hg

/-- A local that is set keeps its type. -/
lemma map_type_setLocal {locals : Array Cell} {i : Nat} {x : Cell} {t : ValueType}
    (ht : (locals.map Cell.type)[i]? = some t) (hx : x.type = t) :
    (locals.setIfInBounds i x).map Cell.type = locals.map Cell.type := by
  refine Array.ext_getElem? fun j => ?_
  rw [Array.map_setIfInBounds, Array.getElem?_setIfInBounds]
  split
  · rename_i hij
    subst hij
    split
    · rw [hx, ht]
    · rename_i hi
      exact (Array.getElem?_eq_none (Nat.le_of_not_lt hi)).symm
  · rfl

/-- Instructions on locals. -/
lemma onLocal_typed (hm : m.Framed c labels inner given results) {o : Op} {s : Stack} {rest : Code}
    (hop : (m.context c labels given).op (.known (m.current.stack.map Cell.type)) o = some s)
    (hcode : (m.context c labels given).Checks s rest inner) (hg : g.Typed c) :
    (onLocal m g rest o).Typed c p results := by
  have hset : ∀ {i x t stack}, (m.context c labels given).locals[i]? = some t → Cell.type x = t →
      (m.context c labels given).Checks (.known (stack.map Cell.type)) rest inner →
      Typed c { m with current := { m.current with
        locals := m.current.locals.setIfInBounds i x, stack, code := rest } } [] results := by
    intro i x t stack ht hx hcode
    have hlocals := map_type_setLocal ht hx
    refine ⟨given, ⟨hm.arity, labels, inner, ?_, ?_⟩, hm.callers⟩
    · rw [hlocals]
      exact hm.labels
    · rw [hlocals]
      exact hcode
  unfold onLocal
  simp only
  split
  all_goals
    simp only [Context.op, Option.bind_eq_bind, Option.bind_eq_some_iff, Option.map_eq_some_iff,
      Stack.pop_known_iff, Stack.step_known_iff] at hop
  · obtain ⟨t, ht, rfl⟩ := hop
    split
    · rename_i x hx
      have hxt : x.type = t := by simpa [context, frameContext, hx] using ht
      subst hxt
      exact ⟨⟨given, ⟨hm.arity, labels, inner, hm.labels, hcode⟩, hm.callers⟩, hg⟩
    · exact hg
  · rename_i i x stack hs
    obtain ⟨t, ht, rest', hstack, rfl⟩ := hop
    rw [hs] at hstack
    cases hstack
    exact ⟨hset ht rfl hcode, hg⟩
  · rename_i i x stack hs
    obtain ⟨t, ht, rest', hstack, rfl⟩ := hop
    rw [hs] at hstack
    cases hstack
    exact ⟨hset ht rfl hcode, hg⟩
  · exact hg

/-- The step behind an instruction that changes the stack and what the instance owns. -/
lemma after_typed (hm : m.Framed c labels inner given results) {rest : Code} {e : Effect}
    {s : Stack} (hcode : (m.context c labels given).Checks s rest inner)
    (he : ∀ stack, e.1 = .ok stack → s = .known (stack.map Cell.type)) (hg : e.2.Typed c) :
    (after m rest e).Typed c p results := by
  obtain ⟨result, g'⟩ := e
  cases result with
  | ok stack =>
    have hs := he stack rfl
    subst hs
    exact ⟨⟨given, ⟨hm.arity, labels, inner, hm.labels, hcode⟩, hm.callers⟩, hg⟩
  | error f => exact hg

/-- An instruction in front of more code. -/
lemma stepOp_typed (hp : p.Checked c) (hm : m.Framed c labels inner given results) {o : Op}
    {rest : Code} (hcode : (m.context c labels given).Checks
      (.known (m.current.stack.map Cell.type)) (.op o rest) inner) (hg : g.Typed c) :
    (stepOp p m g o rest).Typed c p results := by
  obtain ⟨s, hop, hcode⟩ := Context.checks_op_iff.1 hcode
  have hm' : Framed c { m with current := { m.current with code := rest } } labels inner given
      results := ⟨hm.arity, hm.labels, hm.callers⟩
  have hcontrol := onControl_typed hp hm' hop hcode hg
  have hlocal : (onLocal m g rest o).Typed c p results := onLocal_typed hm hop hcode hg
  have hmemory : (after m rest (onMemory o m.current.stack g)).Typed c p results :=
    after_typed hm hcode (fun stack => onMemory_typed hop) (onMemory_guest hg)
  have htable : (after m rest (onTable o m.current.stack g)).Typed c p results := by
    have hg' : g.Typed (m.context c labels given) := ⟨hg.globals, hg.tables, hg.elements⟩
    cases he : onTable o m.current.stack g with
    | mk result g₁ =>
      cases result with
      | error f =>
        rw [onTable_error he]
        exact hg
      | ok stack =>
        obtain ⟨rfl, hg₁⟩ := onTable_typed hg' hop he
        refine after_typed hm hcode (fun stack' h => ?_) ⟨hg₁.globals, hg₁.tables, hg₁.elements⟩
        cases h
        rfl
  have hstack : (after m rest (onStack o m.current.stack, g)).Typed c p results :=
    after_typed hm hcode (fun stack => onStack_typed hop) hg
  unfold stepOp
  split
  all_goals first | exact hcontrol | exact hlocal | exact hmemory | exact htable | exact hstack

/-- **One step of a machine keeps types.** -/
theorem step_typed (hp : p.Checked c) (hm : m.Typed c [] results) (hg : g.Typed c) :
    (m.step p g).Typed c p results := by
  obtain ⟨given, ⟨harity, labels, inner, hlabels, hcode⟩, hcallers⟩ := hm
  have hm : m.Framed c labels inner given results := ⟨harity, hlabels, hcallers⟩
  rw [List.reverse_nil, List.nil_append] at hcode
  unfold step
  generalize m.current.code = is at hcode
  cases is with
  | done => exact close_typed hm (Context.checks_done_iff.1 hcode) hg
  | op o rest => exact stepOp_typed hp hm hcode hg
  | block type body rest => exact enter_typed hp hm hcode hg
  | loop type body rest => exact enterLoop_typed hp hm hcode hg
  | ifThen type yes rest =>
    obtain ⟨ts, hstack, hyes, hno⟩ := hcode.ifThen
    simp only
    split
    · rename_i n stack hs
      rw [hs] at hstack
      cases hstack
      split
      · exact enter_typed hp (hm.setStack stack) hno hg
      · exact enter_typed hp (hm.setStack stack) hyes hg
    · exact hg
  | ifElse type yes no rest =>
    obtain ⟨ts, hstack, hyes, hno⟩ := hcode.ifElse
    simp only
    split
    · rename_i n stack hs
      rw [hs] at hstack
      cases hstack
      split
      · exact enter_typed hp (hm.setStack stack) hno hg
      · exact enter_typed hp (hm.setStack stack) hyes hg
    · exact hg

end Machine

end Embedder.Execution
