import Embedder.Proofs.Typing.Stack
import Embedder.Validation.Instructions

/-!
# Checked code

* `Context.Checks`: code that starts with a stack of types ends with values of given types;
* `Context.checks_op_iff`, `Context.checks_block_iff` and their like: what that says for each form of
  code, where the types of all operands are known;
* `Context.branchTable_targets`, `Context.tailCall_known`: what it says for the two instructions with
  checks of their own.
-/

namespace Embedder.Validation.Context

attribute [local simp] code

variable {c : Context} {s : Stack} {ts results : List ValueType} {o : Op} {type : BlockType}
  {body yes no rest : Code}

/-- The code is checked, and values of the given types are all that it leaves. -/
def Checks (c : Context) (s : Stack) (is : Code) (results : List ValueType) : Prop :=
  ∃ s', c.code s is = some s' ∧ s'.endsWith results = true

/-- The context inside a block whose label carries values of the given types. -/
def inside (c : Context) (carried : List ValueType) : Context :=
  { c with labels := carried :: c.labels }

lemma checks_done_iff : c.Checks (.known ts) .done results ↔ ts = results.reverse := by
  simp [Checks, code, Stack.endsWith_known_iff]

lemma checks_op_iff :
    c.Checks s (.op o rest) results ↔ ∃ s', c.op s o = some s' ∧ c.Checks s' rest results := by
  simp only [Checks, code, Option.bind_eq_bind, Option.bind_eq_some_iff]
  grind

lemma checks_block_iff :
    c.Checks (.known ts) (.block type body rest) results ↔
      ∃ t outer, c.blockType type = some t ∧ ts = t.params.reverse ++ outer ∧
        (c.inside t.results).Checks (.known t.params.reverse) body t.results ∧
        c.Checks (.known (t.results.reverse ++ outer)) rest results := by
  simp only [Checks, code, Option.bind_eq_bind, Option.bind_eq_some_iff, Stack.popAll_known_iff,
    Stack.ofTypes_eq_known, inside]
  grind [Stack.pushAll_known]

lemma checks_loop_iff :
    c.Checks (.known ts) (.loop type body rest) results ↔
      ∃ t outer, c.blockType type = some t ∧ ts = t.params.reverse ++ outer ∧
        (c.inside t.params).Checks (.known t.params.reverse) body t.results ∧
        c.Checks (.known (t.results.reverse ++ outer)) rest results := by
  simp only [Checks, code, Option.bind_eq_bind, Option.bind_eq_some_iff, Stack.popAll_known_iff,
    Stack.ofTypes_eq_known, inside]
  grind [Stack.pushAll_known]

/-- Under a condition code is checked as a block is. Without code for its failure the block is empty
then. -/
lemma Checks.ifThen (h : c.Checks (.known ts) (.ifThen type yes rest) results) :
    ∃ us, ts = .i32 :: us ∧ c.Checks (.known us) (.block type yes rest) results ∧
      c.Checks (.known us) (.block type .done rest) results := by
  obtain ⟨s', h, hs'⟩ := h
  simp only [code, Option.bind_eq_bind, Option.bind_eq_some_iff, Stack.pop_known_iff] at h
  obtain ⟨t, ht, _, ⟨us, rfl, rfl⟩, s₂, hs₂, s₃, hs₃, h⟩ := h
  obtain ⟨outer, rfl, rfl⟩ := Stack.popAll_known_iff.1 hs₂
  rw [Stack.ofTypes_eq_known] at hs₃ h
  split at h
  · rename_i hends
    rw [Bool.and_eq_true, Stack.endsWith_known_iff] at hends
    rw [Stack.pushAll_known] at h
    refine ⟨_, rfl, checks_block_iff.2 ⟨t, outer, ht, rfl, ⟨s₃, hs₃, hends.1⟩, s', h, hs'⟩, ?_⟩
    exact checks_block_iff.2 ⟨t, outer, ht, rfl, checks_done_iff.2 hends.2, s', h, hs'⟩
  · cases h

lemma Checks.ifElse (h : c.Checks (.known ts) (.ifElse type yes no rest) results) :
    ∃ us, ts = .i32 :: us ∧ c.Checks (.known us) (.block type yes rest) results ∧
      c.Checks (.known us) (.block type no rest) results := by
  obtain ⟨s', h, hs'⟩ := h
  simp only [code, Option.bind_eq_bind, Option.bind_eq_some_iff, Stack.pop_known_iff] at h
  obtain ⟨t, ht, _, ⟨us, rfl, rfl⟩, s₂, hs₂, s₃, hs₃, s₄, hs₄, h⟩ := h
  obtain ⟨outer, rfl, rfl⟩ := Stack.popAll_known_iff.1 hs₂
  rw [Stack.ofTypes_eq_known] at hs₃ hs₄
  split at h
  · rename_i hends
    rw [Bool.and_eq_true] at hends
    rw [Stack.pushAll_known] at h
    refine ⟨_, rfl, checks_block_iff.2 ⟨t, outer, ht, rfl, ⟨s₃, hs₃, hends.1⟩, s', h, hs'⟩, ?_⟩
    exact checks_block_iff.2 ⟨t, outer, ht, rfl, ⟨s₄, hs₄, hends.2⟩, s', h, hs'⟩
  · cases h

/-- Where a branch over a table is checked, what any of its labels carries lies below the
index. -/
lemma branchTable_targets {labels : List Nat} {other l : Nat}
    (h : c.branchTable (.known ts) labels other = some s) (hl : l = other ∨ l ∈ labels) :
    ∃ rest carried outer, ts = .i32 :: rest ∧ c.labels[l]? = some carried ∧
      rest = carried.reverse ++ outer := by
  simp only [branchTable, Option.bind_eq_bind, Option.bind_eq_some_iff, Stack.pop_known_iff] at h
  obtain ⟨_, ⟨rest, rfl, rfl⟩, last, hother, _, hlast, h⟩ := h
  split at h
  · rename_i hall
    rcases hl with rfl | hl
    · obtain ⟨outer, hrest, -⟩ := Stack.popAll_known_iff.1 hlast
      exact ⟨rest, last, outer, rfl, hother, hrest⟩
    · obtain ⟨carried, hcarried, hfits⟩ :=
        (Option.any_eq_true _ _).1 (List.all_eq_true.1 hall l hl)
      rw [Bool.and_eq_true] at hfits
      obtain ⟨s', hpop⟩ := Option.isSome_iff_exists.1 hfits.2
      obtain ⟨outer, hrest, -⟩ := Stack.popAll_known_iff.1 hpop
      exact ⟨rest, carried, outer, rfl, hcarried, hrest⟩
  · cases h

/-- A tail call that is checked finds its arguments, and its function gives back what is due. -/
lemma tailCall_known {t : FunctionType} (h : c.tailCall (.known ts) t = some s) :
    t.results = c.results ∧ ∃ outer, ts = t.params.reverse ++ outer := by
  simp only [tailCall, Option.bind_eq_bind, Option.bind_eq_some_iff] at h
  obtain ⟨_, hparams, h⟩ := h
  obtain ⟨outer, hts, -⟩ := Stack.popAll_known_iff.1 hparams
  split at h
  · rename_i hresults
    exact ⟨hresults, outer, hts⟩
  · cases h

end Embedder.Validation.Context
