import Embedder.Proofs.Typing.Guest
import Embedder.Proofs.Typing.Stack

/-!
# Instructions keep types

An instruction that goes on leaves the operands that its rule in the checker says.

* `Numeric.type_evalUnary`, `Numeric.type_evalBinary`: results of computations;
* `Machine.onStack_typed`, `Machine.onMemory_typed`, `Machine.onTable_typed`: the instructions that
  do not go somewhere else, by what they use.
-/

namespace Embedder

open Execution (Guest Machine Fault Trap)
open Validation (Context Stack)

/-! ### Computations -/

lemma IntWidth.type_value (w : IntWidth) (b : BitVec w.bits) : (w.value b).type = w.type := by
  cases w <;> rfl

lemma FloatWidth.type_value (w : FloatWidth) (n : Nat) : (w.value n).type = w.type := by
  cases w <;> rfl

namespace Numeric

lemma typed_eq_ok_iff {v : Option Value} {u : Value} : typed v = .ok u ↔ v = some u := by
  cases v <;> simp [typed]

lemma trapping_eq_ok_iff {r : Except Trap Value} {v : Value} : trapping r = .ok v ↔ r = .ok v := by
  cases r with
  | error e => constructor <;> intro h <;> cases h
  | ok u => constructor <;> intro h <;> cases h <;> rfl

lemma map_eq_ok {ε α β : Type} {r : Except ε α} {f : α → β} {b : β} (h : r.map f = .ok b) :
    ∃ a, r = .ok a ∧ b = f a := by
  cases r with
  | error e => cases h
  | ok a => exact ⟨a, rfl, (Except.ok.inj h).symm⟩

theorem type_evalUnary {n : Numeric} {a v : Value} (h : n.evalUnary a = .ok v) :
    v.type = n.result := by
  have hmap : ∀ {α : Type} {x : Option α} {f : α → Value}, typed (x.map f) = .ok v →
      ∃ b, v = f b := by
    intro α x f hx
    obtain ⟨b, -, hb⟩ := Option.map_eq_some_iff.1 (typed_eq_ok_iff.1 hx)
    exact ⟨b, hb.symm⟩
  cases n with
  | trunc t s signed =>
    simp only [evalUnary] at h
    split at h
    · obtain ⟨b, -, rfl⟩ := map_eq_ok (trapping_eq_ok_iff.1 h)
      exact t.type_value b
    · cases h
  | intCompare w op => cases h
  | floatCompare w op => cases h
  | intBinary w op => cases h
  | floatBinary w op => cases h
  | floatBits w => cases w <;> obtain ⟨b, rfl⟩ := hmap h <;> rfl
  | bitsFloat w => cases w <;> obtain ⟨b, rfl⟩ := hmap h <;> rfl
  | _ =>
    obtain ⟨b, rfl⟩ := hmap h
    first | rfl | exact IntWidth.type_value .. | exact FloatWidth.type_value ..

theorem type_evalBinary {n : Numeric} {a b v : Value} (h : n.evalBinary a b = .ok v) :
    v.type = n.result := by
  cases n with
  | intBinary w op =>
    simp only [evalBinary] at h
    split at h
    · obtain ⟨x, -, rfl⟩ := map_eq_ok (trapping_eq_ok_iff.1 h)
      exact w.type_value x
    · cases h
  | intCompare w op =>
    simp only [evalBinary] at h
    split at h
    · cases h
      rfl
    · cases h
  | floatBinary w op =>
    simp only [evalBinary] at h
    split at h
    · cases h
      exact w.type_value _
    · cases h
  | floatCompare w op =>
    simp only [evalBinary] at h
    split at h
    · cases h
      rfl
    · cases h
  | _ => cases h

lemma operands_of_isBinary {n : Numeric} (h : n.isBinary = true) : ∃ t u, n.operands = [t, u] := by
  cases n <;> simp [isBinary, operands] at h ⊢

lemma operands_of_not_isBinary {n : Numeric} (h : n.isBinary = false) : ∃ t, n.operands = [t] := by
  cases n with
  | intCompare w op => cases h
  | floatCompare w op => cases h
  | intBinary w op => cases h
  | floatBinary w op => cases h
  | floatBits w => cases w <;> exact ⟨_, rfl⟩
  | bitsFloat w => cases w <;> exact ⟨_, rfl⟩
  | _ => exact ⟨_, rfl⟩

end Numeric

namespace Execution.Machine

variable {c : Context} {o : Op} {stack stack' : List Cell} {g g' : Guest} {s : Stack}

/-! ### Operands alone -/

/-- A choice between two operands has the type of both. -/
lemma select_typed {types : Option (List ValueType)} {a b : Cell}
    (hop : c.op (.known (.i32 :: b.type :: a.type :: stack.map Cell.type)) (.select types) = some s) :
    b.type = a.type ∧ s = .known (a.type :: stack.map Cell.type) := by
  cases types with
  | none =>
    simp only [Context.op, Context.select] at hop
    obtain ⟨s₁, h₁, hop⟩ := Option.bind_eq_some_iff.1 hop
    obtain ⟨ts, hts, rfl⟩ := Stack.pop_known_iff.1 h₁
    cases hts
    simp only [Stack.popAny_known_cons, Option.bind_eq_bind, Option.bind_some] at hop
    split at hop
    · cases hop
    · split at hop
      · cases hop
      · rename_i hne
        have hab : b.type = a.type := by simpa using hne
        rw [← Option.some.inj hop, hab]
        exact ⟨rfl, rfl⟩
  | some ts =>
    match ts with
    | [t] =>
      obtain ⟨rest, hts, rfl⟩ := Stack.step_known_iff.1 hop
      simp only [List.reverse_cons, List.reverse_nil, List.nil_append, List.cons_append,
        List.cons.injEq] at hts
      obtain ⟨-, hb, ha, rfl⟩ := hts
      exact ⟨hb.trans ha.symm, by rw [ha]; rfl⟩
    | [] => cases hop
    | _ :: _ :: _ => cases hop

/-- Instructions that use nothing but the stack. -/
theorem onStack_typed (hop : c.op (.known (stack.map Cell.type)) o = some s)
    (h : onStack o stack = .ok stack') : s = .known (stack'.map Cell.type) := by
  unfold onStack at h
  split at h
  · cases h
    exact (Option.some.inj hop).symm
  · cases h
    simp only [Context.op] at hop
    obtain ⟨⟨u, s'⟩, hpop, rfl⟩ := Option.map_eq_some_iff.1 hop
    obtain ⟨t, rest, hts, -, rfl⟩ := Stack.popAny_known_iff.1 hpop
    cases hts
    rfl
  · cases h
    obtain ⟨hab, rfl⟩ := select_typed hop
    rw [List.map_cons]
    split
    · rw [hab]
    · rfl
  · cases h
    exact (Option.some.inj hop).symm
  · cases h
    rw [List.map_cons, Cell.type_zero]
    exact (Option.some.inj hop).symm
  · cases h
    simp only [Context.op] at hop
    split at hop
    · exact (Option.some.inj hop).symm
    · cases hop
  · cases h
    simp only [Context.op] at hop
    obtain ⟨s', hpop, rfl⟩ := Option.map_eq_some_iff.1 hop
    obtain ⟨t, rest, hts, -, rfl⟩ := Stack.popReference_known_iff.1 hpop
    cases hts
    rfl
  · rename_i n b rest
    obtain ⟨ts, hts, rfl⟩ := Stack.step_known_iff.1 hop
    split at h
    · rename_i hn
      obtain ⟨t, u, htu⟩ := Numeric.operands_of_isBinary hn
      rw [htu] at hts
      split at h
      · obtain ⟨v, hv, rfl⟩ := Numeric.map_eq_ok h
        cases hts
        rw [List.map_cons]
        change _ = Stack.known (v.type :: _)
        rw [Numeric.type_evalBinary hv]
        rfl
      · cases h
    · rename_i hn
      obtain ⟨t, ht⟩ := Numeric.operands_of_not_isBinary (Bool.eq_false_iff.2 hn)
      rw [ht] at hts
      obtain ⟨v, hv, rfl⟩ := Numeric.map_eq_ok h
      cases hts
      rw [List.map_cons]
      change _ = Stack.known (v.type :: _)
      rw [Numeric.type_evalUnary hv]
      rfl
  · cases h

/-! ### Memories -/

lemma type_loaded {a : Access} {n : Nat} {v : Value} (h : loaded a n = some v) :
    v.type = a.type := by
  unfold loaded at h
  split at h <;> cases h <;> simp_all [Value.type]

/-- No instruction on memories touches globals, tables or elements. -/
lemma onMemory_guest (hg : g.Typed c) : (onMemory o stack g).2.Typed c := by
  unfold onMemory
  split
  all_goals
    simp -failIfUnchanged only
    repeat' split
  all_goals exact hg.of_eq rfl rfl rfl

/-- Instructions on memories and data segments. -/
theorem onMemory_typed (hop : c.op (.known (stack.map Cell.type)) o = some s)
    (h : (onMemory o stack g).1 = .ok stack') : s = .known (stack'.map Cell.type) := by
  unfold onMemory at h
  split at h
  all_goals
    simp only [Context.op, Option.ite_none_right_eq_some, Option.bind_eq_bind,
      Option.bind_eq_some_iff, Stack.step_known_iff, Option.some.injEq] at hop
  -- load
  · obtain ⟨-, ts, hts, rfl⟩ := hop
    split at h
    · cases h
    · simp only at h
      split at h
      · split at h
        · rename_i v hv
          cases h
          cases hts
          rw [List.map_cons, ← type_loaded hv]
          rfl
        · cases h
      · cases h
  -- store
  · obtain ⟨-, ts, hts, rfl⟩ := hop
    simp only at h
    split at h
    · cases h
      obtain ⟨-, -, rfl⟩ : _ ∧ _ ∧ stack'.map Cell.type = ts := by simpa using hts
      rfl
    · cases h
  -- memory.size
  · obtain ⟨m, -, rfl⟩ := hop
    split at h
    · cases h
      rfl
    · cases h
  -- memory.grow
  · obtain ⟨m, -, ts, hts, rfl⟩ := hop
    split at h
    · cases h
      cases hts
      rfl
    · cases h
      cases hts
      rfl
    · cases h
  -- memory.fill
  · obtain ⟨m, -, ts, hts, rfl⟩ := hop
    split at h
    · cases h
      cases hts
      rfl
    · cases h
  -- memory.copy
  · obtain ⟨m, -, n, -, ts, hts, rfl⟩ := hop
    split at h
    · split at h
      · cases h
        cases hts
        rfl
      · cases h
    · cases h
  -- memory.init
  · obtain ⟨m, -, -, ts, hts, rfl⟩ := hop
    simp only at h
    split at h
    · cases h
      cases hts
      rfl
    · cases h
  -- data.drop
  · cases h
    exact hop.2.symm
  · cases h

/-! ### Tables and globals -/

/-- An instruction that fails has changed nothing. -/
lemma onTable_error {f : Fault} (h : onTable o stack g = (.error f, g')) : g' = g := by
  unfold onTable at h
  split at h
  all_goals
    simp -failIfUnchanged only at h
    repeat' split at h
  all_goals first | (cases h; rfl) | cases h

/-- Instructions on tables, element segments and globals. -/
theorem onTable_typed (hg : g.Typed c) (hop : c.op (.known (stack.map Cell.type)) o = some s)
    (h : onTable o stack g = (.ok stack', g')) :
    s = .known (stack'.map Cell.type) ∧ g'.Typed c := by
  unfold onTable at h
  split at h
  all_goals
    simp only [Context.op, Option.ite_none_right_eq_some, Option.bind_eq_bind,
      Option.bind_eq_some_iff, Stack.step_known_iff, Stack.pop_known_iff, Option.some.injEq,
      Option.map_eq_some_iff] at hop
  -- table.get
  · obtain ⟨t, ht, ts, hts, rfl⟩ := hop
    split at h
    · rename_i x hx
      cases h
      cases hts
      obtain ⟨u, hu, hx⟩ := Option.bind_eq_some_iff.1 hx
      obtain ⟨htyped, helement⟩ := hg.tables _ _ _ hu ht
      rw [List.map_cons, htyped.type_get? hx, helement]
      exact ⟨rfl, hg⟩
    · cases h
  -- table.set
  · rename_i x n rest
    obtain ⟨t, ht, ts, hts, rfl⟩ := hop
    obtain ⟨hx, -, rfl⟩ : x.type = t.element ∧ _ ∧ rest.map Cell.type = ts := by simpa using hts
    split at h
    · cases h
      exact ⟨rfl, hg.setTable ht hx _⟩
    · cases h
  -- table.size
  · obtain ⟨t, -, rfl⟩ := hop
    split at h
    · cases h
      exact ⟨rfl, hg⟩
    · cases h
  -- table.grow
  · rename_i delta x rest
    obtain ⟨t, ht, ts, hts, rfl⟩ := hop
    obtain ⟨-, hx, rfl⟩ : _ ∧ x.type = t.element ∧ rest.map Cell.type = ts := by simpa using hts
    split at h
    · cases h
      exact ⟨rfl, hg.growTable ht hx _⟩
    · cases h
      exact ⟨rfl, hg⟩
    · cases h
  -- table.fill
  · rename_i n x start rest
    obtain ⟨t, ht, ts, hts, rfl⟩ := hop
    obtain ⟨-, hx, -, rfl⟩ : _ ∧ x.type = t.element ∧ _ ∧ rest.map Cell.type = ts := by
      simpa using hts
    split at h
    · cases h
      exact ⟨rfl, hg.writeTable ht (fun y hy => List.eq_of_mem_replicate hy ▸ hx) _⟩
    · cases h
  -- table.copy
  · obtain ⟨t, ht, u, hu, heq, ts, hts, rfl⟩ := hop
    cases hts
    split at h
    · cases h
      exact ⟨rfl, hg.writeTable ht (fun y hy => (hg.slice hu _ _ y hy).trans heq.symm) _⟩
    · cases h
  -- table.init
  · obtain ⟨e, he, t, ht, heq, ts, hts, rfl⟩ := hop
    cases hts
    simp only at h
    split at h
    · cases h
      refine ⟨rfl, hg.writeTable ht (fun y hy => ?_) _⟩
      have hmem := List.mem_of_mem_drop (List.mem_of_mem_take hy)
      rw [hg.element he y hmem, heq]
    · cases h
  -- elem.drop
  · obtain ⟨t, -, rfl⟩ := hop
    cases h
    exact ⟨rfl, hg.dropElement _⟩
  -- global.get
  · obtain ⟨t, ht, rfl⟩ := hop
    split at h
    · rename_i x hx
      cases h
      rw [List.map_cons, hg.global hx ht]
      exact ⟨rfl, hg⟩
    · cases h
  -- global.set
  · rename_i i x rest
    obtain ⟨t, ht, -, ts, hts, rfl⟩ := hop
    obtain ⟨hx, rfl⟩ : x.type = t.value ∧ rest.map Cell.type = ts := by simpa using hts
    cases h
    refine ⟨rfl, hg.setGlobal fun u hu => ?_⟩
    rw [ht, Option.some.injEq] at hu
    rw [hx, hu]
  · cases h

end Execution.Machine

end Embedder
