import Embedder.Validation.Stack
import Mathlib.Tactic.Lemma

/-!
# Operands of known types

Code that is reached has operands of known types only, so each operation on the stack of types takes
a list apart or puts one together.

* `Stack.known`: the stack of operands of known types;
* `Stack.step_known_iff`, `Stack.popAll_known_iff`, `Stack.endsWith_known_iff`: what the operations
  are on such a stack.
-/

namespace Embedder.Validation.Stack

variable {ts us : List ValueType} {t : ValueType} {s : Stack}

/-- The stack of operands whose types are known, the one on top first. -/
def known (ts : List ValueType) : Stack := ⟨ts.map some, false⟩

lemma ofTypes_eq_known (ts : List ValueType) : ofTypes ts = known ts.reverse := by
  simp [ofTypes, known]

@[simp] lemma push_known (t : ValueType) (ts : List ValueType) :
    (known ts).push t = known (t :: ts) := rfl

@[simp] lemma pushAll_known (us ts : List ValueType) :
    (known ts).pushAll us = known (us.reverse ++ ts) := by
  induction us generalizing ts with
  | nil => rfl
  | cons u us ih =>
    rw [pushAll, List.foldl_cons, push_known]
    exact (ih (u :: ts)).trans (by simp)

lemma popAny_known_cons (t : ValueType) (ts : List ValueType) :
    (known (t :: ts)).popAny = some (some t, known ts) := rfl

lemma popAny_known_iff {u : Option ValueType} :
    (known ts).popAny = some (u, s) ↔ ∃ t rest, ts = t :: rest ∧ u = some t ∧ s = known rest := by
  cases ts with
  | nil => simp [known, popAny]
  | cons t rest =>
    simp only [known, popAny, List.map_cons, Option.some.injEq, Prod.mk.injEq]
    grind

lemma pop_known_iff :
    (known ts).pop t = some s ↔ ∃ rest, ts = t :: rest ∧ s = known rest := by
  cases ts with
  | nil => simp [known, pop, popAny]
  | cons u rest =>
    by_cases h : u = t
    · simp [known, pop, popAny, h, eq_comm]
    · simp [known, pop, popAny, h]

lemma popAll_known_iff :
    (known ts).popAll us = some s ↔ ∃ rest, ts = us.reverse ++ rest ∧ s = known rest := by
  unfold popAll
  generalize us.reverse = us
  induction us generalizing ts with
  | nil => simp [eq_comm]
  | cons u us ih =>
    rw [List.foldlM_cons]
    constructor
    · intro h
      obtain ⟨s', hs', h⟩ := Option.bind_eq_some_iff.1 h
      obtain ⟨rest, rfl, rfl⟩ := pop_known_iff.1 hs'
      obtain ⟨rest', rfl, rfl⟩ := ih.1 h
      exact ⟨rest', rfl, rfl⟩
    · rintro ⟨rest, rfl, rfl⟩
      exact Option.bind_eq_some_iff.2 ⟨_, pop_known_iff.2 ⟨_, rfl, rfl⟩, ih.2 ⟨rest, rfl, rfl⟩⟩

lemma step_known_iff {operands results : List ValueType} :
    (known ts).step operands results = some s ↔
      ∃ rest, ts = operands.reverse ++ rest ∧ s = known (results.reverse ++ rest) := by
  rw [step, Option.map_eq_some_iff]
  constructor
  · rintro ⟨s', hs', rfl⟩
    obtain ⟨rest, rfl, rfl⟩ := popAll_known_iff.1 hs'
    exact ⟨rest, rfl, pushAll_known results rest⟩
  · rintro ⟨rest, rfl, rfl⟩
    exact ⟨known rest, popAll_known_iff.2 ⟨rest, rfl, rfl⟩, pushAll_known results rest⟩

lemma endsWith_known_iff : (known ts).endsWith us = true ↔ ts = us.reverse := by
  unfold endsWith
  cases h : (known ts).popAll us with
  | none =>
    have hno : ¬ ∃ rest, ts = us.reverse ++ rest := by
      rintro ⟨rest, hts⟩
      rw [popAll_known_iff.2 ⟨rest, hts, rfl⟩] at h
      cases h
    simp only [Bool.false_eq_true, false_iff]
    intro hts
    exact hno ⟨[], by simp [hts]⟩
  | some s' =>
    obtain ⟨rest, rfl, rfl⟩ := popAll_known_iff.1 h
    simp [known]

lemma popReference_known_iff :
    (known ts).popReference = some s ↔
      ∃ t rest, ts = t :: rest ∧ t.isReference = true ∧ s = known rest := by
  cases ts with
  | nil => simp [known, popReference, popAny]
  | cons t rest =>
    simp only [known, popReference, popAny, List.map_cons]
    grind

end Embedder.Validation.Stack
