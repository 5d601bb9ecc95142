import Embedder.Instance
import Embedder.Proofs.Lists

/-!
# What passes between host and guest

Numbers and vectors pass with all their bits. References do not pass, in neither direction.

* `Cell.mapM_toValue?_ofValue`, `Cell.mapM_toValue?_eq_some_iff`, `Cell.mapM_toValue?_eq_none_iff`:
  values that are made cells come back as they were, and cells are no values if and only if one of them
  is a reference;
* `FunctionType.fault?_eq_none_iff`: which calls are made;
* `World.checkResults_eq_ok_iff`: which results of a function of the host are taken;
* `World.callHost_eq_error`: what a function of the host ends with otherwise.
-/

namespace Embedder

open Elementwise

/-! ### Cells and values -/

namespace Cell

lemma toValue?_eq_none_iff (x : Cell) : x.toValue? = none ↔ x.type.isReference = true := by
  cases x with
  | value v => cases v <;> simp [toValue?, type, Value.type, ValueType.isReference]
  | _ => simp [toValue?, type, ValueType.isReference]

/-- A value that is made a cell comes back with all its bits. -/
lemma mapM_toValue?_ofValue (values : List Value) :
    (values.map ofValue).mapM toValue? = some values := by
  rw [mapM_eq_some_iff, List.forall₂_map_left_iff, List.forall₂_same]
  exact fun v _ => toValue?_ofValue v

/-- Only those cells come back as the values. -/
lemma mapM_toValue?_eq_some_iff {cells : List Cell} {values : List Value} :
    cells.mapM toValue? = some values ↔ cells = values.map ofValue := by
  constructor
  · intro h
    rw [← List.forall₂_eq_eq_eq, List.forall₂_map_right_iff]
    refine (mapM_eq_some_iff.1 h).imp fun x v hx => ?_
    cases x <;> cases hx
    rfl
  · rintro rfl
    exact mapM_toValue?_ofValue values

lemma mapM_toValue?_eq_none_iff (cells : List Cell) :
    cells.mapM toValue? = none ↔ ∃ t ∈ cells.map type, t.isReference = true := by
  constructor
  · intro h
    by_contra hno
    have hvalues : ∀ x ∈ cells, ∃ v, x.toValue? = some v := by
      intro x hx
      refine Option.ne_none_iff_exists'.1 fun hnone => hno ⟨x.type, List.mem_map_of_mem hx, ?_⟩
      exact (toValue?_eq_none_iff x).1 hnone
    obtain ⟨values, hall⟩ := exists_forall₂_iff.2 hvalues
    rw [mapM_eq_some_iff.2 hall] at h
    cases h
  · rintro ⟨t, ht, href⟩
    obtain ⟨x, hx, rfl⟩ := List.mem_map.1 ht
    by_contra hsome
    obtain ⟨values, hvalues⟩ := Option.ne_none_iff_exists'.1 hsome
    obtain ⟨v, -, hv⟩ := exists_mem_of_forall₂ (mapM_eq_some_iff.1 hvalues) hx
    rw [(toValue?_eq_none_iff x).2 href] at hv
    cases hv

/-- Cells without references come back. -/
lemma exists_values {cells : List Cell} (h : ∀ t ∈ cells.map type, t.isReference = false) :
    ∃ values : List Value, cells = values.map ofValue := by
  cases hv : cells.mapM toValue? with
  | some values => exact ⟨values, mapM_toValue?_eq_some_iff.1 hv⟩
  | none =>
    obtain ⟨t, ht, href⟩ := (mapM_toValue?_eq_none_iff cells).1 hv
    rw [h t ht] at href
    cases href

lemma map_type_ofValue (values : List Value) :
    (values.map ofValue).map type = values.map Value.type := by
  rw [List.map_map]
  rfl

end Cell

/-! ### Arguments -/

lemma referenceResult?_eq_none_iff (i : Nat) (ts : List ValueType) :
    referenceResult? i ts = none ↔ ∀ t ∈ ts, t.isReference = false := by
  induction ts generalizing i with
  | nil => simp [referenceResult?]
  | cons t ts ih =>
    unfold referenceResult?
    split
    · rename_i ht
      simp [ht]
    · rename_i ht
      simp [ih, ht]

lemma argumentFault?_eq_none_iff (i : Nat) {ts : List ValueType} {values : List Value}
    (h : values.length = ts.length) :
    argumentFault? i ts values = none ↔ values.map Value.type = ts := by
  induction ts generalizing i values with
  | nil => simp [List.length_eq_zero_iff.1 h, argumentFault?]
  | cons t ts ih =>
    cases values with
    | nil => cases h
    | cons v values =>
      unfold argumentFault?
      rw [List.map_cons, List.cons.injEq]
      split
      · rename_i hv
        rw [ih (i + 1) (Nat.succ.inj h)]
        simp [hv]
      · rename_i hv
        simp [hv]

/-- A function is called if and only if its results can be returned and the arguments have the types
of its parameters, position by position. -/
theorem FunctionType.fault?_eq_none_iff (t : FunctionType) (arguments : List Value) :
    t.fault? arguments = none ↔
      (∀ u ∈ t.results, u.isReference = false) ∧ arguments.map Value.type = t.params := by
  unfold fault?
  rw [← referenceResult?_eq_none_iff 0]
  cases referenceResult? 0 t.results with
  | some f => simp
  | none =>
    simp only [true_and]
    split
    · rename_i hlength
      exact argumentFault?_eq_none_iff 0 hlength
    · rename_i hlength
      simp only [reduceCtorEq, false_iff]
      intro h
      exact hlength (by rw [← h, List.length_map])

/-! ### Results -/

/-- The results of a function of the host are taken if and only if they have the types of the
function, position by position, and then they are taken as they are. -/
theorem World.checkResults_eq_ok_iff {expected : List ValueType} {values : List Value}
    {cells : List Cell} :
    checkResults expected values = .ok cells ↔
      values.map Value.type = expected ∧ cells = values.map Cell.ofValue := by
  have hzip : ∀ {vs : List Value} {ts : List ValueType}, vs.length = ts.length →
      (((vs.zip ts).find? fun p => p.1.type != p.2) = none ↔ vs.map Value.type = ts) := by
    intro vs
    induction vs with
    | nil =>
      intro ts h
      simp [List.length_eq_zero_iff.1 h.symm]
    | cons v vs ih =>
      intro ts h
      cases ts with
      | nil => cases h
      | cons t ts =>
        rw [List.zip_cons_cons, List.find?_cons, List.map_cons, List.cons.injEq]
        by_cases hv : v.type = t
        · simp [hv, ih (Nat.succ.inj h)]
        · simp [hv, bne_iff_ne.2 hv]
  unfold checkResults
  split
  · rename_i hlength
    rw [← hzip hlength]
    cases (values.zip expected).find? fun p => p.1.type != p.2 <;> simp [eq_comm]
  · rename_i hlength
    simp only [reduceCtorEq, false_iff, not_and]
    intro h
    exact absurd (by rw [← h, List.length_map]) hlength

namespace World

variable {σ : Type} {expected : List ValueType} {values : List Value}

/-- Results that are not taken are the failure of the function. -/
lemma checkResults_eq_error {s : Execution.Stop} (h : checkResults expected values = .error s) :
    ∃ message, s = .failed message := by
  unfold checkResults at h
  split at h
  · split at h
    · cases h
      exact ⟨_, rfl⟩
    · cases h
  · cases h
    exact ⟨_, rfl⟩

lemma exists_checkResults_error (h : values.map Value.type ≠ expected) :
    ∃ message, checkResults expected values = .error (.failed message) := by
  cases hr : checkResults expected values with
  | ok cells => exact absurd (checkResults_eq_ok_iff.1 hr).1 h
  | error s =>
    obtain ⟨message, rfl⟩ := checkResults_eq_error hr
    exact ⟨message, rfl⟩

variable {calls : Calls σ} {memory : Option Nat} {f : HostFunction σ} {cells : List Cell}
  {g : Execution.Guest} {w : World σ}

/-- **A function of the host fails with a message, or it breaks off**, whatever it does. -/
theorem callHost_eq_error {s : Execution.Stop}
    (h : (callHost calls memory f cells g w).result = .error s) :
    s = .panicked ∨ ∃ message, s = .failed message := by
  unfold callHost at h
  split at h
  · cases h
    exact .inr ⟨_, rfl⟩
  · split at h
    · cases h
      exact .inr ⟨_, rfl⟩
    · split at h
      · cases h
        exact .inl rfl
      · cases h
        exact .inr ⟨_, rfl⟩
      · exact .inr (checkResults_eq_error h)

/-- Its results have its type. -/
lemma callHost_eq_ok {results : List Cell}
    (h : (callHost calls memory f cells g w).result = .ok results) :
    results.map Cell.type = f.type.results := by
  unfold callHost at h
  split at h
  · cases h
  · split at h
    · cases h
    · split at h
      · cases h
      · cases h
      · obtain ⟨htypes, rfl⟩ := checkResults_eq_ok_iff.1 h
        rw [← htypes, Cell.map_type_ofValue]

end World

end Embedder
