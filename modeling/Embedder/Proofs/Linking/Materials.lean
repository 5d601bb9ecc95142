import Embedder.Proofs.Modules.Compiling
import Embedder.Proofs.World.Phases

/-!
# Limits of what the host offers

A host may give a memory or a table any limits. They are compared with those of the import, then they
have to be numbers of 32 bits, and then the engine makes the entity. The first two filters refuse. The
engine has no memory type with more than 65536 pages or with a maximum below the minimum, and it is
asked for one without being asked whether it has it.

* `MemoryType.Unmakeable`: the limits that pass both filters and that the engine has no type for;
* `HostItem.LimitsRefused`: what the host is told of limits that a filter refuses;
* `ImportObject.resolve_eq_panic_iff`: resolving breaks off at such a memory and nowhere else;
* `World.host_limits_settled`: what becomes of the limits of an item, in an instantiation.
-/

namespace Embedder

variable {σ : Type}

/-! ### Limits -/

lemma MemoryType.isAccepted_eq_false_iff (t : MemoryType) :
    t.isAccepted = false ↔
      maxPages < t.minimum ∨ ∃ n, t.maximum = some n ∧ (maxPages < n ∨ n < t.minimum) := by
  unfold isAccepted
  rw [Bool.and_eq_false_iff]
  cases t.maximum with
  | none => simp
  | some n => simp [Classical.or_iff_not_imp_left]

/-- An import takes a memory with these limits and 32 bits hold them, but it has more pages than an
engine can address, or it ends below its start. -/
structure MemoryType.Unmakeable (t required : MemoryType) : Prop where
  satisfies : t.satisfies required = true
  inRange : t.isInRange = true
  refused : maxPages < t.minimum ∨ ∃ n, t.maximum = some n ∧ (maxPages < n ∨ n < t.minimum)

namespace HostItem

variable (i : ImportType) (item : HostItem σ)

/-- The item has limits, and it is of the kind that an import asks for. -/
inductive HasLimitsFor : HostItem σ → Prop
  | memory {t required : MemoryType} (hi : i.type = .memory required) : HasLimitsFor (.memory t)
  | table {t required : TableType} (hi : i.type = .table required) : HasLimitsFor (.table t)

/-- The limits of the item do not do for an import: they do not satisfy what is asked for, or 32 bits
do not hold them. -/
inductive LimitsRefused : HostItem σ → LinkError → Prop
  | memoryMismatch {t required : MemoryType} (hi : i.type = .memory required)
      (hs : t.satisfies required = false) :
      LimitsRefused (.memory t)
        (.signatureMismatch i.module i.name (.memory required) (.memory t))
  | memoryRange {t required : MemoryType} (hi : i.type = .memory required)
      (hs : t.satisfies required = true) (hr : t.isInRange = false) :
      LimitsRefused (.memory t) (.material i.module i.name (.limits (.memory t)))
  | tableMismatch {t required : TableType} (hi : i.type = .table required)
      (hs : t.satisfies required = false) :
      LimitsRefused (.table t) (.signatureMismatch i.module i.name (.table required) (.table t))
  | tableRange {t required : TableType} (hi : i.type = .table required)
      (hs : t.satisfies required = true) (hr : t.isInRange = false) :
      LimitsRefused (.table t) (.material i.module i.name (.limits (.table t)))

/-- The item is a memory that an engine is asked to make although it cannot. -/
inductive BreaksOff : HostItem σ → Prop
  | memory {t required : MemoryType} (hi : i.type = .memory required) (ht : t.Unmakeable required) :
      BreaksOff (.memory t)

lemma resolve_eq_panic_iff : item.resolve i = .error .panic ↔ item.BreaksOff i := by
  constructor
  · intro h
    unfold resolve at h
    split at h
    · split at h <;> cases h
    · split at h
      · split at h <;> cases h
      · cases h
    · rename_i required t hi
      split at h
      · rename_i hs
        split at h
        · rename_i hr
          split at h
          · cases h
          · rename_i ha
            exact .memory hi ⟨hs, hr, t.isAccepted_eq_false_iff.1 (by simpa using ha)⟩
        · cases h
      · cases h
    · split at h
      · split at h <;> cases h
      · cases h
    · cases h
  · rintro ⟨hi, ht⟩
    have ha := (MemoryType.isAccepted_eq_false_iff _).2 ht.refused
    simp [resolve, hi, ht.satisfies, ht.inRange, ha]

lemma resolve_of_limitsRefused {e : LinkError} (h : item.LimitsRefused i e) :
    item.resolve i = .error (.link e) := by
  cases h with
  | memoryMismatch hi hs => simp [resolve, hi, hs]
  | memoryRange hi hs hr => simp [resolve, hi, hs, hr]
  | tableMismatch hi hs => simp [resolve, hi, hs]
  | tableRange hi hs hr => simp [resolve, hi, hs, hr]

/-- Limits do for an import, or they are refused, or the engine breaks off. -/
lemma limits_cases (h : item.HasLimitsFor i) :
    (∃ p, item.ServesAs i.type p) ∨ (∃ e, item.LimitsRefused i e) ∨ item.BreaksOff i := by
  cases h with
  | @memory t required hi =>
    cases hs : t.satisfies required with
    | false => exact .inr (.inl ⟨_, .memoryMismatch hi hs⟩)
    | true =>
      cases hr : t.isInRange with
      | false => exact .inr (.inl ⟨_, .memoryRange hi hs hr⟩)
      | true =>
        cases ha : t.isAccepted with
        | true =>
          rw [hi]
          exact .inl ⟨_, .memory t required hs hr ha⟩
        | false => exact .inr (.inr (.memory hi ⟨hs, hr, t.isAccepted_eq_false_iff.1 ha⟩))
  | @table t required hi =>
    cases hs : t.satisfies required with
    | false => exact .inr (.inl ⟨_, .tableMismatch hi hs⟩)
    | true =>
      cases hr : t.isInRange with
      | false => exact .inr (.inl ⟨_, .tableRange hi hs hr⟩)
      | true =>
        rw [hi]
        exact .inl ⟨_, .table t required hs hr⟩

end HostItem

namespace ImportObject

variable (o : ImportObject σ)

/-- The host's item for an import makes the engine break off. -/
def BreaksOffAt (i : ImportType) : Prop :=
  ∃ item, o.get? i.module i.name = some item ∧ item.BreaksOff i

lemma resolveImport_eq_panic_iff (i : ImportType) :
    o.resolveImport i = .error .panic ↔ o.BreaksOffAt i := by
  unfold BreaksOffAt
  constructor
  · intro h
    obtain ⟨t, hi, -, -⟩ := resolveImport_eq_panic o h
    unfold resolveImport at h
    rw [hi] at h
    exact ⟨_, hi, (HostItem.resolve_eq_panic_iff i _).1 h⟩
  · rintro ⟨item, hi, hitem⟩
    unfold resolveImport
    rw [hi]
    exact (HostItem.resolve_eq_panic_iff i item).2 hitem

/-- The imports before the one that is looked at are served. -/
structure ServesUpTo (m : Module) (i : ImportType) : Prop where
  engine : o.AgreesWith m.engine
  before : ∃ pre post, m.imports = pre ++ i :: post ∧ ∀ j ∈ pre, ∃ p, o.Serves j p

/-- The first import that fails decides. -/
lemma resolve_eq_error {m : Module} {i : ImportType} {e : Refusal} (h : o.ServesUpTo m i)
    (hi : o.resolveImport i = .error e) : o.resolve m = .error e := by
  obtain ⟨hengine, pre, post, himports, hpre⟩ := h
  exact (resolve_eq_error_iff o m e).2 (.inr (.inl ⟨hengine, pre, i, post, himports, hpre, hi⟩))

/-- **Resolving breaks off exactly at a memory that no engine can make.** -/
theorem resolve_eq_panic_iff (m : Module) :
    o.resolve m = .error .panic ↔ ∃ i, o.ServesUpTo m i ∧ o.BreaksOffAt i := by
  constructor
  · intro h
    rcases (resolve_eq_error_iff o m .panic).1 h with
      h | ⟨hengine, pre, i, post, himports, hpre, hi⟩ | ⟨-, -, h⟩
    · unfold checkEngine at h
      grind
    · exact ⟨i, ⟨hengine, pre, post, himports, hpre⟩, (resolveImport_eq_panic_iff o i).1 hi⟩
    · unfold checkUnused at h
      grind
  · rintro ⟨i, hupTo, hi⟩
    exact resolve_eq_error o hupTo ((resolveImport_eq_panic_iff o i).2 hi)

end ImportObject

/-! ### Instantiations -/

namespace World

variable {w : World σ} {m : Module} {o : ImportObject σ}

theorem instantiate_eq_panicked_iff :
    (w.instantiate m o).1 = .panicked ↔
      ((∃ c, w.contextFor o = .ok c) ∧ o.resolve m = .error .panic) ∨
      ∃ c ps g, w.Prepares m o c ps g ∧ w.StartStops m c ps g .panicked := by
  rw [instantiate_eq_iff (by simp)]
  constructor
  · rintro ⟨b, v, h, hb⟩
    cases h with
    | @imports c r hc hr =>
      cases r with
      | link e => cases hb
      | panic => exact .inl ⟨⟨c, hc⟩, hr⟩
    | @start c ps g g₁ s w₁ hp hs =>
      cases startError_eq_panicked_iff.1 hb
      exact .inr ⟨c, ps, g, hp, .of_start hs⟩
    | _ => cases hb
  · rintro (⟨⟨c, hc⟩, hr⟩ | ⟨c, ps, g, hp, hs⟩)
    · exact ⟨_, _, .imports hc hr, rfl⟩
    · obtain ⟨v, hv⟩ := hs.fails hp
      exact ⟨_, _, hv, rfl⟩

/-- **What becomes of the limits that a host offers.** An instantiation breaks off only at a memory
that no engine can make, the imports before it being served, or because a function of the host that
the start function calls breaks off. Where an import asks for a memory or a table and the host has
one, it serves the import, or the host is told of a type that does not match or of limits that are
out of range, under the name of this import; or it is such a memory, and the instantiation breaks
off. -/
theorem host_limits_settled (w : World σ) (m : Module) (o : ImportObject σ) :
    ((w.instantiate m o).1 = .panicked ↔
      ((∃ c, w.contextFor o = .ok c) ∧ ∃ i, o.ServesUpTo m i ∧ o.BreaksOffAt i) ∨
      ∃ c ps g, w.Prepares m o c ps g ∧ w.StartStops m c ps g .panicked) ∧
    ∀ c i item, w.contextFor o = .ok c → o.ServesUpTo m i →
      o.get? i.module i.name = some item → item.HasLimitsFor i →
      (∃ p, o.Serves i p) ∨
      (∃ e, item.LimitsRefused i e ∧ (w.instantiate m o).1 = .refused (.link e)) ∨
      (item.BreaksOff i ∧ (w.instantiate m o).1 = .panicked) := by
  refine ⟨?_, fun c i item hc hupTo hitem hlimits => ?_⟩
  · rw [instantiate_eq_panicked_iff, ImportObject.resolve_eq_panic_iff]
  · have hresolve : o.resolveImport i = item.resolve i := by
      unfold ImportObject.resolveImport
      rw [hitem]
    obtain ⟨p, hp⟩ | ⟨e, he⟩ | hbreak := HostItem.limits_cases i item hlimits
    · exact .inl ⟨p, .item hitem hp⟩
    · refine .inr (.inl ⟨e, he, instantiate_eq_link_iff.2 ⟨⟨c, hc⟩, ?_⟩⟩)
      refine ImportObject.resolve_eq_error o hupTo ?_
      rw [hresolve, HostItem.resolve_of_limitsRefused i item he]
    · refine .inr (.inr ⟨hbreak, instantiate_eq_panicked_iff.2 (.inl ⟨⟨c, hc⟩, ?_⟩)⟩)
      exact (ImportObject.resolve_eq_panic_iff o m).2 ⟨i, hupTo, item, hitem, hbreak⟩

end World

/-- A module that imports a memory of any size. -/
def Module.borrowerDefinition : Definition :=
  { Definition.empty with imports := [⟨"env", "m", .memory ⟨0, none, false, false⟩⟩] }

def Module.borrower : Module where
  engine := .standard 0
  binary := Binary.encode borrowerDefinition .empty
  definition := borrowerDefinition
  code := []
  imports := [⟨"env", "m", .memory ⟨0, none, false, false⟩⟩]
  exports := []
  customs := []
  name := none
  bodies_eq := by decide
  imports_eq := rfl
  exports_eq := rfl

lemma Module.compile_borrower : compile (.standard 0) borrower.binary = .ok borrower :=
  compile_self (m := borrower) (by decide +kernel) (by decide +kernel) (by decide +kernel)
    rfl rfl

/-- A memory with the given limits and nothing else. -/
def ImportObject.lending (minimum : Nat) (maximum : Option Nat) : ImportObject Unit :=
  ImportObject.empty.define "env" "m" (.memory ⟨minimum, maximum, false, false⟩)

lemma ImportObject.get?_lending (minimum : Nat) (maximum : Option Nat) :
    (lending minimum maximum).get? "env" "m" = some (.memory ⟨minimum, maximum, false, false⟩) :=
  Dictionary.find?_insert_self ..

lemma ImportObject.lending_servesUpTo (minimum : Nat) (maximum : Option Nat) :
    (lending minimum maximum).ServesUpTo .borrower
      ⟨"env", "m", .memory ⟨0, none, false, false⟩⟩ :=
  ⟨fun _ hb => (nomatch hb), [], [], rfl, fun _ hj => (nomatch hj)⟩

/-- Limits that 32 bits do not hold are refused by name. -/
theorem World.limits_out_of_range :
    Module.compile (.standard 0) Module.borrower.binary = .ok .borrower ∧
      (World.instantiate (.create () (.ofFiles .empty)) .borrower (.lending (2 ^ 32) none)).1 =
      .refused (.link (.material "env" "m" (.limits (.memory ⟨2 ^ 32, none, false, false⟩)))) := by
  refine ⟨Module.compile_borrower, ?_⟩
  have hrange : (⟨2 ^ 32, none, false, false⟩ : MemoryType).isInRange = false := by decide
  obtain ⟨p, hp⟩ | ⟨e, he, h⟩ | ⟨⟨-, ht⟩, -⟩ :=
    (host_limits_settled (.create () (.ofFiles .empty)) .borrower (.lending (2 ^ 32) none)).2 .empty
      _ _ rfl (ImportObject.lending_servesUpTo ..) (ImportObject.get?_lending ..) (.memory rfl)
  · cases hp with
    | item hi hs =>
      cases hi.symm.trans (ImportObject.get?_lending _ _)
      cases hs with
      | memory _ _ _ hr => exact absurd hr (by rw [hrange]; simp)
    | generated _ hb => cases hb
  · cases he with
    | memoryMismatch hi hs =>
      cases hi
      cases hs
    | memoryRange => exact h
  · exact absurd ht.inRange (by rw [hrange]; simp)

/-- A memory of more than 65536 pages, or one whose maximum is below its minimum, makes the
instantiation break off, though the import takes any size. -/
theorem World.limits_break_off :
    Module.compile (.standard 0) Module.borrower.binary = .ok .borrower ∧
      (World.instantiate (.create () (.ofFiles .empty)) .borrower (.lending 65537 none)).1 =
        .panicked ∧
      (World.instantiate (.create () (.ofFiles .empty)) .borrower (.lending 2 (some 1))).1 =
        .panicked := by
  have hbreak : ∀ minimum maximum,
      (⟨minimum, maximum, false, false⟩ : MemoryType).Unmakeable ⟨0, none, false, false⟩ →
      (World.instantiate (.create () (.ofFiles .empty)) .borrower (.lending minimum maximum)).1 =
        .panicked := by
    intro minimum maximum h
    refine instantiate_eq_panicked_iff.2 (.inl ⟨⟨.empty, rfl⟩, ?_⟩)
    exact (ImportObject.resolve_eq_panic_iff ..).2
      ⟨_, ImportObject.lending_servesUpTo .., _, ImportObject.get?_lending .., .memory rfl h⟩
  exact ⟨Module.compile_borrower, hbreak _ _ ⟨rfl, rfl, .inl (by decide)⟩,
    hbreak _ _ ⟨rfl, rfl, .inr ⟨1, rfl, .inr (by decide)⟩⟩⟩

end Embedder
