import Embedder.Proofs.Linking.Materials
import Embedder.Proofs.Linking.Substitution
import Embedder.Proofs.Types.Notation

/-!
# Types that do not fit

An import that asks for a type and gets an item of its kind with another type is refused with both
types as texts. The texts are compared by whoever reads the message, the types by the resolution.

* `EntityType.signature_eq_iff`: which types of a kind have one text;
* `ImportObject.Offers`: the type of what there is for an import, whether it fits or not;
* `ImportObject.resolveImport_eq_mismatch`, `ImportObject.resolve_eq_mismatch`: where the error comes
  from;
* `ImportObject.mismatch_tells_types_apart`: whether its texts differ.
-/

namespace Embedder

variable {σ : Type}

/-- **Types of one kind have texts of their own**, but for memories that differ in nothing but the size
of their addresses. -/
theorem EntityType.signature_eq_iff {t t' : EntityType} (hkind : t.kind = t'.kind) (hne : t ≠ t') :
    t.signature = t'.signature ↔
      ∃ m : MemoryType, t = .memory m ∧ t' = .memory { m with memory64 := !m.memory64 } := by
  have hapart (h : t.signature ≠ t'.signature) (ht : ∀ m, t ≠ .memory m) :
      t.signature = t'.signature ↔
        ∃ m : MemoryType, t = .memory m ∧ t' = .memory { m with memory64 := !m.memory64 } :=
    iff_of_false h fun ⟨m, hm, _⟩ => ht m hm
  cases t with
  | function f =>
    cases t' with
    | function f' =>
      exact hapart (fun h => hne (congrArg _ (FunctionType.text_injective h))) fun _ => nofun
    | _ => cases hkind
  | global g =>
    cases t' with
    | global g' =>
      exact hapart (fun h => hne (congrArg _ (GlobalType.text_injective h))) fun _ => nofun
    | _ => cases hkind
  | table t =>
    cases t' with
    | table t' =>
      exact hapart (fun h => hne (congrArg _ (TableType.text_injective h))) fun _ => nofun
    | _ => cases hkind
  | memory m =>
    cases t' with
    | memory m' =>
      constructor
      · intro h
        obtain ⟨hlimits, hshared⟩ := MemoryType.text_eq_iff.1 h
        obtain ⟨minimum, maximum, shared, memory64⟩ := m
        obtain ⟨minimum', maximum', shared', memory64'⟩ := m'
        obtain ⟨rfl, rfl⟩ := Limits.mk.inj hlimits
        obtain rfl : shared = shared' := hshared
        have hwidth : memory64' = !memory64 := by
          cases memory64 <;> cases memory64' <;> first | rfl | exact absurd rfl hne
        exact ⟨_, rfl, by rw [hwidth]⟩
      · rintro ⟨m, hm, hm'⟩
        cases hm
        cases hm'
        exact MemoryType.text_eq_iff.2 ⟨rfl, rfl⟩
    | _ => cases hkind

namespace ImportObject

variable {o : ImportObject σ}

/-! ### Where the error comes from -/

/-- The type of what there is for an import: an item of the host, or else a function of the system
interface. -/
inductive Offers (o : ImportObject σ) (i : ImportType) : EntityType → Prop
  | item {item : HostItem σ} (hi : o.get? i.module i.name = some item) : Offers o i item.type
  | generated {b : Wasi.Binding} {f : Wasi.Function} (hi : o.get? i.module i.name = none)
      (hb : o.wasi = some b) (hn : b.importNamespace = i.module)
      (hf : Wasi.Function.find? b.version i.name = some f) : Offers o i (.function f.type)

variable {ns name : String} {expected actual : EntityType}

lemma resolve_eq_mismatch_of_item {i : ImportType} {item : HostItem σ}
    (h : item.resolve i = .error (.link (.signatureMismatch ns name expected actual))) :
    i = ⟨ns, name, expected⟩ ∧ item.type = actual ∧ expected.kind = actual.kind ∧
      expected ≠ actual := by
  unfold HostItem.resolve at h
  split at h
  · rename_i required f hi
    split at h
    · cases h
    · rename_i hne
      cases h
      exact ⟨by rw [← hi], rfl, rfl, fun he => hne (EntityType.function.inj he).symm⟩
  · rename_i required t v hi
    split at h
    · split at h <;> cases h
    · rename_i hne
      cases h
      exact ⟨by rw [← hi], rfl, rfl, fun he => hne (EntityType.global.inj he).symm⟩
  · rename_i required t hi
    split at h
    · split at h
      · split at h <;> cases h
      · cases h
    · rename_i hne
      cases h
      refine ⟨by rw [← hi], rfl, rfl, fun he => hne ?_⟩
      rw [EntityType.memory.inj he]
      exact MemoryType.included.refl t
  · rename_i required t hi
    split at h
    · split at h <;> cases h
    · rename_i hne
      cases h
      refine ⟨by rw [← hi], rfl, rfl, fun he => hne ?_⟩
      rw [EntityType.table.inj he]
      exact TableType.included.refl t
  · cases h

/-- **A single import is refused for its type only if there is something of its kind that has another
type.** -/
theorem resolveImport_eq_mismatch {i : ImportType}
    (h : o.resolveImport i = .error (.link (.signatureMismatch ns name expected actual))) :
    i = ⟨ns, name, expected⟩ ∧ o.Offers i actual ∧ expected.kind = actual.kind ∧
      expected ≠ actual := by
  unfold resolveImport at h
  split at h
  · rename_i item hitem
    obtain ⟨hi, htype, hrest⟩ := resolve_eq_mismatch_of_item h
    exact ⟨hi, htype ▸ .item hitem, hrest⟩
  · rename_i hnone
    split at h
    · rename_i b hb
      obtain ⟨hb, hn⟩ := Option.filter_eq_some_iff.1 hb
      unfold Wasi.Binding.resolve at h
      split at h
      · cases h
      · rename_i f hf
        split at h
        · rename_i required hi
          split at h
          · cases h
          · rename_i hne
            cases h
            refine ⟨by rw [← hi], .generated hnone hb (beq_iff_eq.1 hn) hf, rfl, fun he => ?_⟩
            exact hne (EntityType.function.inj he).symm
        · cases h
    · split at h <;> cases h

/-- The other checks of a resolution do not look at types. -/
theorem resolve_eq_mismatch {m : Module}
    (h : o.resolve m = .error (.link (.signatureMismatch ns name expected actual))) :
    (⟨ns, name, expected⟩ : ImportType) ∈ m.imports ∧ o.Offers ⟨ns, name, expected⟩ actual ∧
      expected.kind = actual.kind ∧ expected ≠ actual := by
  rcases (resolve_eq_error_iff o m _).1 h with h | ⟨-, pre, i, post, hm, -, hi⟩ | ⟨-, -, h⟩
  · unfold checkEngine at h
    grind
  · obtain ⟨rfl, hrest⟩ := resolveImport_eq_mismatch hi
    exact ⟨by simp [hm], hrest⟩
  · unfold checkUnused at h
    grind

/-! ### What it tells -/

/-- **A type that does not fit is shown with a text of its own**, next to that of the type that is asked
for. There is one exception: a memory that would be the one that is asked for if its addresses had
another size has the text of the memory that is asked for. So functions, those of the system interface
among them, globals and tables are always told apart, and so are memories of one address size. -/
theorem mismatch_tells_types_apart {m : Module}
    (h : o.resolve m = .error (.link (.signatureMismatch ns name expected actual))) :
    (⟨ns, name, expected⟩ : ImportType) ∈ m.imports ∧ o.Offers ⟨ns, name, expected⟩ actual ∧
      expected.kind = actual.kind ∧ expected ≠ actual ∧
      (expected.signature = actual.signature ↔
        ∃ t : MemoryType, expected = .memory t ∧ actual = .memory { t with memory64 := !t.memory64 }) := by
  obtain ⟨himport, hoffers, hkind, hne⟩ := resolve_eq_mismatch h
  exact ⟨himport, hoffers, hkind, hne, EntityType.signature_eq_iff hkind hne⟩

/-- An object that has one memory to offer. -/
def ofMemory (t : MemoryType) : ImportObject Unit := empty.define "env" "m" (.memory t)

lemma resolve_ofMemory {t : MemoryType} (ht : t.satisfies ⟨0, none, false, false⟩ = false) :
    (ofMemory t).resolve .borrower =
      .error (.link (.signatureMismatch "env" "m" (.memory ⟨0, none, false, false⟩) (.memory t))) := by
  have hitem : (ofMemory t).get? "env" "m" = some (.memory t) := Dictionary.find?_insert_self ..
  refine (resolve_eq_error_iff ..).2 (.inr (.inl ⟨fun _ hb => (nomatch hb), [], _, [], rfl,
    fun _ hj => (nomatch hj), ?_⟩))
  simp [resolveImport, hitem, HostItem.resolve, ht]

/-- A shared memory in place of one that is not shared. -/
theorem shared_memory_is_shown :
    ∃ (expected actual : MemoryType), (ofMemory ⟨1, some 2, true, false⟩).resolve .borrower =
        .error (.link (.signatureMismatch "env" "m" (.memory expected) (.memory actual))) ∧
      expected.text = "memory 0" ∧ actual.text = "memory 1 2 shared" ∧
      (EntityType.memory expected).signature ≠ (EntityType.memory actual).signature := by
  have h := resolve_ofMemory (t := ⟨1, some 2, true, false⟩) (by decide)
  refine ⟨_, _, h, by decide, by decide, fun htext => ?_⟩
  obtain ⟨-, -, -, -, hiff⟩ := mismatch_tells_types_apart h
  obtain ⟨t, ht, ht'⟩ := hiff.1 htext
  cases ht
  cases ht'

/-- A memory with addresses of 64 bits in place of one with addresses of 32 bits: the message says that
memory 0 was expected and that memory 0 was got. -/
theorem address_size_is_not_shown :
    ∃ (expected actual : EntityType), (ofMemory ⟨0, none, false, true⟩).resolve .borrower =
        .error (.link (.signatureMismatch "env" "m" expected actual)) ∧
      expected.signature = "memory 0" ∧ actual.signature = "memory 0" := by
  exact ⟨_, _, resolve_ofMemory (by decide), by decide, by decide⟩

end ImportObject

end Embedder
