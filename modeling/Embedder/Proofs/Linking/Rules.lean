import Embedder.ImportObject.Resolution
import Embedder.Proofs.Lists

/-!
# The rules by which imports are served

* `HostItem.ServesAs`: what an item of the host serves as where a type is asked for;
* `ImportObject.Serves`: what serves an import, an item of the host or else a function of the system
  interface;
* `ImportObject.resolveImport_eq_ok_iff`: a single import is resolved by the rules;
* `ImportObject.resolve_eq_ok_iff`: a module is resolved if the engine agrees, all its imports are
  served and, in strict mode, all items are asked for;
* `ImportObject.resolve_decided_by_rules`: the same with what serves each import, and with what
  else can happen.
-/

namespace Embedder

open Elementwise

variable {σ : Type}

/-! ### The rules -/

/-- What an item serves as where a type is asked for. It has the kind that is asked for and, if it
is a function or a global, the same type; the limits of a memory or a table satisfy the ones that
are asked for, and the engine has them. -/
inductive HostItem.ServesAs : HostItem σ → EntityType → Provided σ → Prop
  | function (f : HostFunction σ) : ServesAs (.function f) (.function f.type) (.host f)
  | global (t : GlobalType) (v : Value) (hv : v.type = t.value) :
      ServesAs (.global t v) (.global t) (.global t v)
  | memory (t required : MemoryType) (hs : t.satisfies required) (hr : t.isInRange)
      (ha : t.isAccepted) : ServesAs (.memory t) (.memory required) (.memory t)
  | table (t required : TableType) (hs : t.satisfies required) (hr : t.isInRange) :
      ServesAs (.table t) (.table required) (.table t)

namespace ImportObject

/-- What serves an import. A function of the system interface does so only where the host has no
item at all. -/
inductive Serves (o : ImportObject σ) (i : ImportType) : Provided σ → Prop
  | item {item : HostItem σ} {p : Provided σ} (hi : o.get? i.module i.name = some item)
      (hp : item.ServesAs i.type p) : Serves o i p
  | generated {b : Wasi.Binding} {f : Wasi.Function} (hi : o.get? i.module i.name = none)
      (hb : o.wasi = some b) (hn : b.importNamespace = i.module)
      (hf : Wasi.Function.find? b.version i.name = some f) (ht : i.type = .function f.type) :
      Serves o i (.generated b.version f)

/-- The system interface, if there is one, is for this engine. -/
def AgreesWith (o : ImportObject σ) (e : Engine) : Prop :=
  ∀ b, o.wasi = some b → b.engine = e.number

/-- Every item is asked for by an import. -/
def AllImported (o : ImportObject σ) (is : List ImportType) : Prop :=
  ∀ ns name, (o.get? ns name).isSome → ∃ i ∈ is, i.module = ns ∧ i.name = name

end ImportObject

/-! ### One import -/

theorem HostItem.resolve_eq_ok_iff (i : ImportType) (item : HostItem σ) (p : Provided σ) :
    item.resolve i = .ok p ↔ item.ServesAs i.type p := by
  constructor
  · intro h
    unfold HostItem.resolve at h
    split at h
    · rename_i required f ht
      split at h
      · rename_i hf
        cases h
        rw [ht, ← hf]
        exact .function f
      · cases h
    · rename_i required t v ht
      split at h
      · rename_i hg
        split at h
        · rename_i hv
          cases h
          rw [ht, ← hg]
          exact .global t v hv
        · cases h
      · cases h
    · rename_i required t ht
      rw [ht]
      grind [HostItem.ServesAs]
    · rename_i required t ht
      rw [ht]
      grind [HostItem.ServesAs]
    · cases h
  · intro h
    unfold HostItem.resolve
    generalize ht : i.type = type at h
    cases h with
    | function f => simp
    | global t v hv => simp [hv]
    | memory t required hs hr ha => simp [hs, hr, ha]
    | table t required hs hr => simp [hs, hr]

theorem Wasi.Binding.resolve_eq_ok_iff (i : ImportType) (b : Wasi.Binding) (p : Provided σ) :
    b.resolve i = .ok p ↔
      ∃ f, Wasi.Function.find? b.version i.name = some f ∧ i.type = .function f.type ∧
        p = .generated b.version f := by
  unfold Wasi.Binding.resolve
  cases hf : Wasi.Function.find? b.version i.name with
  | none => simp
  | some f =>
    cases ht : i.type with
    | function required =>
      by_cases h : f.type = required
      · simp [h, eq_comm]
      · simp [h, Ne.symm h]
    | memory t => simp
    | global t => simp
    | table t => simp

namespace ImportObject

variable (o : ImportObject σ)

theorem resolveImport_eq_ok_iff (i : ImportType) (p : Provided σ) :
    o.resolveImport i = .ok p ↔ o.Serves i p := by
  unfold resolveImport
  cases hi : o.get? i.module i.name with
  | some item =>
    simp only
    rw [HostItem.resolve_eq_ok_iff]
    constructor
    · exact Serves.item hi
    · intro h
      cases h with
      | item hi' hp =>
        rw [hi, Option.some.injEq] at hi'
        subst hi'
        exact hp
      | generated hi' => rw [hi] at hi'; cases hi'
  | none =>
    simp only
    constructor
    · intro h
      cases hb : o.wasi.filter fun b => b.importNamespace == i.module with
      | none =>
        rw [hb] at h
        simp only at h
        split at h <;> cases h
      | some b =>
        rw [hb] at h
        obtain ⟨f, hf, ht, rfl⟩ := (Wasi.Binding.resolve_eq_ok_iff i b p).1 h
        obtain ⟨hw, hn⟩ := Option.filter_eq_some_iff.1 hb
        exact .generated hi hw (by simpa using hn) hf ht
    · intro h
      cases h with
      | item hi' => rw [hi] at hi'; cases hi'
      | @generated b f _ hb hn hf ht =>
        have hfilter : (o.wasi.filter fun b => b.importNamespace == i.module) = some b := by
          rw [hb, Option.filter_some, if_pos (by simpa using hn)]
        rw [hfilter]
        exact (Wasi.Binding.resolve_eq_ok_iff i b _).2 ⟨f, hf, ht, rfl⟩

/-! ### The module as a whole -/

theorem checkEngine_eq_ok_iff (e : Engine) : o.checkEngine e = .ok () ↔ o.AgreesWith e := by
  unfold checkEngine AgreesWith
  cases o.wasi with
  | none => simp
  | some b => by_cases h : b.engine = e.number <;> simp [h]

theorem mem_unused_iff (is : List ImportType) (k : String × String) :
    k ∈ o.unused is ↔ (o.get? k.1 k.2).isSome ∧ ∀ i ∈ is, (i.module, i.name) ≠ k := by
  unfold unused get?
  rw [List.mem_mergeSort, List.mem_filter, Dictionary.mem_keys_iff]
  simp

theorem unused_eq_nil_iff (is : List ImportType) : o.unused is = [] ↔ o.AllImported is := by
  rw [List.eq_nil_iff_forall_not_mem]
  unfold AllImported
  constructor
  · intro h ns name hk
    by_contra hno
    refine h (ns, name) ((mem_unused_iff o is _).2 ⟨hk, fun i hi heq => hno ⟨i, hi, ?_⟩⟩)
    exact ⟨congrArg Prod.fst heq, congrArg Prod.snd heq⟩
  · intro h k hk
    obtain ⟨hs, hne⟩ := (mem_unused_iff o is k).1 hk
    obtain ⟨i, hi, hm, hn⟩ := h k.1 k.2 hs
    exact hne i hi (by rw [hm, hn])

theorem checkUnused_eq_ok_iff (is : List ImportType) :
    o.checkUnused is = .ok () ↔ (o.strict = true → o.AllImported is) := by
  unfold checkUnused
  cases hu : o.unused is with
  | nil => simp [(unused_eq_nil_iff o is).1 hu]
  | cons k ks =>
    have hno : ¬ o.AllImported is := by
      rw [← unused_eq_nil_iff, hu]
      simp
    cases hs : o.strict <;> simp [hno]

/-- Resolving a module in its three steps. -/
theorem resolve_eq (m : Module) :
    o.resolve m =
      match o.checkEngine m.engine with
      | .error e => .error e
      | .ok () =>
        match m.imports.mapM o.resolveImport with
        | .error e => .error e
        | .ok ps =>
          match o.checkUnused m.imports with
          | .error e => .error e
          | .ok () => .ok ps := by
  unfold resolve
  cases o.checkEngine m.engine with
  | error e => rfl
  | ok u =>
    cases m.imports.mapM o.resolveImport with
    | error e => rfl
    | ok ps => cases o.checkUnused m.imports <;> rfl

theorem resolve_eq_ok_iff (m : Module) (ps : List (Provided σ)) :
    o.resolve m = .ok ps ↔
      o.AgreesWith m.engine ∧ List.Forall₂ o.Serves m.imports ps ∧
        (o.strict = true → o.AllImported m.imports) := by
  have hserves : m.imports.mapM o.resolveImport = .ok ps ↔ List.Forall₂ o.Serves m.imports ps := by
    rw [mapM_eq_ok_iff]
    simp only [resolveImport_eq_ok_iff]
  rw [resolve_eq, ← checkEngine_eq_ok_iff, ← hserves, ← checkUnused_eq_ok_iff]
  cases o.checkEngine m.engine with
  | error e => simp
  | ok u =>
    cases m.imports.mapM o.resolveImport with
    | error e => simp
    | ok qs => cases o.checkUnused m.imports <;> simp

/-- The engine is looked at first, then the imports in their order, then the items that nothing
asks for. -/
theorem resolve_eq_error_iff (m : Module) (e : Refusal) :
    o.resolve m = .error e ↔
      o.checkEngine m.engine = .error e ∨
      (o.AgreesWith m.engine ∧ ∃ pre i post, m.imports = pre ++ i :: post ∧
        (∀ j ∈ pre, ∃ p, o.Serves j p) ∧ o.resolveImport i = .error e) ∨
      (o.AgreesWith m.engine ∧ (∀ i ∈ m.imports, ∃ p, o.Serves i p) ∧
        o.checkUnused m.imports = .error e) := by
  simp only [← resolveImport_eq_ok_iff, ← mapM_eq_error_iff]
  rw [← checkEngine_eq_ok_iff, resolve_eq]
  cases o.checkEngine m.engine with
  | error e' => simp
  | ok u =>
    cases hps : m.imports.mapM o.resolveImport with
    | error e' =>
      have hno : ¬ ∀ i ∈ m.imports, ∃ p, o.resolveImport i = .ok p := by
        rw [← exists_forall₂_iff]
        simp [← mapM_eq_ok_iff, hps]
      simp [hno]
    | ok ps =>
      have hall : ∀ i ∈ m.imports, ∃ p, o.resolveImport i = .ok p :=
        exists_forall₂_iff.1 ⟨ps, mapM_eq_ok_iff.1 hps⟩
      cases o.checkUnused m.imports with
      | error e' => simpa using fun _ : e' = e => hall
      | ok u => simp

/-- A module without imports needs nothing of the host. -/
lemma resolve_empty {m : Module} (h : m.imports = []) : (empty : ImportObject σ).resolve m = .ok [] := by
  rw [resolve_eq_ok_iff, h]
  exact ⟨fun b hb => (nomatch hb), .nil, fun hs => (nomatch hs)⟩

/-- An object without items serves no import. -/
lemma imports_of_resolve_empty {m : Module} {ps : List (Provided σ)}
    (h : (empty : ImportObject σ).resolve m = .ok ps) : m.imports = [] := by
  obtain ⟨-, hserves, -⟩ := (resolve_eq_ok_iff ..).1 h
  cases himports : m.imports with
  | nil => rfl
  | cons i is =>
    rw [himports] at hserves
    cases hserves with
    | cons hi _ =>
      cases hi with
      | item hitem => cases hitem
      | generated _ hb => cases hb

/-- The rules leave no choice. -/
theorem Serves.unique {i : ImportType} {p q : Provided σ} (hp : o.Serves i p)
    (hq : o.Serves i q) : p = q := by
  rw [← resolveImport_eq_ok_iff] at hp hq
  exact Except.ok.inj (hp.symm.trans hq)

/-! ### Breaking off -/

/-- Only limits of a memory that can be handed to the engine, but that it has no type for, make the
host break off. -/
theorem resolveImport_eq_panic {i : ImportType} (h : o.resolveImport i = .error .panic) :
    ∃ t, o.get? i.module i.name = some (.memory t) ∧ t.isInRange = true ∧ t.isAccepted = false := by
  unfold resolveImport at h
  split at h
  · rename_i item hi
    rw [hi]
    unfold HostItem.resolve at h
    grind
  · unfold Wasi.Binding.resolve at h
    grind

theorem resolve_eq_panic {m : Module} (h : o.resolve m = .error .panic) :
    ∃ i ∈ m.imports, ∃ t, o.get? i.module i.name = some (.memory t) ∧ t.isInRange = true ∧
      t.isAccepted = false := by
  rcases (resolve_eq_error_iff o m .panic).1 h with h | ⟨-, pre, i, post, hm, -, hi⟩ | ⟨-, -, h⟩
  · unfold checkEngine at h
    grind
  · exact ⟨i, by simp [hm], resolveImport_eq_panic o hi⟩
  · unfold checkUnused at h
    grind

/-- **A module is resolved exactly by the rules.** There is an answer if and only if the engine
agrees, every import is served, and a strict object has all its items asked for. The answer holds
for each import, in order, the one thing that serves it. There is no other ending than a link error,
except where the engine has no type for the limits of a memory. -/
theorem resolve_decided_by_rules (m : Module) :
    ((∃ ps, o.resolve m = .ok ps) ↔
      o.AgreesWith m.engine ∧ (∀ i ∈ m.imports, ∃ p, o.Serves i p) ∧
        (o.strict = true → o.AllImported m.imports)) ∧
    (∀ ps, o.resolve m = .ok ps →
      List.Forall₂ (fun i p => o.Serves i p ∧ ∀ q, o.Serves i q → q = p) m.imports ps) ∧
    (o.resolve m = .error .panic →
      ∃ i ∈ m.imports, ∃ t, o.get? i.module i.name = some (.memory t) ∧ t.isInRange = true ∧
        t.isAccepted = false) := by
  refine ⟨?_, fun ps h => ?_, resolve_eq_panic o⟩
  · simp only [resolve_eq_ok_iff, ← exists_forall₂_iff, exists_and_left, exists_and_right]
  · obtain ⟨-, hserves, -⟩ := (resolve_eq_ok_iff o m ps).1 h
    exact hserves.imp fun i p hp => ⟨hp, fun q hq => hq.unique o hp⟩

end ImportObject

end Embedder
