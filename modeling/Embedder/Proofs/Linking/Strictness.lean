import Embedder.Proofs.Linking.Rules
import Embedder.Proofs.Wasi.Texts

/-!
# Strict objects

A strict object is refused where an item of the host is not asked for. The error names the least
such item, so it depends on the items alone and not on the order in which the object got them.

* `ImportObject.BytesLe`: the order of items, by the bytes of namespace and name;
* `ImportObject.LeastUnused`, `ImportObject.checkUnused_eq_error_iff`: what the check reports;
* `ImportObject.Alike`, `ImportObject.Alike.resolve_eq`: objects that offer the same resolve alike;
* `ImportObject.ChecksOnceMore`, `ImportObject.strict_adds_one_check`: what an object does in strict
  mode, told by what it does else.
-/

namespace Embedder

open Wasi.Calling (utf8)

variable {σ : Type}

namespace ImportObject

/-! ### The order of items -/

/-- Namespaces are compared first, then names, both byte by byte. -/
def BytesLe (k l : String × String) : Prop :=
  utf8 k.1 < utf8 l.1 ∨ k.1 = l.1 ∧ utf8 k.2 ≤ utf8 l.2

lemma entryLe_eq_true_iff {k l : String × String} : entryLe k l = true ↔ BytesLe k l := by
  unfold entryLe BytesLe
  rw [Wasi.utf8_lt_iff, Wasi.utf8_le_iff]
  simp

lemma entryLe_iff {k l : String × String} :
    entryLe k l = true ↔ k.1 < l.1 ∨ k.1 = l.1 ∧ k.2 ≤ l.2 := by
  simp [entryLe]

lemma entryLe_trans (j k l : String × String) (hjk : entryLe j k = true)
    (hkl : entryLe k l = true) : entryLe j l = true := by
  rw [entryLe_iff] at hjk hkl ⊢
  rcases hjk with hjk | ⟨hjk, hnames⟩
  · rcases hkl with hkl | ⟨hkl, -⟩
    · exact .inl (hjk.trans hkl)
    · exact .inl (hkl ▸ hjk)
  · rcases hkl with hkl | ⟨hkl, hnames'⟩
    · exact .inl (hjk ▸ hkl)
    · exact .inr ⟨hjk.trans hkl, hnames.trans hnames'⟩

lemma entryLe_total (k l : String × String) : (entryLe k l || entryLe l k) = true := by
  rw [Bool.or_eq_true, entryLe_iff, entryLe_iff]
  rcases lt_trichotomy k.1 l.1 with h | h | h
  · exact .inl (.inl h)
  · exact (le_total k.2 l.2).imp (fun hle => .inr ⟨h, hle⟩) fun hle => .inr ⟨h.symm, hle⟩
  · exact .inr (.inl h)

lemma entryLe_antisymm {k l : String × String} (hkl : entryLe k l = true)
    (hlk : entryLe l k = true) : k = l := by
  rw [entryLe_iff] at hkl hlk
  rcases hkl with hkl | ⟨hkl, hle⟩
  · rcases hlk with hlk | ⟨hlk, -⟩
    · exact absurd hlk hkl.asymm
    · exact absurd (hlk ▸ hkl) (lt_irrefl _)
  · rcases hlk with hlk | ⟨-, hge⟩
    · exact absurd (hkl ▸ hlk) (lt_irrefl _)
    · exact Prod.ext hkl (le_antisymm hle hge)

/-! ### The least item that nothing asks for -/

/-- An item of the host that no import asks for. -/
def Unused (o : ImportObject σ) (is : List ImportType) (k : String × String) : Prop :=
  (o.get? k.1 k.2).isSome ∧ ∀ i ∈ is, (i.module, i.name) ≠ k

/-- No other such item comes before it. -/
structure LeastUnused (o : ImportObject σ) (is : List ImportType) (k : String × String) :
    Prop where
  unused : o.Unused is k
  le : ∀ l, o.Unused is l → BytesLe k l

variable {o o' : ImportObject σ} {is : List ImportType}

lemma LeastUnused.unique {k l : String × String} (hk : o.LeastUnused is k)
    (hl : o.LeastUnused is l) : k = l :=
  entryLe_antisymm (entryLe_eq_true_iff.2 (hk.le l hl.unused))
    (entryLe_eq_true_iff.2 (hl.le k hk.unused))

/-- The first item of the sorted list is the least one. -/
lemma leastUnused_of_unused {k : String × String} {ks : List (String × String)}
    (h : o.unused is = k :: ks) : o.LeastUnused is k := by
  have hmem (l : String × String) : l ∈ k :: ks ↔ o.Unused is l := by
    rw [← h]
    exact o.mem_unused_iff is l
  have hsorted : (o.unused is).Pairwise fun a b => entryLe a b = true :=
    List.pairwise_mergeSort entryLe_trans entryLe_total _
  rw [h, List.pairwise_cons] at hsorted
  refine ⟨(hmem k).1 (List.mem_cons_self ..), fun l hl => entryLe_eq_true_iff.1 ?_⟩
  rcases List.mem_cons.1 ((hmem l).2 hl) with rfl | hl
  · simpa using entryLe_total l l
  · exact hsorted.1 l hl

/-- There is a least one unless all are asked for. -/
lemma exists_leastUnused_iff : (∃ k, o.LeastUnused is k) ↔ ¬ o.AllImported is := by
  rw [← unused_eq_nil_iff]
  cases hu : o.unused is with
  | nil =>
    refine iff_of_false ?_ (not_not.2 rfl)
    rintro ⟨k, hk⟩
    have hmem := (o.mem_unused_iff is k).2 hk.unused
    rw [hu] at hmem
    cases hmem
  | cons k ks => exact iff_of_true ⟨k, leastUnused_of_unused hu⟩ (by simp)

/-- **A strict object is refused for the least item that nothing asks for**, and for nothing
else. -/
theorem checkUnused_eq_error_iff (e : Refusal) :
    o.checkUnused is = .error e ↔
      o.strict = true ∧ ∃ k, o.LeastUnused is k ∧ e = .link (.unusedImport k.1 k.2) := by
  unfold checkUnused
  cases hu : o.unused is with
  | nil =>
    have hnone : ¬ ∃ k, o.LeastUnused is k := by
      rw [exists_leastUnused_iff, not_not, ← unused_eq_nil_iff, hu]
    simp only [reduceCtorEq, false_iff]
    rintro ⟨-, k, hk, -⟩
    exact hnone ⟨k, hk⟩
  | cons k ks =>
    have hk := leastUnused_of_unused hu
    cases hs : o.strict with
    | false => simp
    | true =>
      simp only [if_true, Except.error.injEq, true_and]
      constructor
      · rintro rfl
        exact ⟨k, hk, rfl⟩
      · rintro ⟨l, hl, rfl⟩
        rw [hk.unique hl]

/-! ### Objects that offer the same -/

/-- The objects have the same items, know the same namespaces, and agree in everything else. They
may have got all this in another order. -/
structure Alike (o o' : ImportObject σ) : Prop where
  get : ∀ ns name, o.get? ns name = o'.get? ns name
  namespaces : ∀ ns, ns ∈ o.namespaces ↔ ns ∈ o'.namespaces
  wasi : o.wasi = o'.wasi
  strict : o.strict = o'.strict

lemma Alike.setStrict (h : o.Alike o') (strict : Bool) :
    (o.setStrict strict).Alike (o'.setStrict strict) where
  get := h.get
  namespaces := h.namespaces
  wasi := h.wasi
  strict := rfl

/-- What is reported depends on the items alone. -/
lemma LeastUnused.congr (h : ∀ ns name, o.get? ns name = o'.get? ns name) {k : String × String}
    (hk : o.LeastUnused is k) : o'.LeastUnused is k := by
  have hunused (l : String × String) : o'.Unused is l ↔ o.Unused is l := by
    unfold Unused
    rw [h]
  exact ⟨(hunused k).2 hk.unused, fun l hl => hk.le l ((hunused l).1 hl)⟩

lemma leastUnused_congr (h : ∀ ns name, o.get? ns name = o'.get? ns name)
    {k : String × String} : o.LeastUnused is k ↔ o'.LeastUnused is k :=
  ⟨.congr h, .congr fun ns name => (h ns name).symm⟩

/-- **Objects that offer the same resolve every module alike.** -/
theorem Alike.resolve_eq (h : o.Alike o') (m : Module) : o.resolve m = o'.resolve m := by
  have hengine : o.checkEngine m.engine = o'.checkEngine m.engine := by
    unfold checkEngine
    rw [h.wasi]
  have himport : o.resolveImport = o'.resolveImport := by
    funext i
    unfold resolveImport
    simp only [h.get, h.wasi, h.namespaces]
  have hunused : o.checkUnused m.imports = o'.checkUnused m.imports := by
    have herror (e : Refusal) :
        o.checkUnused m.imports = .error e ↔ o'.checkUnused m.imports = .error e := by
      rw [checkUnused_eq_error_iff, checkUnused_eq_error_iff, h.strict]
      refine and_congr_right fun _ => exists_congr fun k => and_congr_left fun _ => ?_
      exact leastUnused_congr h.get
    cases hc : o.checkUnused m.imports with
    | error e => exact ((herror e).1 hc).symm
    | ok u =>
      cases hc' : o'.checkUnused m.imports with
      | error e => rw [(herror e).2 hc'] at hc; cases hc
      | ok u => rfl
  rw [ImportObject.resolve_eq, ImportObject.resolve_eq, hengine, himport, hunused]

/-! ### Strict mode -/

/-- Strictness is nothing that an item shows. -/
@[simp] lemma get?_setStrict (o : ImportObject σ) (strict : Bool) (ns name : String) :
    (o.setStrict strict).get? ns name = o.get? ns name := rfl

/-- Strict mode takes a look at the items when all else is done. -/
lemma resolve_setStrict (o : ImportObject σ) (m : Module) :
    (o.setStrict true).resolve m =
      match (o.setStrict false).resolve m with
      | .error e => .error e
      | .ok ps =>
        match (o.setStrict true).checkUnused m.imports with
        | .error e => .error e
        | .ok () => .ok ps := by
  have hengine :
      (o.setStrict true).checkEngine m.engine = (o.setStrict false).checkEngine m.engine := rfl
  have himport : (o.setStrict true).resolveImport = (o.setStrict false).resolveImport := rfl
  have hlenient : (o.setStrict false).checkUnused m.imports = .ok () :=
    (checkUnused_eq_ok_iff _ _).2 fun hs => (nomatch hs)
  rw [resolve_eq, resolve_eq, hengine, himport, hlenient]
  cases (o.setStrict false).checkEngine m.engine with
  | error e => rfl
  | ok u => cases m.imports.mapM (o.setStrict false).resolveImport <;> rfl

/-- What an object does with a module in strict mode, told by what it does else. -/
structure ChecksOnceMore (o : ImportObject σ) (m : Module) : Prop where
  /-- Any other error comes first. -/
  failed : ∀ e, (o.setStrict false).resolve m = .error e →
    (o.setStrict true).resolve m = .error e
  /-- If all items are asked for, the same things serve the imports. -/
  served : ∀ ps, (o.setStrict false).resolve m = .ok ps → o.AllImported m.imports →
    (o.setStrict true).resolve m = .ok ps
  /-- Otherwise the least item that is not asked for is reported. -/
  refused : ∀ ps, (o.setStrict false).resolve m = .ok ps → ¬ o.AllImported m.imports →
    ∃ ns name, o.LeastUnused m.imports (ns, name) ∧
      (o.setStrict true).resolve m = .error (.link (.unusedImport ns name))
  /-- Only items of the host are reported, and only where there is no other error. -/
  reported : ∀ ns name, (o.setStrict true).resolve m = .error (.link (.unusedImport ns name)) →
    o.LeastUnused m.imports (ns, name) ∧ ∃ ps, (o.setStrict false).resolve m = .ok ps
  /-- A function of the system interface is not, where the host has no item in its place. -/
  generated : ∀ b name, o.wasi = some b → o.get? b.importNamespace name = none →
    (o.setStrict true).resolve m ≠ .error (.link (.unusedImport b.importNamespace name))
  /-- An item of the host in the namespace of the system interface is no exception. -/
  interface : ∀ b name, o.wasi = some b → o.Unused m.imports (b.importNamespace, name) →
    ∀ ps, (o.setStrict false).resolve m = .ok ps → ∃ k, o.LeastUnused m.imports k ∧
      BytesLe k (b.importNamespace, name) ∧
      (o.setStrict true).resolve m = .error (.link (.unusedImport k.1 k.2))
  /-- Nothing counts for the check but which items there are. -/
  items : ∀ o' : ImportObject σ, (∀ ns name, o.get? ns name = o'.get? ns name) → ∀ ps ps',
    (o.setStrict false).resolve m = .ok ps → (o'.setStrict false).resolve m = .ok ps' → ∀ e,
      (o.setStrict true).resolve m = .error e ↔ (o'.setStrict true).resolve m = .error e
  /-- The order in which the object got them does not count for anything. -/
  order : ∀ o' : ImportObject σ, o.Alike o' → ∀ strict,
    (o.setStrict strict).resolve m = (o'.setStrict strict).resolve m

/-- The check fails in strict mode exactly if there is an item to report. -/
lemma checkUnused_setStrict_iff {e : Refusal} :
    (o.setStrict true).checkUnused is = .error e ↔
      ∃ k, o.LeastUnused is k ∧ e = .link (.unusedImport k.1 k.2) := by
  have hsame (k : String × String) : (o.setStrict true).LeastUnused is k ↔ o.LeastUnused is k :=
    leastUnused_congr (get?_setStrict o true)
  rw [checkUnused_eq_error_iff]
  simp only [hsame]
  exact and_iff_right rfl

/-- Where all imports are served, the least item that nothing asks for is the only error. -/
lemma resolve_setStrict_eq_error_iff {m : Module} {ps : List (Provided σ)}
    (h : (o.setStrict false).resolve m = .ok ps) {e : Refusal} :
    (o.setStrict true).resolve m = .error e ↔
      ∃ k, o.LeastUnused m.imports k ∧ e = .link (.unusedImport k.1 k.2) := by
  rw [resolve_setStrict, h, ← checkUnused_setStrict_iff]
  cases (o.setStrict true).checkUnused m.imports <;> simp

/-- No single import fails for an item that another one asks for. -/
lemma resolveImport_ne_unusedImport (o : ImportObject σ) (i : ImportType) (ns name : String) :
    o.resolveImport i ≠ .error (.link (.unusedImport ns name)) := by
  intro h
  unfold resolveImport at h
  split at h
  · unfold HostItem.resolve at h
    grind
  · unfold Wasi.Binding.resolve at h
    grind

/-- Without strict mode an unused item is no error. -/
lemma resolve_ne_unusedImport (o : ImportObject σ) (m : Module) (ns name : String) :
    (o.setStrict false).resolve m ≠ .error (.link (.unusedImport ns name)) := by
  rw [Ne, resolve_eq_error_iff]
  rintro (h | ⟨-, -, i, -, -, -, h⟩ | ⟨-, -, h⟩)
  · unfold checkEngine at h
    grind
  · exact resolveImport_ne_unusedImport _ i ns name h
  · obtain ⟨hs, -⟩ := (checkUnused_eq_error_iff _).1 h
    cases hs

/-- **Strict mode adds one check**, which does not depend on the order of the items. -/
theorem strict_adds_one_check (o : ImportObject σ) (m : Module) : o.ChecksOnceMore m := by
  have hfailed {e : Refusal} (h : (o.setStrict false).resolve m = .error e) :
      (o.setStrict true).resolve m = .error e := by
    rw [resolve_setStrict, h]
  have hrefused {ps : List (Provided σ)} (h : (o.setStrict false).resolve m = .ok ps)
      {k : String × String} (hk : o.LeastUnused m.imports k) :
      (o.setStrict true).resolve m = .error (.link (.unusedImport k.1 k.2)) :=
    (resolve_setStrict_eq_error_iff h).2 ⟨k, hk, rfl⟩
  have hreported {ns name : String}
      (h : (o.setStrict true).resolve m = .error (.link (.unusedImport ns name))) :
      o.LeastUnused m.imports (ns, name) ∧ ∃ ps, (o.setStrict false).resolve m = .ok ps := by
    cases hl : (o.setStrict false).resolve m with
    | error e =>
      -- then strict mode has the same error, which is not about an item
      rw [hfailed hl] at h
      cases h
      exact absurd hl (resolve_ne_unusedImport o m ns name)
    | ok ps =>
      obtain ⟨k, hk, he⟩ := (resolve_setStrict_eq_error_iff hl).1 h
      cases he
      exact ⟨hk, ps, rfl⟩
  refine
    { failed := fun e => hfailed, served := ?_, refused := ?_, reported := fun ns name => hreported
      generated := ?_, interface := ?_, items := ?_, order := ?_ }
  · intro ps hps hall
    have hcheck : (o.setStrict true).checkUnused m.imports = .ok () :=
      (checkUnused_eq_ok_iff _ _).2 fun _ => hall
    rw [resolve_setStrict, hps, hcheck]
  · intro ps hps hall
    obtain ⟨k, hk⟩ := exists_leastUnused_iff.2 hall
    exact ⟨k.1, k.2, hk, hrefused hps hk⟩
  · intro b name _ hnone h
    have hsome := (hreported h).1.unused.1
    rw [hnone] at hsome
    cases hsome
  · intro b name _ hunused ps hps
    have hall : ¬ o.AllImported m.imports := fun hall => by
      obtain ⟨i, hi, hm, hn⟩ := hall _ _ hunused.1
      exact hunused.2 i hi (Prod.ext hm hn)
    obtain ⟨k, hk⟩ := exists_leastUnused_iff.2 hall
    exact ⟨k, hk, hk.le _ hunused, hrefused hps hk⟩
  · intro o' hget ps ps' hps hps' e
    rw [resolve_setStrict_eq_error_iff hps, resolve_setStrict_eq_error_iff hps']
    exact exists_congr fun k => and_congr_left fun _ => leastUnused_congr hget
  · intro o' h strict
    exact (h.setStrict strict).resolve_eq m

end ImportObject

end Embedder
