import Embedder.Proofs.Linking.Matching
import Embedder.Proofs.Linking.Objects

/-!
# Standing in for an item

The limits of a memory or a table satisfy others if they allow no more sizes. A size is any number,
so limits without a maximum allow more than any with one. An item that serves where the type of
another is asked for can take its place.

* `Limits.matches_iff_allows`: the comparison of limits is inclusion of the sizes they allow;
* `Limits.Included`: a comparison of types that is equality of one part and inclusion of the limits;
* `HostItem.ServesAs.trans`: what serves in place of an item serves all that the item serves;
* `ImportObject.resolve_define`: a module that was resolved is so with the item that stands in;
* `ImportObject.smaller_limits_stand_in`: inclusion, and what it means for memories and tables.
-/

namespace Embedder

variable {σ : Type}

/-! ### Inclusion of limits -/

namespace Limits

variable {p q r : Limits}

lemma Matches.refl (p : Limits) : p.Matches p := ⟨le_rfl, fun m hm => ⟨m, hm, le_rfl⟩⟩

lemma Matches.trans (hpq : p.Matches q) (hqr : q.Matches r) : p.Matches r := by
  refine ⟨hqr.1.trans hpq.1, fun m hm => ?_⟩
  obtain ⟨l, hl, hlm⟩ := hqr.2 m hm
  obtain ⟨k, hk, hkl⟩ := hpq.2 l hl
  exact ⟨k, hk, hkl.trans hlm⟩

lemma Matches.antisymm (hpr : p.Matches r) (hrp : r.Matches p) : p = r := by
  obtain ⟨pmin, pmax⟩ := p
  obtain ⟨rmin, rmax⟩ := r
  have hmin : pmin = rmin := le_antisymm hrp.1 hpr.1
  have hmax : pmax = rmax := by
    cases rmax with
    | none =>
      refine Option.eq_none_iff_forall_not_mem.2 fun k hk => ?_
      obtain ⟨l, hl, -⟩ := hrp.2 k hk
      cases hl
    | some m =>
      obtain ⟨k, rfl, hkm⟩ := hpr.2 m rfl
      obtain ⟨l, hl, hlk⟩ := hrp.2 k rfl
      cases hl
      exact congrArg some (le_antisymm hkm hlk)
  rw [hmin, hmax]

/-- **Limits match others exactly if they allow no size that the others do not.** Only limits that
allow some size are compared well by their sizes. -/
theorem matches_iff_allows (hp : p.WellFormed) :
    p.Matches r ↔ ∀ n, p.Allows n → r.Allows n := by
  constructor
  · rintro ⟨hmin, hmax⟩ n ⟨hlow, hhigh⟩
    refine ⟨hmin.trans hlow, fun m hm => ?_⟩
    obtain ⟨k, hk, hkm⟩ := hmax m hm
    exact (hhigh k hk).trans hkm
  · intro h
    refine ⟨(h p.minimum ⟨le_rfl, hp⟩).1, fun m hm => ?_⟩
    cases hpmax : p.maximum with
    | none =>
      -- without a maximum there is a size beyond the one that is asked for
      have hallows : p.Allows (max p.minimum (m + 1)) :=
        ⟨le_max_left _ _, fun k hk => by rw [hpmax] at hk; cases hk⟩
      have hle := (h _ hallows).2 m hm
      exact absurd ((le_max_right _ _).trans hle) (Nat.not_succ_le_self m)
    | some k =>
      have hallows : p.Allows k := by
        refine ⟨hp k hpmax, fun l hl => ?_⟩
        rw [hpmax] at hl
        cases hl
        exact le_rfl
      exact ⟨k, rfl, (h k hallows).2 m hm⟩

/-- A comparison of types that have limits and a part without limits. It is inclusion of the sizes
where the other parts are equal, and it orders all types, with whatever limits. -/
structure Included {T F : Type} (satisfies : T → T → Bool) (limits : T → Limits) (other : T → F) :
    Prop where
  iff_allows : ∀ p r, (limits p).WellFormed →
    (satisfies p r = true ↔ other p = other r ∧ ∀ n, (limits p).Allows n → (limits r).Allows n)
  refl : ∀ p, satisfies p p = true
  trans : ∀ p q r, satisfies p q = true → satisfies q r = true → satisfies p r = true
  antisymm : ∀ p r, satisfies p r = true → satisfies r p = true → p = r

lemma Included.of_matches {T F : Type} {satisfies : T → T → Bool} {limits : T → Limits}
    {other : T → F}
    (hiff : ∀ p r, satisfies p r = true ↔ other p = other r ∧ (limits p).Matches (limits r))
    (hext : ∀ p r, other p = other r → limits p = limits r → p = r) :
    Included satisfies limits other where
  iff_allows p r hp := (hiff p r).trans (and_congr_right fun _ => matches_iff_allows hp)
  refl p := (hiff p p).2 ⟨rfl, .refl _⟩
  trans p q r hpq hqr := by
    rw [hiff] at hpq hqr ⊢
    exact ⟨hpq.1.trans hqr.1, hpq.2.trans hqr.2⟩
  antisymm p r hpr hrp := by
    rw [hiff] at hpr hrp
    exact hext p r hpr.1 (hpr.2.antisymm hrp.2)

end Limits

lemma MemoryType.included :
    Limits.Included satisfies limits fun t => (t.shared, t.memory64) := by
  refine .of_matches (fun p r => ?_) fun p r hother hlimits => ?_
  · rw [MemoryType.satisfies_iff_matches, Prod.mk.injEq, and_assoc]
  · obtain ⟨hshared, hmemory64⟩ := Prod.mk.inj hother
    obtain ⟨hmin, hmax⟩ := Limits.mk.inj hlimits
    cases p
    cases r
    simp_all

lemma TableType.included : Limits.Included satisfies limits element := by
  refine .of_matches TableType.satisfies_iff_matches fun p r helement hlimits => ?_
  obtain ⟨hmin, hmax⟩ := Limits.mk.inj hlimits
  cases p
  cases r
  simp_all

/-! ### An item in the place of another -/

/-- An item that serves where the type of another is asked for serves wherever that one does. -/
theorem HostItem.ServesAs.trans {a b : HostItem σ} {t : EntityType} {p q : Provided σ}
    (hab : a.ServesAs b.type p) (hb : b.ServesAs t q) : a.ServesAs t p := by
  cases hb with
  | function f => exact hab
  | global t v hv => exact hab
  | memory B required hs hr ha =>
    cases hab with
    | memory A _ hs' hr' ha' =>
      exact .memory A required (MemoryType.included.trans A B required hs' hs) hr' ha'
  | table B required hs hr =>
    cases hab with
    | table A _ hs' hr' =>
      exact .table A required (TableType.included.trans A B required hs' hs) hr'

namespace ImportObject

/-- What serves the imports, with `q` for those that ask for this one item. -/
def replaced (is : List ImportType) (ps : List (Provided σ)) (ns name : String)
    (q : Provided σ) : List (Provided σ) :=
  (is.zip ps).map fun (i, p) => if (ns, name) = (i.module, i.name) then q else p

variable {o : ImportObject σ} {i : ImportType} {ns name : String} {a b : HostItem σ}
  {p q : Provided σ}

lemma wasi_define (o : ImportObject σ) (ns name : String) (item : HostItem σ) :
    (o.define ns name item).wasi = o.wasi := by
  rw [ImportObject.define, addNamespace_eq]

lemma strict_define (o : ImportObject σ) (ns name : String) (item : HostItem σ) :
    (o.define ns name item).strict = o.strict := by
  rw [ImportObject.define, addNamespace_eq]

lemma serves_define (hb : o.get? ns name = some b) (hab : a.ServesAs b.type q)
    (h : o.Serves i p) :
    (o.define ns name a).Serves i (if (ns, name) = (i.module, i.name) then q else p) := by
  have hget := get?_define o ns name a i.module i.name
  split
  · rename_i hi
    obtain ⟨rfl, rfl⟩ := Prod.mk.inj hi
    rw [if_pos rfl] at hget
    cases h with
    | item hi hp =>
      obtain rfl : b = _ := Option.some.inj (hb.symm.trans hi)
      exact .item hget (hab.trans hp)
    | generated hi hwasi hn hf ht => exact nomatch hb.symm.trans hi
  · rename_i hi
    rw [if_neg hi] at hget
    cases h with
    | item hi hp => exact .item (hget.trans hi) hp
    | generated hi hwasi hn hf ht =>
      exact .generated (hget.trans hi) ((wasi_define o ns name a).trans hwasi) hn hf ht

/-- **A module that was resolved is resolved with an item that stands in.** It serves those imports
that the other one did, and the rest stays. -/
theorem resolve_define (hb : o.get? ns name = some b) (hab : a.ServesAs b.type q) {m : Module}
    {ps : List (Provided σ)} (h : o.resolve m = .ok ps) :
    (o.define ns name a).resolve m = .ok (replaced m.imports ps ns name q) := by
  rw [resolve_eq_ok_iff] at h ⊢
  obtain ⟨hengine, hserves, hall⟩ := h
  refine ⟨?_, ?_, ?_⟩
  · rw [AgreesWith, wasi_define]
    exact hengine
  · refine (Elementwise.forall₂_map_zip hserves _).imp fun i p' hp' => ?_
    obtain ⟨p, hp, rfl⟩ := hp'
    exact serves_define hb hab hp
  · intro hs k l hk
    rw [strict_define] at hs
    refine hall hs k l ?_
    rw [get?_define] at hk
    split at hk
    · rename_i hkey
      obtain ⟨rfl, rfl⟩ := Prod.mk.inj hkey
      simp [hb]
    · exact hk

/-- What a memory or a table of the object can be replaced with for a module that it resolves. The
new one may be of any type with limits that satisfy those of the old one and that an engine has. -/
structure LetsStandIn (o : ImportObject σ) (m : Module) (ps : List (Provided σ)) : Prop where
  memory : ∀ ns name A B, o.get? ns name = some (.memory B) → A.isInRange = true →
    A.isAccepted = true → A.satisfies B = true →
      (o.define ns name (.memory A)).resolve m = .ok (replaced m.imports ps ns name (.memory A))
  table : ∀ ns name A B, o.get? ns name = some (.table B) → A.isInRange = true →
    A.satisfies B = true →
      (o.define ns name (.table A)).resolve m = .ok (replaced m.imports ps ns name (.table A))

/-- **Limits satisfy others if they allow no more sizes, and then they can stand in for them.** This
holds of strict objects, too, and of limits that allow no size. -/
theorem smaller_limits_stand_in :
    Limits.Included MemoryType.satisfies MemoryType.limits (fun t => (t.shared, t.memory64)) ∧
    Limits.Included TableType.satisfies TableType.limits TableType.element ∧
    ∀ (o : ImportObject σ) (m : Module) ps, o.resolve m = .ok ps → o.LetsStandIn m ps := by
  refine ⟨MemoryType.included, TableType.included, fun o m ps h => ⟨?_, ?_⟩⟩
  · intro ns name A B hB hr ha hs
    exact resolve_define hB (.memory A B hs hr ha) h
  · intro ns name A B hB hr hs
    exact resolve_define hB (.table A B hs hr) h

-- No maximum is no limit: it does not satisfy even the greatest number that 64 bits hold.
example : (⟨0, none⟩ : Limits).satisfies ⟨0, some (2 ^ 64 - 1)⟩ = false := by
  decide

end ImportObject

end Embedder
