import Embedder.Proofs.Wasi.Snapshots
import Embedder.Proofs.Wasi.Texts
import Mathlib.Data.List.Permutation
import Mathlib.Data.List.Sort

/-!
# Finding out the snapshot

The snapshot of a module is found by the beginnings of the namespaces of its imports. Several
namespaces can begin like that of one snapshot, and a module can import from two snapshots.

* `Wasi.Version.Covers`, `Wasi.Version.OccursIn`: the namespaces of a snapshot, and the snapshots
  among imports;
* `Wasi.FirstOf`, `Wasi.mem_snapshotsOf_iff`: the namespace of the first import of a snapshot;
* `Wasi.detect_of_none`, `Wasi.detect_of_one`, `Wasi.detect_of_both`: the answer in each of the three
  situations;
* `Wasi.SameAnswer`: answers that differ at most in the namespaces that they name;
* `Wasi.detection_by_snapshots`: which answer there is, and that nothing but the snapshots that occur
  counts for it.
-/

namespace Embedder.Wasi

open Calling (utf8)

variable {v w : Version} {is is' : List ImportType} {ns ns' a b : String} {strict : Bool}

/-! ### The namespaces of a snapshot -/

/-- The namespace begins like that of the snapshot, whatever follows. The name for the newest
snapshot has no namespaces of its own. -/
def Version.Covers : Version → String → Prop
  | .snapshot0, ns => "wasi_unstable".toList <+: ns.toList
  | .snapshot1, ns => "wasi_snapshot_preview1".toList <+: ns.toList
  | .latest, _ => False

lemma Version.not_covers_both :
    ¬ (Version.snapshot0.Covers ns ∧ Version.snapshot1.Covers ns) := by
  rintro ⟨h0, h1⟩
  have hprefix := List.prefix_of_prefix_length_le h0 h1 (by decide)
  exact absurd hprefix (by decide)

lemma Version.ofNamespace?_eq_some_iff : ofNamespace? ns = some v ↔ v.Covers ns := by
  constructor
  · intro h
    have hbegins := List.find?_some h
    have hmem := List.mem_of_find?_eq_some h
    cases v with
    | snapshot0 => exact List.isPrefixOf_iff_prefix.1 hbegins
    | snapshot1 => exact List.isPrefixOf_iff_prefix.1 hbegins
    | latest => simp at hmem
  · intro h
    unfold ofNamespace?
    cases v with
    | snapshot0 =>
      -- the newer snapshot is asked first, and does not cover the namespace
      have h1 : ¬ Version.snapshot1.Covers ns := fun h1 => not_covers_both ⟨h, h1⟩
      refine (List.find?_cons_of_neg ?_).trans (List.find?_cons_of_pos ?_)
      · exact mt List.isPrefixOf_iff_prefix.1 h1
      · exact List.isPrefixOf_iff_prefix.2 h
    | snapshot1 => exact List.find?_cons_of_pos (List.isPrefixOf_iff_prefix.2 h)
    | latest => exact h.elim

lemma Version.Covers.unique (hv : v.Covers ns) (hw : w.Covers ns) : v = w := by
  rw [← Version.ofNamespace?_eq_some_iff] at hv hw
  exact Option.some.inj (hv.symm.trans hw)

lemma Version.ofNamespace?_eq_none_iff : ofNamespace? ns = none ↔ ∀ v : Version, ¬ v.Covers ns := by
  rw [Option.eq_none_iff_forall_ne_some]
  exact forall_congr' fun v => not_congr ofNamespace?_eq_some_iff

/-! ### The first import of a snapshot -/

/-- One of the imports is of the snapshot. -/
def Version.OccursIn (v : Version) (is : List ImportType) : Prop := ∃ i ∈ is, v.Covers i.module

/-- The first import of the snapshot is from this namespace. -/
def FirstOf (v : Version) (is : List ImportType) (ns : String) : Prop :=
  ∃ pre i post, is = pre ++ i :: post ∧ v.Covers i.module ∧ (∀ j ∈ pre, ¬ v.Covers j.module) ∧
    i.module = ns

lemma firstOf_cons_iff {i : ImportType} :
    FirstOf v (i :: is) ns ↔
      v.Covers i.module ∧ i.module = ns ∨ ¬ v.Covers i.module ∧ FirstOf v is ns := by
  constructor
  · rintro ⟨pre, j, post, his, hj, hpre, hns⟩
    cases pre with
    | nil =>
      obtain ⟨rfl, -⟩ := List.cons.inj his
      exact .inl ⟨hj, hns⟩
    | cons i' pre =>
      obtain ⟨rfl, rfl⟩ := List.cons.inj his
      obtain ⟨hi, hpre⟩ := List.forall_mem_cons.1 hpre
      exact .inr ⟨hi, pre, j, post, rfl, hj, hpre, hns⟩
  · rintro (⟨hi, hns⟩ | ⟨hi, pre, j, post, rfl, hj, hpre, hns⟩)
    · exact ⟨[], i, is, rfl, hi, fun _ hj => (nomatch hj), hns⟩
    · exact ⟨i :: pre, j, post, rfl, hj, List.forall_mem_cons.2 ⟨hi, hpre⟩, hns⟩

lemma exists_firstOf_iff : (∃ ns, FirstOf v is ns) ↔ v.OccursIn is := by
  induction is with
  | nil =>
    refine iff_of_false ?_ ?_
    · rintro ⟨ns, pre, i, post, his, -⟩
      cases pre <;> cases his
    · rintro ⟨i, hi, -⟩
      cases hi
  | cons i is ih =>
    simp only [firstOf_cons_iff, exists_or, exists_and_left, ih]
    unfold Version.OccursIn
    rw [List.exists_mem_cons_iff]
    by_cases hi : v.Covers i.module
    · exact iff_of_true (.inl ⟨hi, _, rfl⟩) (.inl hi)
    · simp [hi]

lemma Version.OccursIn.ne_latest (h : v.OccursIn is) : v ≠ .latest := by
  rintro rfl
  obtain ⟨i, -, hi⟩ := h
  exact hi

lemma FirstOf.occursIn (h : FirstOf v is ns) : v.OccursIn is := exists_firstOf_iff.1 ⟨ns, h⟩

/-- **The snapshots that are found are those that occur**, each with the namespace of its first
import. -/
theorem mem_snapshotsOf_iff : (v, ns) ∈ snapshotsOf is ↔ FirstOf v is ns := by
  induction is with
  | nil =>
    refine iff_of_false (List.not_mem_nil) ?_
    rintro ⟨pre, i, post, his, -⟩
    cases pre <;> cases his
  | cons i is ih =>
    rw [firstOf_cons_iff]
    cases hi : Version.ofNamespace? i.module with
    | none =>
      have hno : ¬ v.Covers i.module := Version.ofNamespace?_eq_none_iff.1 hi v
      simp only [snapshotsOf, hi, ih, hno, false_and, not_false_eq_true, true_and, false_or]
    | some u =>
      have hcovers := Version.ofNamespace?_eq_some_iff.1 hi
      simp only [snapshotsOf, hi, List.mem_cons, List.mem_filter, bne_iff_ne, ne_eq, ih,
        Prod.mk.injEq]
      by_cases hv : v = u
      · subst hv
        simp [hcovers, eq_comm]
      · have hno : ¬ v.Covers i.module := fun h => hv (h.unique hcovers)
        simp [hv, hno]

/-- No snapshot is found twice. -/
lemma nodup_snapshotsOf (is : List ImportType) : ((snapshotsOf is).map Prod.fst).Nodup := by
  induction is with
  | nil => exact List.nodup_nil
  | cons i is ih =>
    unfold snapshotsOf
    split
    · exact ih
    · rename_i v hv
      rw [List.map_cons, List.nodup_cons]
      refine ⟨?_, ih.sublist (List.filter_sublist.map Prod.fst)⟩
      simp

lemma FirstOf.unique (h : FirstOf v is ns) (h' : FirstOf v is ns') : ns = ns' := by
  rw [← mem_snapshotsOf_iff] at h h'
  have hsame := List.inj_on_of_nodup_map (nodup_snapshotsOf is) h h' rfl
  exact congrArg Prod.snd hsame

/-- What is found is settled up to its order. -/
lemma snapshotsOf_perm {found : List (Version × String)} (hnodup : (found.map Prod.fst).Nodup)
    (h : ∀ e, e ∈ found ↔ FirstOf e.1 is e.2) : (snapshotsOf is).Perm found := by
  rw [List.perm_ext_iff_of_nodup (nodup_snapshotsOf is).of_map hnodup.of_map]
  intro e
  exact mem_snapshotsOf_iff.trans (h e).symm

/-! ### The answer in each situation -/

lemma detect_of_none (h : ∀ v : Version, ¬ v.OccursIn is) (strict : Bool) :
    detect is strict = .error .notWasi := by
  have hnil : snapshotsOf is = [] := by
    refine List.eq_nil_iff_forall_not_mem.2 fun e he => ?_
    exact h e.1 (mem_snapshotsOf_iff.1 he).occursIn
  rw [detect, hnil]

lemma detect_of_one (hv : v.OccursIn is) (h : ∀ w : Version, w.OccursIn is → w = v)
    (strict : Bool) : detect is strict = .ok v := by
  obtain ⟨ns, hns⟩ := exists_firstOf_iff.2 hv
  have hfound : snapshotsOf is = [(v, ns)] := by
    refine List.perm_singleton.1 (snapshotsOf_perm (List.nodup_singleton v) fun e => ?_)
    rw [List.mem_singleton]
    constructor
    · rintro rfl
      exact hns
    · intro he
      obtain rfl : e.1 = v := h e.1 he.occursIn
      exact Prod.ext rfl (he.unique hns)
  simp [detect, hfound, newest]

/-- Namespaces that are sorted stand in the order of their bytes. -/
lemma pairwise_sorted (l : List String) :
    (l.mergeSort fun s t => decide (s ≤ t)).Pairwise fun s t => utf8 s ≤ utf8 t := by
  have htrans (s t u : String) (hst : decide (s ≤ t) = true) (htu : decide (t ≤ u) = true) :
      decide (s ≤ u) = true := by
    rw [decide_eq_true_iff] at hst htu ⊢
    exact hst.trans htu
  have htotal (s t : String) : (decide (s ≤ t) || decide (t ≤ s)) = true := by
    rw [Bool.or_eq_true, decide_eq_true_iff, decide_eq_true_iff]
    exact le_total s t
  refine (List.pairwise_mergeSort htrans htotal l).imp fun {s t} hst => ?_
  rw [utf8_le_iff]
  exact of_decide_eq_true hst

lemma detect_of_both (h0 : FirstOf .snapshot0 is a) (h1 : FirstOf .snapshot1 is b) :
    detect is false = .ok .snapshot1 ∧
      ∃ l, detect is true = .error (.ambiguous l) ∧ l.Perm [a, b] ∧
        l.Pairwise fun s t => utf8 s ≤ utf8 t := by
  have hfound : (snapshotsOf is).Perm [(.snapshot0, a), (.snapshot1, b)] := by
    refine snapshotsOf_perm (by simp) fun e => ?_
    rw [List.mem_pair]
    constructor
    · rintro (rfl | rfl)
      · exact h0
      · exact h1
    · obtain ⟨v, ns⟩ := e
      intro he
      cases v with
      | snapshot0 => exact .inl (Prod.ext rfl (he.unique h0))
      | snapshot1 => exact .inr (Prod.ext rfl (he.unique h1))
      | latest => exact absurd rfl he.occursIn.ne_latest
  rcases List.perm_pair.1 hfound with hfound | hfound
  · simp only [detect, hfound]
    exact ⟨rfl, _, rfl, List.mergeSort_perm _ _, pairwise_sorted _⟩
  · simp only [detect, hfound]
    exact ⟨rfl, _, rfl, (List.mergeSort_perm _ _).trans (.swap ..), pairwise_sorted _⟩

/-- If both occur, the newer one is taken, or there are too many. -/
lemma detect_of_occursIn (h0 : Version.snapshot0.OccursIn is) (h1 : Version.snapshot1.OccursIn is) :
    detect is false = .ok .snapshot1 ∧ ∃ l, detect is true = .error (.ambiguous l) := by
  obtain ⟨a, ha⟩ := exists_firstOf_iff.2 h0
  obtain ⟨b, hb⟩ := exists_firstOf_iff.2 h1
  obtain ⟨hnewer, l, hl, -⟩ := detect_of_both ha hb
  exact ⟨hnewer, l, hl⟩

/-! ### What the answer depends on -/

/-- The same version, or a failure of the same kind. Only the namespaces that are named may be
others. -/
inductive SameAnswer : Except VersionError Version → Except VersionError Version → Prop
  | found (v : Version) : SameAnswer (.ok v) (.ok v)
  | notWasi : SameAnswer (.error .notWasi) (.error .notWasi)
  | ambiguous (l l' : List String) :
      SameAnswer (.error (.ambiguous l)) (.error (.ambiguous l'))

/-- None of the snapshots occurs, or just one, or both. -/
lemma occursIn_cases (is : List ImportType) :
    (∀ v : Version, ¬ v.OccursIn is) ∨
      (∃ v : Version, v.OccursIn is ∧ ∀ w : Version, w.OccursIn is → w = v) ∨
      Version.snapshot0.OccursIn is ∧ Version.snapshot1.OccursIn is := by
  by_cases h0 : Version.snapshot0.OccursIn is
  · by_cases h1 : Version.snapshot1.OccursIn is
    · exact .inr (.inr ⟨h0, h1⟩)
    · refine .inr (.inl ⟨_, h0, fun w hw => ?_⟩)
      cases w with
      | snapshot0 => rfl
      | snapshot1 => exact absurd hw h1
      | latest => exact absurd rfl hw.ne_latest
  · by_cases h1 : Version.snapshot1.OccursIn is
    · refine .inr (.inl ⟨_, h1, fun w hw => ?_⟩)
      cases w with
      | snapshot0 => exact absurd hw h0
      | snapshot1 => rfl
      | latest => exact absurd rfl hw.ne_latest
    · refine .inl fun v hv => ?_
      cases v with
      | snapshot0 => exact h0 hv
      | snapshot1 => exact h1 hv
      | latest => exact hv.ne_latest rfl

/-- **Nothing but the snapshots that occur counts.** -/
theorem sameAnswer_of_occursIn (h : ∀ v : Version, v.OccursIn is ↔ v.OccursIn is')
    (strict : Bool) : SameAnswer (detect is strict) (detect is' strict) := by
  rcases occursIn_cases is with hnone | ⟨v, hv, hone⟩ | ⟨h0, h1⟩
  · rw [detect_of_none hnone, detect_of_none fun v => mt (h v).2 (hnone v)]
    exact .notWasi
  · rw [detect_of_one hv hone, detect_of_one ((h v).1 hv) fun w hw => hone w ((h w).2 hw)]
    exact .found v
  · obtain ⟨hnewer, l, hl⟩ := detect_of_occursIn h0 h1
    obtain ⟨hnewer', l', hl'⟩ := detect_of_occursIn ((h _).1 h0) ((h _).1 h1)
    cases strict with
    | false =>
      rw [hnewer, hnewer']
      exact .found _
    | true =>
      rw [hl, hl']
      exact .ambiguous l l'

/-! ### Which answer there is -/

lemma detect_eq_notWasi_iff :
    detect is strict = .error .notWasi ↔ ∀ v : Version, ¬ v.OccursIn is := by
  rcases occursIn_cases is with hnone | ⟨v, hv, hone⟩ | ⟨h0, h1⟩
  · exact iff_of_true (detect_of_none hnone strict) hnone
  · refine iff_of_false ?_ fun h => h v hv
    rw [detect_of_one hv hone]
    simp
  · obtain ⟨hnewer, l, hl⟩ := detect_of_occursIn h0 h1
    refine iff_of_false ?_ fun h => h _ h0
    cases strict with
    | false => simp [hnewer]
    | true => simp [hl]

/-- Two texts in the order of their bytes are in no other such order. -/
lemma eq_of_sorted {l l' : List String} (h : l.Perm l')
    (hl : l.Pairwise fun s t => utf8 s ≤ utf8 t) (hl' : l'.Pairwise fun s t => utf8 s ≤ utf8 t) :
    l = l' := by
  refine h.eq_of_pairwise (fun s t _ _ hst hts => ?_) hl hl'
  rw [utf8_le_iff] at hst hts
  exact le_antisymm hst hts

lemma detect_eq_ambiguous_iff {l : List String} :
    detect is strict = .error (.ambiguous l) ↔
      strict = true ∧ ∃ a b, FirstOf .snapshot0 is a ∧ FirstOf .snapshot1 is b ∧ l.Perm [a, b] ∧
        l.Pairwise fun s t => utf8 s ≤ utf8 t := by
  constructor
  · intro h
    rcases occursIn_cases is with hnone | ⟨v, hv, hone⟩ | ⟨h0, h1⟩
    · rw [detect_of_none hnone] at h
      cases h
    · rw [detect_of_one hv hone] at h
      cases h
    · obtain ⟨a, ha⟩ := exists_firstOf_iff.2 h0
      obtain ⟨b, hb⟩ := exists_firstOf_iff.2 h1
      obtain ⟨hnewer, l', hl', hperm, hsorted⟩ := detect_of_both ha hb
      cases strict with
      | false =>
        rw [hnewer] at h
        cases h
      | true =>
        rw [hl'] at h
        cases h
        exact ⟨rfl, a, b, ha, hb, hperm, hsorted⟩
  · rintro ⟨rfl, a, b, ha, hb, hperm, hsorted⟩
    obtain ⟨-, l', hl', hperm', hsorted'⟩ := detect_of_both ha hb
    rw [hl', eq_of_sorted (hperm'.trans hperm.symm) hsorted' hsorted]

lemma detect_eq_ok_iff :
    detect is strict = .ok v ↔
      v.OccursIn is ∧ (∀ w : Version, w.OccursIn is → w.rank ≤ v.rank) ∧
        (strict = true → ∀ w : Version, w.OccursIn is → w = v) := by
  rcases occursIn_cases is with hnone | ⟨u, hu, hone⟩ | ⟨h0, h1⟩
  · refine iff_of_false ?_ fun h => hnone v h.1
    rw [detect_of_none hnone]
    simp
  · rw [detect_of_one hu hone, Except.ok.injEq]
    constructor
    · rintro rfl
      exact ⟨hu, fun w hw => by rw [hone w hw], fun _ => hone⟩
    · rintro ⟨hv, -⟩
      exact (hone v hv).symm
  · obtain ⟨hnewer, l, hl⟩ := detect_of_occursIn h0 h1
    cases strict with
    | false =>
      rw [hnewer, Except.ok.injEq]
      constructor
      · rintro rfl
        refine ⟨h1, fun w hw => ?_, fun hs => (nomatch hs)⟩
        cases w with
        | latest => exact absurd rfl hw.ne_latest
        | _ => decide
      · rintro ⟨hv, hmax, -⟩
        have hle := hmax _ h1
        cases v with
        | snapshot0 => exact absurd hle (by decide)
        | snapshot1 => rfl
        | latest => exact absurd rfl hv.ne_latest
    | true =>
      rw [hl]
      refine iff_of_false (by simp) fun h => ?_
      have hsame := (h.2.2 rfl _ h0).trans (h.2.2 rfl _ h1).symm
      exact absurd hsame (by decide)

/-- Which answer there is for a list of imports. -/
structure DetectedBySnapshots (is : List ImportType) : Prop where
  /-- There is no snapshot exactly if no namespace begins like that of one. -/
  notWasi_iff : ∀ strict, detect is strict = .error .notWasi ↔
    ∀ i ∈ is, ¬ "wasi_unstable".toList <+: i.module.toList ∧
      ¬ "wasi_snapshot_preview1".toList <+: i.module.toList
  /-- In strict mode there are too many exactly if both occur. -/
  ambiguous_iff : (∃ l, detect is true = .error (.ambiguous l)) ↔
    (∃ i ∈ is, "wasi_unstable".toList <+: i.module.toList) ∧
      ∃ i ∈ is, "wasi_snapshot_preview1".toList <+: i.module.toList
  /-- Then the namespaces of the first import of each are named, in the order of their bytes. -/
  namespaces : ∀ l, detect is true = .error (.ambiguous l) ↔
    ∃ a b, FirstOf .snapshot0 is a ∧ FirstOf .snapshot1 is b ∧ l.Perm [a, b] ∧
      l.Pairwise fun s t => utf8 s ≤ utf8 t
  /-- In all other cases there is an answer. -/
  exists_ok_iff : ∀ strict, (∃ v, detect is strict = .ok v) ↔
    (∃ v : Version, v.OccursIn is) ∧
      (strict = true → ¬ (Version.snapshot0.OccursIn is ∧ Version.snapshot1.OccursIn is))
  /-- It is the newest snapshot that occurs. -/
  newest : ∀ strict v, detect is strict = .ok v →
    v.OccursIn is ∧ v ≠ .latest ∧ ∀ w : Version, w.OccursIn is → w.rank ≤ v.rank
  /-- There is no other failure. -/
  failed : ∀ strict e, detect is strict = .error e →
    e = .notWasi ∨ strict = true ∧ ∃ l, e = .ambiguous l
  /-- Imports of the same snapshots have the same answer, in whatever order and number, from whatever
  namespaces of these snapshots, and among whatever others. -/
  same : ∀ is', (∀ v : Version, v.OccursIn is ↔ v.OccursIn is') →
    ∀ strict, SameAnswer (detect is strict) (detect is' strict)
  /-- Moving, repeating and adding imports changes nothing, unless a snapshot is added that did not
  occur before. -/
  added : ∀ is', is ⊆ is' → (∀ i ∈ is', ∀ v : Version, v.Covers i.module → v.OccursIn is) →
    ∀ strict, SameAnswer (detect is strict) (detect is' strict)

/-- **The snapshot that is found depends on the snapshots that occur among the imports.** -/
theorem detection_by_snapshots (is : List ImportType) : DetectedBySnapshots is where
  notWasi_iff strict := by
    rw [detect_eq_notWasi_iff]
    constructor
    · intro h i hi
      exact ⟨fun h0 => h .snapshot0 ⟨i, hi, h0⟩, fun h1 => h .snapshot1 ⟨i, hi, h1⟩⟩
    · rintro h v ⟨i, hi, hv⟩
      cases v with
      | snapshot0 => exact (h i hi).1 hv
      | snapshot1 => exact (h i hi).2 hv
      | latest => exact hv
  ambiguous_iff := by
    constructor
    · rintro ⟨l, hl⟩
      obtain ⟨-, a, b, ha, hb, -⟩ := detect_eq_ambiguous_iff.1 hl
      exact ⟨ha.occursIn, hb.occursIn⟩
    · rintro ⟨h0, h1⟩
      exact (detect_of_occursIn h0 h1).2
  namespaces l := detect_eq_ambiguous_iff.trans (and_iff_right rfl)
  exists_ok_iff strict := by
    constructor
    · rintro ⟨v, hv⟩
      obtain ⟨hoccurs, -, honly⟩ := detect_eq_ok_iff.1 hv
      refine ⟨⟨v, hoccurs⟩, fun hs h => ?_⟩
      have hsame := (honly hs _ h.1).trans (honly hs _ h.2).symm
      exact absurd hsame (by decide)
    · rintro ⟨⟨v, hv⟩, hstrict⟩
      rcases occursIn_cases is with hnone | ⟨u, hu, hone⟩ | ⟨h0, h1⟩
      · exact absurd hv (hnone v)
      · exact ⟨u, detect_of_one hu hone strict⟩
      · obtain rfl : strict = false := Bool.eq_false_iff.2 fun hs => hstrict hs ⟨h0, h1⟩
        exact ⟨_, (detect_of_occursIn h0 h1).1⟩
  newest strict v hv := by
    obtain ⟨hoccurs, hmax, -⟩ := detect_eq_ok_iff.1 hv
    exact ⟨hoccurs, hoccurs.ne_latest, hmax⟩
  failed strict e he := by
    cases e with
    | notWasi => exact .inl rfl
    | ambiguous l => exact .inr ⟨(detect_eq_ambiguous_iff.1 he).1, l, rfl⟩
    | unsupported what =>
      have hsame := sameAnswer_of_occursIn (fun v => Iff.refl (v.OccursIn is)) strict
      rw [he] at hsame
      cases hsame
  same is' h strict := sameAnswer_of_occursIn h strict
  added is' hsub hcovers strict := by
    refine sameAnswer_of_occursIn (fun v => ⟨?_, ?_⟩) strict
    · rintro ⟨i, hi, hv⟩
      exact ⟨i, hsub hi, hv⟩
    · rintro ⟨i, hi, hv⟩
      exact hcovers i hi v hv

/-- Two namespaces of one snapshot are no contradiction. -/
example :
    detect [⟨"wasi_unstable", "f", .function ⟨[], []⟩⟩, ⟨"wasi_unstable2", "f", .function ⟨[], []⟩⟩]
      true = .ok .snapshot0 := by
  decide

end Embedder.Wasi
