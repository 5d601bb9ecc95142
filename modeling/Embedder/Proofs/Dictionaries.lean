import Embedder.Dictionary
import Embedder.Proofs.Lists
import Mathlib.Data.List.Nodup

/-!
# Dictionaries by what was written to them

* `Dictionary.latest`: the value that was written to a key last;
* `Dictionary.find?_merge`: after any number of writes a key has its latest value, or what it had
  before;
* `Dictionary.keys_merge`: the keys stand in the order in which they came first;
* `Dictionary.merge_self`: writing what is there already changes nothing;
* `Dictionary.find?_map`, `Dictionary.insert_map`: other values under the same keys.
-/

namespace Embedder.Dictionary

open Elementwise

variable {κ ν : Type} [DecidableEq κ]

/-! ### The latest value -/

/-- The value of the last write to a key. -/
def latest (ws : List (κ × ν)) (k : κ) : Option ν := ws.reverse.lookup k

lemma latest_append (ws vs : List (κ × ν)) (k : κ) :
    latest (ws ++ vs) k = (latest vs k).or (latest ws k) := by
  rw [latest, List.reverse_append, List.lookup_append, latest, latest]

lemma latest_singleton (k l : κ) (v : ν) :
    latest [(k, v)] l = if k = l then some v else none := by
  rw [latest, List.reverse_singleton, List.lookup_cons, List.lookup_nil]
  by_cases h : k = l
  · simp [h]
  · simp [h, beq_eq_false_iff_ne.2 (Ne.symm h)]

lemma latest_eq_none_iff {ws : List (κ × ν)} {k : κ} :
    latest ws k = none ↔ k ∉ ws.map Prod.fst := by
  rw [latest, List.lookup_eq_none_iff]
  constructor
  · intro h hk
    obtain ⟨w, hw, rfl⟩ := List.mem_map.1 hk
    exact bne_iff_ne.1 (h w (List.mem_reverse.2 hw)) rfl
  · intro h w hw
    exact bne_iff_ne.2 fun hk => h (hk ▸ List.mem_map_of_mem (List.mem_reverse.1 hw))

lemma mem_of_latest {ws : List (κ × ν)} {k : κ} {v : ν} (h : latest ws k = some v) :
    (k, v) ∈ ws :=
  List.mem_reverse.1 (mem_of_lookup h)

/-- Where keys are written once, the order of the writes does not count. -/
lemma latest_eq_some_of_nodup {ws : List (κ × ν)} (hn : (ws.map Prod.fst).Nodup) {k : κ} {v : ν} :
    latest ws k = some v ↔ (k, v) ∈ ws := by
  constructor
  · exact mem_of_latest
  · intro h
    refine lookup_eq_some_of_nodup ?_ (List.mem_reverse.2 h)
    rwa [List.map_reverse, List.nodup_reverse]

/-! ### Looking up -/

lemma find?_insert (d : Dictionary κ ν) (k l : κ) (v : ν) :
    (d.insert k v).find? l = if k = l then some v else d.find? l := by
  by_cases h : k = l
  · subst h
    rw [find?_insert_self, if_pos rfl]
  · rw [find?_insert_of_ne d v h, if_neg h]

lemma merge_append (d : Dictionary κ ν) (ws vs : List (κ × ν)) :
    d.merge (ws ++ vs) = (d.merge ws).merge vs :=
  List.foldl_append

/-- **A key has its latest value**, or else what it had before. -/
theorem find?_merge (d : Dictionary κ ν) (ws : List (κ × ν)) (k : κ) :
    (d.merge ws).find? k = (latest ws k).or (d.find? k) := by
  induction ws generalizing d with
  | nil => rfl
  | cons w ws ih =>
    have hmerge : d.merge (w :: ws) = (d.insert w.1 w.2).merge ws := rfl
    have hlatest : latest (w :: ws) k = (latest ws k).or (latest [w] k) := latest_append [w] ws k
    rw [hmerge, ih, find?_insert, hlatest, latest_singleton, Option.or_assoc]
    split <;> rfl

/-- Looking up finds the first member of a key, which is the last one if there are no others. -/
lemma find?_eq_latest {d : Dictionary κ ν} (hn : d.keys.Nodup) (k : κ) : d.find? k = latest d k := by
  induction d with
  | nil => rfl
  | cons e d ih =>
    obtain ⟨hl, hn⟩ := List.nodup_cons.1 hn
    have hlatest : latest (e :: d) k = (latest d k).or (latest [e] k) := latest_append [e] d k
    rw [hlatest, latest_singleton, find?, ih hn]
    by_cases h : e.1 = k
    · have hnone : latest d k = none := latest_eq_none_iff.2 (h ▸ hl)
      simp [h, hnone]
    · simp [h]

/-- Members with distinct keys take the place of what was there, and nothing else changes. -/
lemma find?_merge_eq_some_iff {d other : Dictionary κ ν} (hn : other.keys.Nodup) {k : κ} {v : ν} :
    (d.merge other).find? k = some v ↔ (k, v) ∈ other ∨ k ∉ other.keys ∧ d.find? k = some v := by
  rw [find?_merge, Option.or_eq_some_iff, latest_eq_some_of_nodup hn, latest_eq_none_iff]
  rfl

/-! ### Keys -/

lemma keys_insert (d : Dictionary κ ν) (k : κ) (v : ν) :
    (d.insert k v).keys = if k ∈ d.keys then d.keys else d.keys ++ [k] := by
  induction d with
  | nil => rfl
  | cons e d ih =>
    by_cases h : e.1 = k
    · simp [insert, keys, h]
    · have hcons : (insert (e :: d) k v).keys = e.1 :: (insert d k v).keys := by
        simp [insert, keys, h]
      have hkeys : keys (e :: d) = e.1 :: keys d := rfl
      rw [hcons, ih, hkeys]
      simp only [List.mem_cons, Ne.symm h, false_or]
      split <;> rfl

lemma eraseDups_of_nodup {ks : List κ} (hn : ks.Nodup) : ks.eraseDups = ks := by
  induction ks with
  | nil => rfl
  | cons k ks ih =>
    obtain ⟨hk, hn⟩ := List.nodup_cons.1 hn
    rw [List.eraseDups_cons, List.filter_eq_self.2, ih hn]
    intro l hl
    have hne : l ≠ k := fun h => hk (h ▸ hl)
    simpa using hne

lemma nodup_eraseDups (ks : List κ) : ks.eraseDups.Nodup := by
  cases ks with
  | nil => exact List.nodup_nil
  | cons k ks =>
    rw [List.eraseDups_cons, List.nodup_cons]
    exact ⟨by simp, nodup_eraseDups _⟩
termination_by ks.length
decreasing_by
  have hle := List.length_filter_le (fun l => !l == k) ks
  rw [List.length_cons]
  omega

/-- A key that has come already does not count when it comes again. -/
lemma eraseDups_append_cons {ks ls : List κ} {k : κ} (hk : k ∈ ks) :
    (ks ++ k :: ls).eraseDups = (ks ++ ls).eraseDups := by
  rw [List.eraseDups_append, List.eraseDups_append]
  have hremoved : (k :: ls).removeAll ks = ls.removeAll ks := by
    simp [List.removeAll, hk]
  rw [hremoved]

/-- **The keys stand in the order in which they came first.** -/
theorem keys_merge {d : Dictionary κ ν} (hn : d.keys.Nodup) (ws : List (κ × ν)) :
    (d.merge ws).keys = (d.keys ++ ws.map Prod.fst).eraseDups := by
  induction ws generalizing d with
  | nil =>
    rw [List.map_nil, List.append_nil, eraseDups_of_nodup hn]
    rfl
  | cons w ws ih =>
    have hmerge : d.merge (w :: ws) = (d.insert w.1 w.2).merge ws := rfl
    have hkeys := keys_insert d w.1 w.2
    rw [hmerge, List.map_cons]
    by_cases hw : w.1 ∈ d.keys
    · rw [if_pos hw] at hkeys
      rw [ih (hkeys ▸ hn), hkeys, eraseDups_append_cons hw]
    · rw [if_neg hw] at hkeys
      have hnew : (d.keys ++ [w.1]).Nodup := by
        rw [List.nodup_append]
        refine ⟨hn, List.pairwise_singleton _ _, ?_⟩
        rintro k hk l hl rfl
        exact hw (List.mem_singleton.1 hl ▸ hk)
      rw [ih (hkeys ▸ hnew), hkeys, List.append_assoc, List.singleton_append]

/-- No key comes twice. -/
lemma nodup_keys_merge {d : Dictionary κ ν} (hn : d.keys.Nodup) (ws : List (κ × ν)) :
    (d.merge ws).keys.Nodup := by
  rw [keys_merge hn]
  exact nodup_eraseDups _

lemma insert_eq_self {d : Dictionary κ ν} (hn : d.keys.Nodup) {k : κ} {v : ν} (h : (k, v) ∈ d) :
    d.insert k v = d := by
  induction d with
  | nil => cases h
  | cons e d ih =>
    obtain ⟨l, u⟩ := e
    obtain ⟨hl, hn⟩ := List.nodup_cons.1 hn
    rcases List.mem_cons.1 h with heq | h
    · cases heq
      simp [insert]
    · have hne : l ≠ k := by
        rintro rfl
        exact hl (List.mem_map.2 ⟨_, h, rfl⟩)
      simp [insert, hne, ih hn h]

/-- Writing what is there already changes nothing. -/
lemma merge_self {d : Dictionary κ ν} (hn : d.keys.Nodup) : d.merge d = d := by
  have hsame : ∀ ws : List (κ × ν), (∀ w ∈ ws, w ∈ d) → d.merge ws = d := by
    intro ws hws
    induction ws with
    | nil => rfl
    | cons w ws ih =>
      have hmerge : d.merge (w :: ws) = (d.insert w.1 w.2).merge ws := rfl
      rw [hmerge, insert_eq_self hn (hws w (by simp)), ih fun u hu => hws u (by simp [hu])]
  exact hsame d fun _ h => h

/-! ### Other values -/

variable {μ : Type}

lemma find?_map (f : ν → μ) (d : Dictionary κ ν) (k : κ) :
    find? (d.map (Prod.map id f)) k = (d.find? k).map f := by
  induction d with
  | nil => rfl
  | cons e d ih =>
    obtain ⟨l, v⟩ := e
    by_cases hl : l = k
    · simp [find?, hl]
    · simpa [find?, hl] using ih

lemma insert_map (f : ν → μ) (d : Dictionary κ ν) (k : κ) (v : ν) :
    insert (d.map (Prod.map id f)) k (f v) = (d.insert k v).map (Prod.map id f) := by
  induction d with
  | nil => rfl
  | cons e d ih =>
    obtain ⟨l, u⟩ := e
    by_cases hl : l = k
    · simp [insert, hl]
    · simpa [insert, hl] using ih

omit [DecidableEq κ] in
lemma keys_map (f : ν → μ) (d : Dictionary κ ν) : keys (d.map (Prod.map id f)) = d.keys := by
  simp [keys, Function.comp_def]

lemma mem_of_find? {d : Dictionary κ ν} {k : κ} {v : ν} (h : d.find? k = some v) : (k, v) ∈ d := by
  induction d with
  | nil => cases h
  | cons e d ih =>
    obtain ⟨l, u⟩ := e
    by_cases hl : l = k
    · simp_all [find?]
    · rw [find?, if_neg hl] at h
      exact List.mem_cons_of_mem _ (ih h)

lemma mem_insert {d : Dictionary κ ν} {k l : κ} {v u : ν} (h : (l, u) ∈ d.insert k v) :
    (l, u) ∈ d ∨ u = v := by
  induction d with
  | nil =>
    cases List.mem_singleton.1 h
    exact .inr rfl
  | cons e d ih =>
    obtain ⟨m, w⟩ := e
    by_cases hm : m = k
    · rw [insert, if_pos hm] at h
      rcases List.mem_cons.1 h with h | h
      · cases h
        exact .inr rfl
      · exact .inl (List.mem_cons_of_mem _ h)
    · rw [insert, if_neg hm] at h
      rcases List.mem_cons.1 h with h | h
      · cases h
        exact .inl (List.mem_cons_self ..)
      · exact (ih h).imp (List.mem_cons_of_mem _) id

end Embedder.Dictionary
