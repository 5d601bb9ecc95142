import Mathlib.Data.List.Forall2
import Mathlib.Tactic.Lemma

/-!
# Lists that are worked through one element at a time

* `forall₂_trans`, `exists_append_of_forall₂`: lists of the same length, element by element;
* `getElem?_filterMap_length_take`: where a selected element stands;
* `bind_eq_ok_iff`, `bind_eq_error_iff`: one computation that can fail after another;
* `mapM_eq_ok_iff`, `mapM_eq_error_iff`: a traversal gives an answer for every element, or it ends
  with the failure of the first element that has one;
* `mapM_eq_some_iff`: the same without a reason for the failure;
* `foldlM_ok_keeps`, `foldlM_decided`: an invariant of a fold, and when it succeeds;
* `find?_eq_some_of_nodup`, `filter_eq_singleton_of_nodup`, `lookup_eq_some_of_nodup`: an element is
  found by a key that no other one has;
* `modify_congr`, `modify_modify`, `map_modify`: changes of one place of an array.
-/

namespace Embedder.Elementwise

variable {α β γ ε : Type}

/-! ### Two lists side by side -/

lemma forall₂_trans {R : α → β → Prop} {S : β → γ → Prop} {as : List α} {bs : List β}
    {cs : List γ} (hR : List.Forall₂ R as bs) (hS : List.Forall₂ S bs cs) :
    List.Forall₂ (fun a c => ∃ b, R a b ∧ S b c) as cs := by
  induction hR generalizing cs with
  | nil =>
    cases hS
    exact .nil
  | cons hab _ ih =>
    cases hS with
    | cons hbc hS => exact .cons ⟨_, hab, hbc⟩ (ih hS)

lemma exists_mem_of_forall₂ {R : α → β → Prop} {as : List α} {bs : List β}
    (h : List.Forall₂ R as bs) {a : α} (ha : a ∈ as) : ∃ b ∈ bs, R a b := by
  induction h with
  | nil => cases ha
  | cons hab _ ih =>
    rcases List.mem_cons.1 ha with rfl | ha
    · exact ⟨_, by simp, hab⟩
    · obtain ⟨b, hb, hR⟩ := ih ha
      exact ⟨b, by simp [hb], hR⟩

lemma map_eq_map_of_forall₂ {f : α → γ} {g : β → γ} {as : List α} {bs : List β}
    (h : List.Forall₂ (fun a b => f a = g b) as bs) : as.map f = bs.map g := by
  rw [← List.forall₂_eq_eq_eq, List.forall₂_map_left_iff, List.forall₂_map_right_iff]
  exact h

lemma rel_of_forall₂ {R : α → β → Prop} {as : List α} {bs : List β} (h : List.Forall₂ R as bs)
    {i : Nat} {a : α} {b : β} (ha : as[i]? = some a) (hb : bs[i]? = some b) : R a b := by
  obtain ⟨hi, rfl⟩ := List.getElem?_eq_some_iff.1 ha
  obtain ⟨hj, rfl⟩ := List.getElem?_eq_some_iff.1 hb
  exact h.get hi hj

lemma forall₂_map_zip {R : α → β → Prop} {as : List α} {bs : List β} (h : List.Forall₂ R as bs)
    (f : α × β → γ) :
    List.Forall₂ (fun a c => ∃ b, R a b ∧ c = f (a, b)) as ((as.zip bs).map f) := by
  induction h with
  | nil => exact .nil
  | cons hab _ ih => exact .cons ⟨_, hab, rfl⟩ ih

/-- What stands beside a place of the second list. -/
lemma exists_append_of_forall₂ {R : α → β → Prop} {as : List α} {pre post : List β} {b : β}
    (h : List.Forall₂ R as (pre ++ b :: post)) :
    ∃ as₁ a as₂, as = as₁ ++ a :: as₂ ∧ List.Forall₂ R as₁ pre ∧ R a b := by
  induction pre generalizing as with
  | nil =>
    obtain ⟨a, as₂, hab, -, rfl⟩ := List.forall₂_cons_right_iff.1 h
    exact ⟨[], a, as₂, rfl, .nil, hab⟩
  | cons c pre ih =>
    obtain ⟨a', as', hac, has, rfl⟩ := List.forall₂_cons_right_iff.1 h
    obtain ⟨as₁, a, as₂, rfl, hpre, hab⟩ := ih has
    exact ⟨a' :: as₁, a, as₂, rfl, .cons hac hpre, hab⟩

/-! ### Selections -/

/-- A selected element stands behind those that are selected before it. -/
lemma getElem?_filterMap_length_take {f : α → Option β} {as : List α} {i : Nat} {a : α} {b : β}
    (ha : as[i]? = some a) (hb : f a = some b) :
    (as.filterMap f)[((as.take i).filterMap f).length]? = some b := by
  induction as generalizing i with
  | nil => cases ha
  | cons x as ih =>
    cases i with
    | zero =>
      cases ha
      simp [hb]
    | succ i =>
      rw [List.getElem?_cons_succ] at ha
      cases hx : f x <;> simp [hx, ih ha]

/-! ### Traversals -/

lemma exists_forall₂_iff {R : α → β → Prop} {as : List α} :
    (∃ bs, List.Forall₂ R as bs) ↔ ∀ a ∈ as, ∃ b, R a b := by
  induction as with
  | nil => simp
  | cons a as ih =>
    rw [List.forall_mem_cons, ← ih]
    constructor
    · rintro ⟨_, hp⟩
      obtain ⟨b, bs, hb, hbs, -⟩ := List.forall₂_cons_left_iff.1 hp
      exact ⟨⟨b, hb⟩, bs, hbs⟩
    · rintro ⟨⟨b, hb⟩, bs, hbs⟩
      exact ⟨b :: bs, .cons hb hbs⟩

lemma bind_eq_ok_iff {r : Except ε α} {k : α → Except ε β} {b : β} :
    (r >>= k) = .ok b ↔ ∃ a, r = .ok a ∧ k a = .ok b := by
  cases r with
  | error e => exact iff_of_false (fun h => nomatch h) fun ⟨_, h, _⟩ => nomatch h
  | ok a =>
    constructor
    · intro h
      exact ⟨a, rfl, h⟩
    · rintro ⟨_, ⟨⟩, h⟩
      exact h

lemma bind_eq_error_iff {r : Except ε α} {k : α → Except ε β} {e : ε} :
    (r >>= k) = .error e ↔ r = .error e ∨ ∃ a, r = .ok a ∧ k a = .error e := by
  cases r with
  | error e' =>
    constructor
    · rintro ⟨⟩
      exact .inl rfl
    · rintro (⟨⟨⟩⟩ | ⟨_, h, _⟩)
      · rfl
      · cases h
  | ok a =>
    constructor
    · intro h
      exact .inr ⟨a, rfl, h⟩
    · rintro (h | ⟨_, ⟨⟩, h⟩)
      · cases h
      · exact h

lemma mapM_eq_ok_iff {f : α → Except ε β} {as : List α} {bs : List β} :
    as.mapM f = .ok bs ↔ List.Forall₂ (fun a b => f a = .ok b) as bs := by
  induction as generalizing bs with
  | nil => simp [pure, Except.pure, eq_comm]
  | cons a as ih =>
    simp only [List.mapM_cons, List.forall₂_cons_left_iff, bind_eq_ok_iff, ih]
    constructor
    · rintro ⟨b, hb, us, hus, ⟨⟩⟩
      exact ⟨b, us, hb, hus, rfl⟩
    · rintro ⟨b, us, hb, hus, rfl⟩
      exact ⟨b, hb, us, hus, rfl⟩

/-- The first element that fails decides. -/
lemma mapM_eq_error_iff {f : α → Except ε β} {as : List α} {e : ε} :
    as.mapM f = .error e ↔
      ∃ pre a post, as = pre ++ a :: post ∧ (∀ x ∈ pre, ∃ b, f x = .ok b) ∧ f a = .error e := by
  induction as with
  | nil => simp [pure, Except.pure]
  | cons a as ih =>
    simp only [List.mapM_cons, bind_eq_error_iff, ih]
    constructor
    · rintro (ha | ⟨b, hb, ⟨pre, x, post, rfl, hpre, hx⟩ | ⟨_, -, ⟨⟩⟩⟩)
      · exact ⟨[], a, as, rfl, by simp, ha⟩
      · exact ⟨a :: pre, x, post, rfl, List.forall_mem_cons.2 ⟨⟨b, hb⟩, hpre⟩, hx⟩
    · rintro ⟨pre, x, post, has, hpre, hx⟩
      rcases pre with _ | ⟨y, pre⟩
      · obtain ⟨rfl, rfl⟩ := List.cons_eq_cons.1 has
        exact .inl hx
      · obtain ⟨rfl, htail⟩ := List.cons_eq_cons.1 has
        obtain ⟨⟨b, hb⟩, hpre⟩ := List.forall_mem_cons.1 hpre
        exact .inr ⟨b, hb, .inl ⟨pre, x, post, htail, hpre, hx⟩⟩

lemma mapM_eq_some_iff {f : α → Option β} {as : List α} {bs : List β} :
    as.mapM f = some bs ↔ List.Forall₂ (fun a b => f a = some b) as bs := by
  induction as generalizing bs with
  | nil => simp [eq_comm]
  | cons a as ih =>
    simp only [List.mapM_cons, List.forall₂_cons_left_iff, Option.bind_eq_bind,
      Option.bind_eq_some_iff, Option.pure_def, Option.some.injEq, ih]
    constructor
    · rintro ⟨b, hb, us, hus, rfl⟩
      exact ⟨b, us, hb, hus, rfl⟩
    · rintro ⟨b, us, hb, hus, rfl⟩
      exact ⟨b, hb, us, hus, rfl⟩

/-- What every step keeps, a fold that does not fail keeps. -/
lemma foldlM_ok_keeps {f : β → α → Except ε β} {I : β → Prop} {as : List α}
    (hf : ∀ a ∈ as, ∀ b b', f b a = .ok b' → I b → I b') {b b' : β}
    (h : as.foldlM f b = .ok b') (hb : I b) : I b' := by
  induction as generalizing b with
  | nil =>
    cases h
    exact hb
  | cons a as ih =>
    rw [List.foldlM_cons] at h
    obtain ⟨b₁, ha, h⟩ := bind_eq_ok_iff.1 h
    exact ih (fun x hx => hf x (by simp [hx])) h (hf a (by simp) b b₁ ha hb)

/-- A fold goes on as long as the elements are good, where these keep the condition on the state and
all others fail alike. -/
lemma foldlM_decided {f : β → α → Except ε β} {I : β → Prop} {good : α → Prop} {e : ε}
    (hgood : ∀ b a, I b → good a → ∃ b', f b a = .ok b' ∧ I b')
    (hbad : ∀ b a, I b → ¬ good a → f b a = .error e) (as : List α) {b : β} (hb : I b) :
    ((∃ a ∈ as, ¬ good a) ∧ as.foldlM f b = .error e) ∨
      ((¬ ∃ a ∈ as, ¬ good a) ∧ ∃ b', as.foldlM f b = .ok b' ∧ I b') := by
  induction as generalizing b with
  | nil => exact .inr ⟨by simp, b, rfl, hb⟩
  | cons a as ih =>
    rw [List.foldlM_cons]
    by_cases ha : good a
    · obtain ⟨b₁, hok, hb₁⟩ := hgood b a hb ha
      rw [hok]
      simp only [List.exists_mem_cons_iff, ha, not_true_eq_false, false_or]
      exact ih hb₁
    · rw [hbad b a hb ha]
      exact .inl ⟨⟨a, by simp, ha⟩, rfl⟩

/-! ### Keys -/

/-- An element is found by its key if the keys are distinct. -/
lemma find?_eq_some_of_nodup [BEq β] [LawfulBEq β] {f : α → β} {as : List α}
    (hn : (as.map f).Nodup) {a : α} (ha : a ∈ as) : (as.find? fun x => f x == f a) = some a := by
  induction as with
  | nil => cases ha
  | cons b as ih =>
    rw [List.map_cons, List.nodup_cons] at hn
    rcases List.mem_cons.1 ha with rfl | ha
    · simp
    · have hne : (f b == f a) = false := by
        rw [beq_eq_false_iff_ne]
        intro heq
        exact hn.1 (heq ▸ List.mem_map_of_mem ha)
      rw [List.find?_cons, hne]
      exact ih hn.2 ha

/-- It is the only one with its key. -/
lemma filter_eq_singleton_of_nodup [BEq β] [LawfulBEq β] {f : α → β} {as : List α}
    (hn : (as.map f).Nodup) {a : α} (ha : a ∈ as) : (as.filter fun x => f x == f a) = [a] := by
  induction as with
  | nil => cases ha
  | cons b as ih =>
    obtain ⟨hb, hn⟩ := List.nodup_cons.1 hn
    rcases List.mem_cons.1 ha with rfl | ha
    · rw [List.filter_cons_of_pos (by simp), List.filter_eq_nil_iff.2]
      intro x hx heq
      exact hb (List.mem_map.2 ⟨x, hx, by simpa using heq⟩)
    · rw [List.filter_cons_of_neg, ih hn ha]
      intro heq
      exact hb (List.mem_map.2 ⟨a, ha, (beq_iff_eq.1 heq).symm⟩)

lemma mem_of_lookup [BEq α] [LawfulBEq α] {k : α} {b : β} {es : List (α × β)}
    (h : es.lookup k = some b) : (k, b) ∈ es := by
  obtain ⟨pre, post, rfl, -⟩ := List.lookup_eq_some_iff.1 h
  simp

lemma lookup_eq_some_of_nodup [BEq α] [LawfulBEq α] {k : α} {b : β} {es : List (α × β)}
    (hn : (es.map Prod.fst).Nodup) (h : (k, b) ∈ es) : es.lookup k = some b := by
  obtain ⟨pre, post, rfl⟩ := List.append_of_mem h
  refine List.lookup_eq_some_iff.2 ⟨pre, post, rfl, fun e he => ?_⟩
  rw [List.map_append, List.map_cons, List.nodup_append] at hn
  exact bne_iff_ne.2 fun hk => hn.2.2 e.1 (List.mem_map_of_mem he) k (by simp) hk.symm

/-- A key that is new leaves the keys distinct. -/
lemma nodup_keys_append {k : α} {es : List (α × β)} (hn : (es.map Prod.fst).Nodup)
    (hk : ∀ b, (k, b) ∉ es) (b : β) : ((es ++ [(k, b)]).map Prod.fst).Nodup := by
  have hnew : k ∉ es.map Prod.fst := by
    intro h
    obtain ⟨e, he, rfl⟩ := List.mem_map.1 h
    exact hk e.2 he
  rw [List.map_append, List.nodup_append]
  refine ⟨hn, by simp, ?_⟩
  rintro a ha c hc rfl
  have hak : a = k := List.mem_singleton.1 hc
  exact hnew (hak ▸ ha)

lemma lookup_map [BEq α] (f : β → γ) (k : α) (es : List (α × β)) :
    (es.map fun e => (e.1, f e.2)).lookup k = (es.lookup k).map f := by
  induction es with
  | nil => rfl
  | cons e es ih =>
    obtain ⟨l, b⟩ := e
    rw [List.map_cons, List.lookup_cons, List.lookup_cons, ih]
    cases k == l <;> rfl

/-! ### One place of an array -/

/-- Only what stands at the place matters. -/
lemma modify_congr {as : Array α} {n : Nat} {f g : α → α} (h : ∀ a, as[n]? = some a → f a = g a) :
    as.modify n f = as.modify n g := by
  refine Array.ext_getElem? fun i => ?_
  rw [Array.getElem?_modify, Array.getElem?_modify]
  split
  · rename_i hi
    subst hi
    exact Option.map_congr h
  · rfl

lemma modify_id (as : Array α) (n : Nat) : as.modify n id = as :=
  Array.ext_getElem? fun i => by simp [Array.getElem?_modify]

lemma modify_eq_self {as : Array α} {n : Nat} {f : α → α} (h : ∀ a, as[n]? = some a → f a = a) :
    as.modify n f = as := by
  rw [modify_congr (g := id) h, modify_id]

lemma modify_modify (as : Array α) (n : Nat) (f g : α → α) :
    (as.modify n f).modify n g = as.modify n (g ∘ f) := by
  refine Array.ext_getElem? fun i => ?_
  simp only [Array.getElem?_modify]
  split <;> simp [Option.map_map]

lemma map_modify {as : Array α} {n : Nat} {h : α → β} {f : α → α} {g : β → β}
    (hf : ∀ a, h (f a) = g (h a)) : (as.modify n f).map h = (as.map h).modify n g := by
  refine Array.ext_getElem? fun i => ?_
  simp only [Array.getElem?_map, Array.getElem?_modify]
  split
  · simp [Option.map_map, Function.comp_def, hf]
  · rfl

lemma modify_push (as : Array α) (a : α) (f : α → α) :
    (as.push a).modify as.size f = as.push (f a) := by
  refine Array.ext_getElem? fun i => ?_
  rw [Array.getElem?_modify, Array.getElem?_push, Array.getElem?_push]
  grind

end Embedder.Elementwise
