/-!
Values by key, in the order in which the keys came first.

* `Dictionary.insert`: a later value of a key takes the place of an earlier one;
* `Dictionary.find?`: the value of a key, the last one that was inserted.
-/

namespace Embedder

abbrev Dictionary (κ ν : Type) := List (κ × ν)

namespace Dictionary

variable {κ ν : Type} [DecidableEq κ]

def find? (d : Dictionary κ ν) (k : κ) : Option ν :=
  match d with
  | [] => none
  | (l, v) :: rest => if l = k then some v else find? rest k

def insert (d : Dictionary κ ν) (k : κ) (v : ν) : Dictionary κ ν :=
  match d with
  | [] => [(k, v)]
  | (l, w) :: rest => if l = k then (l, v) :: rest else (l, w) :: insert rest k v

/-- Inserts the members of `other` in their order. -/
def merge (d other : Dictionary κ ν) : Dictionary κ ν :=
  other.foldl (fun d e => d.insert e.1 e.2) d

def keys (d : Dictionary κ ν) : List κ := d.map Prod.fst

@[simp] theorem find?_insert_self (d : Dictionary κ ν) (k : κ) (v : ν) :
    (d.insert k v).find? k = some v := by
  induction d with
  | nil => simp [insert, find?]
  | cons e rest ih =>
    obtain ⟨l, w⟩ := e
    by_cases h : l = k <;> simp [insert, find?, h, ih]

theorem find?_insert_of_ne (d : Dictionary κ ν) {k l : κ} (v : ν) (h : k ≠ l) :
    (d.insert k v).find? l = d.find? l := by
  induction d with
  | nil => simp [insert, find?, h]
  | cons e rest ih =>
    obtain ⟨m, w⟩ := e
    by_cases hm : m = k
    · subst hm
      simp [insert, find?, h]
    · by_cases hl : m = l
      · subst hl
        simp [insert, find?, hm]
      · simp [insert, find?, hm, hl, ih]

theorem mem_keys_iff (d : Dictionary κ ν) (k : κ) : k ∈ d.keys ↔ (d.find? k).isSome := by
  induction d with
  | nil => simp [keys, find?]
  | cons e rest ih =>
    obtain ⟨l, w⟩ := e
    by_cases h : l = k
    · simp [keys, find?, h]
    · simp only [keys, List.map_cons, List.mem_cons, find?, h, if_false]
      rw [← ih]
      simp [keys, Ne.symm h]

end Dictionary

end Embedder
