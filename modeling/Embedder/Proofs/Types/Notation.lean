import Embedder.Types.Text
import Embedder.Decimal
import Mathlib.Data.List.Basic

/-!
# What the text of a type tells

Types are written by putting the texts of their parts side by side. A part is found again by what stands
behind it: blanks part the words of a memory or a table, commas the types of a list, and parentheses
its ends.

* `splitOn_text_limits`, `MemoryType.splitOn_text`, `TableType.splitOn_text`: the words of these texts;
* `commaSeparated_inj`: a list is told by the texts of its elements;
* `FunctionType.text_injective`, `GlobalType.text_injective`, `TableType.text_injective`: the text tells
  the type;
* `MemoryType.text_eq_iff`: that of a memory tells all of it but the size of its addresses.
-/

namespace Embedder

/-! ### Parts of a text -/

/-- What stands in front of the first separator and what stands behind it are told by the whole. -/
lemma append_cons_inj_of_notMem {α : Type} [DecidableEq α] {a : α} {front front' back back' : List α}
    (hfront : a ∉ front) (hfront' : a ∉ front') (h : front ++ a :: back = front' ++ a :: back') :
    front = front' ∧ back = back' := by
  have hsplit := congrArg (List.splitOn a) h
  rw [List.splitOn_append_cons_self_of_not_mem hfront,
    List.splitOn_append_cons_self_of_not_mem hfront'] at hsplit
  obtain rfl := (List.cons.inj hsplit).1
  exact ⟨rfl, (List.cons.inj (List.append_cancel_left h)).2⟩

lemma Decimal.ofNat_injective : Function.Injective ofNat := by
  intro m n h
  have hvalue := congrArg (fun cs => Nat.ofDigitChars 10 cs 0) h
  simpa only [ofNat, Nat.ofDigitChars_ten_toDigits] using hvalue

lemma Decimal.notMem_ofNat {c : Char} (hc : c.isDigit = false) (n : Nat) : c ∉ ofNat n := by
  intro hmem
  have hdigit : c.isDigit = true := Nat.isDigit_of_mem_toDigits (by decide) (by decide) hmem
  rw [hc] at hdigit
  cases hdigit

lemma Decimal.toList_toString (n : Nat) : (toString n).toList = ofNat n := by
  rw [Nat.toString_eq_ofList_toDigits, String.toList_ofList, ofNat]

namespace ValueType

lemma text_injective : Function.Injective text := by
  intro t t' h
  cases t <;> cases t' <;> first | rfl | exact absurd h (by decide)

/-- The names of types are letters and digits. -/
lemma notMem_text {c : Char} (hc : c.isAlphanum = false) (t : ValueType) : c ∉ t.text.toList := by
  have hname : t.text.toList.all Char.isAlphanum = true := by cases t <;> decide
  intro hmem
  have hword := List.all_eq_true.1 hname c hmem
  rw [hc] at hword
  cases hword

lemma text_ne_empty (t : ValueType) : t.text ≠ "" := by
  cases t <;> decide

end ValueType

/-! ### Lists of types -/

/-- Between the commas are the elements, with a blank in front of each but the first. -/
lemma splitOn_commaSeparated {s : String} {rest : List String} (h : ∀ t ∈ s :: rest, ',' ∉ t.toList) :
    (commaSeparated (s :: rest)).toList.splitOn ',' =
      s.toList :: rest.map fun t => ' ' :: t.toList := by
  induction rest generalizing s with
  | nil => exact List.splitOn_eq_singleton (h s (by simp))
  | cons t rest ih =>
    have hfirst : ',' ∉ s.toList := h s (by simp)
    have htail := ih fun t' ht' => h t' (List.mem_cons_of_mem s ht')
    have hlist : (commaSeparated (s :: t :: rest)).toList =
        s.toList ++ ',' :: ' ' :: (commaSeparated (t :: rest)).toList := by
      rw [commaSeparated, String.toList_append, String.toList_append, List.append_assoc]
      rfl
    rw [hlist, List.splitOn_append_cons_self_of_not_mem hfirst, List.splitOn_cons_eq_if_modifyHead,
      htail]
    rfl

/-- **A list is told by its text** if no element is empty or has a comma. -/
theorem commaSeparated_inj {ss ts : List String} (hs : ∀ s ∈ ss, s ≠ "" ∧ ',' ∉ s.toList)
    (ht : ∀ t ∈ ts, t ≠ "" ∧ ',' ∉ t.toList) (h : commaSeparated ss = commaSeparated ts) : ss = ts := by
  have hempty {s : String} {rest : List String} (hs : ∀ t ∈ s :: rest, t ≠ "" ∧ ',' ∉ t.toList) :
      commaSeparated (s :: rest) ≠ commaSeparated [] := by
    intro h
    have hsplit := congrArg (fun text => text.toList.splitOn ',') h
    simp only [splitOn_commaSeparated fun t ht => (hs t ht).2] at hsplit
    exact (hs s (by simp)).1 (String.toList_inj.1 (List.cons.inj hsplit).1)
  cases ss with
  | nil =>
    cases ts with
    | nil => rfl
    | cons t ts => exact absurd h.symm (hempty ht)
  | cons s ss =>
    cases ts with
    | nil => exact absurd h (hempty hs)
    | cons t ts =>
      have hsplit := congrArg (fun text => text.toList.splitOn ',') h
      simp only [splitOn_commaSeparated fun t ht' => (hs t ht').2,
        splitOn_commaSeparated fun t' ht' => (ht t' ht').2, List.cons.injEq, String.toList_inj] at hsplit
      obtain ⟨rfl, htail⟩ := hsplit
      have hblank : Function.Injective fun t : String => ' ' :: t.toList := fun t t' h =>
        String.toList_inj.1 (List.cons.inj h).2
      rw [List.map_injective_iff.2 hblank htail]

namespace FunctionType

lemma commaSeparated_text_injective :
    Function.Injective fun ts : List ValueType => commaSeparated (ts.map ValueType.text) := by
  have hnames (ts : List ValueType) : ∀ s ∈ ts.map ValueType.text, s ≠ "" ∧ ',' ∉ s.toList := by
    intro s hs
    obtain ⟨t, -, rfl⟩ := List.mem_map.1 hs
    exact ⟨t.text_ne_empty, t.notMem_text rfl⟩
  intro ts ts' h
  exact List.map_injective_iff.2 ValueType.text_injective (commaSeparated_inj (hnames ts) (hnames ts') h)

/-- No list of types ends in front of its parenthesis. -/
lemma notMem_commaSeparated (ts : List ValueType) :
    ')' ∉ (commaSeparated (ts.map ValueType.text)).toList := by
  induction ts with
  | nil => simp [commaSeparated]
  | cons t ts ih =>
    have hfirst : ')' ∉ t.text.toList := t.notMem_text rfl
    cases ts with
    | nil => exact hfirst
    | cons t' ts => simpa [commaSeparated, hfirst] using ih

/-- **The text tells the parameters and the results**, in their order. -/
theorem text_injective : Function.Injective text := by
  intro t t' h
  have hlist := congrArg String.toList h
  simp only [text, String.append_assoc, String.toList_append] at hlist
  obtain ⟨hparams, hrest⟩ := append_cons_inj_of_notMem (notMem_commaSeparated t.params)
    (notMem_commaSeparated t'.params) (List.append_cancel_left hlist)
  obtain ⟨hresults, -⟩ := append_cons_inj_of_notMem (notMem_commaSeparated t.results)
    (notMem_commaSeparated t'.results) (List.append_cancel_left hrest)
  have hp := commaSeparated_text_injective (String.toList_inj.1 hparams)
  have hr := commaSeparated_text_injective (String.toList_inj.1 hresults)
  cases t
  cases t'
  simp_all

end FunctionType

/-! ### Limits -/

/-- The minimum and the maximum, as they are written. -/
def Limits.words (l : Limits) : List (List Char) :=
  (l.minimum :: l.maximum.toList).map Decimal.ofNat

namespace Limits

lemma splitOn_text (l : Limits) : l.text.toList.splitOn ' ' = l.words := by
  have hblank (n : Nat) : ' ' ∉ Decimal.ofNat n := Decimal.notMem_ofNat rfl n
  obtain ⟨minimum, maximum⟩ := l
  cases maximum with
  | none =>
    simp only [text, String.append_empty, Decimal.toList_toString, words]
    exact List.splitOn_eq_singleton (hblank minimum)
  | some m =>
    simp only [text, String.toList_append, Decimal.toList_toString, words]
    refine (List.splitOn_append_cons_self_of_not_mem (hblank minimum) _).trans ?_
    exact congrArg (Decimal.ofNat minimum :: ·) (List.splitOn_eq_singleton (hblank m))

lemma words_injective : Function.Injective words := by
  intro l l' h
  obtain ⟨minimum, maximum⟩ := l
  obtain ⟨minimum', maximum'⟩ := l'
  obtain ⟨rfl, hmaximum⟩ := List.cons.inj (List.map_injective_iff.2 Decimal.ofNat_injective h)
  cases maximum <;> cases maximum' <;> simp_all

/-- Limits are written in digits. -/
lemma notMem_words {cs : List Char} {c : Char} (hc : c ∈ cs) (hletter : c.isDigit = false)
    (l : Limits) : cs ∉ l.words := by
  intro hmem
  obtain ⟨n, -, rfl⟩ := List.mem_map.1 hmem
  exact Decimal.notMem_ofNat hletter n hc

end Limits

/-! ### Memories, tables and globals -/

namespace MemoryType

lemma splitOn_text (t : MemoryType) : t.text.toList.splitOn ' ' =
    "memory".toList :: (t.limits.words ++ if t.shared then ["shared".toList] else []) := by
  have hkind (cs : List Char) : ("memory ".toList ++ cs).splitOn ' ' =
      "memory".toList :: cs.splitOn ' ' :=
    List.splitOn_append_cons_self_of_not_mem (show ' ' ∉ "memory".toList by decide) cs
  simp only [text, String.append_assoc, String.toList_append, hkind]
  cases t.shared with
  | false => simp [Limits.splitOn_text]
  | true =>
    have hshared : " shared".toList = ' ' :: "shared".toList := rfl
    simp only [if_true, hshared, List.splitOn_append_cons_self, Limits.splitOn_text]
    rfl

/-- The word that only shared memories have. -/
lemma shared_mem_splitOn_text (t : MemoryType) :
    "shared".toList ∈ t.text.toList.splitOn ' ' ↔ t.shared = true := by
  have hlimits : "shared".toList ∉ t.limits.words :=
    t.limits.notMem_words (c := 's') (by decide) rfl
  rw [splitOn_text]
  cases t.shared <;> simp_all

/-- **The text of a memory tells its limits and whether it is shared**, and nothing of the size of its
addresses. -/
theorem text_eq_iff {t t' : MemoryType} :
    t.text = t'.text ↔ t.limits = t'.limits ∧ t.shared = t'.shared := by
  constructor
  · intro h
    have hshared : t.shared = t'.shared := by
      rw [Bool.eq_iff_iff, ← shared_mem_splitOn_text, ← shared_mem_splitOn_text, h]
    have hwords := congrArg (fun text => text.toList.splitOn ' ') h
    simp only [splitOn_text, hshared, List.cons.injEq, true_and] at hwords
    exact ⟨Limits.words_injective (List.append_cancel_right hwords), hshared⟩
  · rintro ⟨hlimits, hshared⟩
    rw [text, text, hlimits, hshared]

end MemoryType

namespace TableType

lemma splitOn_text (t : TableType) : t.text.toList.splitOn ' ' =
    "table".toList :: (t.limits.words ++ [t.element.text.toList]) := by
  have hkind (cs : List Char) : ("table ".toList ++ cs).splitOn ' ' =
      "table".toList :: cs.splitOn ' ' :=
    List.splitOn_append_cons_self_of_not_mem (show ' ' ∉ "table".toList by decide) cs
  have hblank : " ".toList = [' '] := rfl
  simp only [text, String.append_assoc, String.toList_append, hkind, hblank, List.singleton_append,
    List.splitOn_append_cons_self, Limits.splitOn_text]
  rw [List.splitOn_eq_singleton (t.element.notMem_text rfl)]

/-- **The text tells the limits and what the elements are.** -/
theorem text_injective : Function.Injective text := by
  intro t t' h
  have hwords := congrArg (fun text => text.toList.splitOn ' ') h
  simp only [splitOn_text, List.cons.injEq, true_and] at hwords
  obtain ⟨hlimits, helement⟩ := List.append_inj' hwords rfl
  have hl := Limits.mk.inj (Limits.words_injective hlimits)
  have he := ValueType.text_injective (String.toList_inj.1 (List.cons.inj helement).1)
  cases t
  cases t'
  simp_all

end TableType

namespace GlobalType

/-- **The text tells what the value is and whether it changes.** -/
theorem text_injective : Function.Injective text := by
  rintro ⟨value, mutable⟩ ⟨value', mutable'⟩ h
  cases value <;> cases mutable <;> cases value' <;> cases mutable' <;>
    first | rfl | exact absurd h (by decide)

end GlobalType

end Embedder
