import Embedder.Engine
import Embedder.Proofs.Config.Soundness
import Embedder.Proofs.Json.Documents
import Embedder.Proofs.Lists
import Mathlib.Data.List.Forall2
import Mathlib.Data.List.Nodup

/-!
# The schema of a configuration

A configuration is described by an object with any of its fields, in any order, or by an array with
the values of the first fields. What is left out has its standard value. Each text of a document is
read as the configuration that the document describes, and is refused if there is none.

* `Config.Gives`, `Config.IllTyped`: a document that has the value of a field, or can not have it;
* `Config.SameAt`: two configurations agree in a field;
* `Config.DescribedBy`: a configuration and a document that describes it;
* `Config.ofDocument?_eq_some_iff`: these are the configurations that are read off documents;
* `Config.ofJson_eq_ok_iff`: the texts of these documents are accepted, and no others;
* `Config.AcceptsSchema`, `Config.accepts_exactly_schema`: which texts are read, and as what.
-/

namespace Embedder

/-! ### Names -/

lemma Optimization.ofText?_eq_some_iff {s : String} {o : Optimization} :
    ofText? s = some o ↔ s = o.text := by
  constructor
  · intro h
    have hfound := List.find?_some h
    exact (eq_of_beq hfound).symm
  · rintro rfl
    cases o <;> decide

namespace Config

open Json (Document Numeral IsText)

lemma Field.ofText?_eq_some_iff {s : String} {f : Field} : ofText? s = some f ↔ s = f.text := by
  constructor
  · intro h
    have hfound := List.find?_some h
    exact (eq_of_beq hfound).symm
  · rintro rfl
    cases f <;> decide

lemma Field.text_injective {f f' : Field} (h : f.text = f'.text) : f = f' :=
  Option.some.inj ((ofText?_eq_some_iff.2 rfl).symm.trans (ofText?_eq_some_iff.2 h))

/-! ### The values of fields -/

/-- The document has the value that the field has in `c`. -/
inductive Gives (c : Config) : Field → Document → Prop where
  | name : Gives c .optimization (.string c.optimization.text)
  | tag : Gives c .optimization (.object [(c.optimization.text, .null)])
  | debugInfo : Gives c .debugInfo (.bool c.debugInfo)
  | parallelCompilation : Gives c .parallelCompilation (.bool c.parallelCompilation)
  | noStack : c.maxWasmStack = none → Gives c .maxWasmStack .null
  | stack {n : Nat} : c.maxWasmStack = some n → n < 2 ^ 64 →
      Gives c .maxWasmStack (.number (.natural n))

def SameAt (c c' : Config) : Field → Prop
  | .optimization => c.optimization = c'.optimization
  | .debugInfo => c.debugInfo = c'.debugInfo
  | .parallelCompilation => c.parallelCompilation = c'.parallelCompilation
  | .maxWasmStack => c.maxWasmStack = c'.maxWasmStack

variable {c c' : Config} {f f' : Field} {d : Document} {g g' : Given}

lemma SameAt.trans {c'' : Config} (h : c.SameAt c' f) (h' : c'.SameAt c'' f) : c.SameAt c'' f := by
  cases f <;> exact Eq.trans h h'

lemma SameAt.symm (h : c.SameAt c' f) : c'.SameAt c f := by cases f <;> exact Eq.symm h

lemma eq_of_sameAt (h : ∀ f, c.SameAt c' f) : c = c' := by
  obtain ⟨o, i, p, m⟩ := c
  obtain ⟨o', i', p', m'⟩ := c'
  obtain rfl : o = o' := h .optimization
  obtain rfl : i = i' := h .debugInfo
  obtain rfl : p = p' := h .parallelCompilation
  obtain rfl : m = m' := h .maxWasmStack
  rfl

/-- Values of another type than the field has: a size that is negative, has a fraction or an exponent,
or is too large; null for a truth value; a name of no optimization. -/
inductive IllTyped : Field → Document → Prop where
  | negative {n : Numeral} : n.negative = true → IllTyped .maxWasmStack (.number n)
  | fraction {n : Numeral} : n.fraction ≠ [] → IllTyped .maxWasmStack (.number n)
  | exponent {n : Numeral} : n.exponent ≠ none → IllTyped .maxWasmStack (.number n)
  | tooLarge {n : Numeral} : 2 ^ 64 ≤ n.whole → IllTyped .maxWasmStack (.number n)
  | nullDebugInfo : IllTyped .debugInfo .null
  | nullParallel : IllTyped .parallelCompilation .null
  | unknownName {s : String} : (∀ o : Optimization, s ≠ o.text) → IllTyped .optimization (.string s)

lemma IllTyped.not_gives (h : IllTyped f d) : ¬ c.Gives f d := by
  intro hgives
  cases h with
  | negative hn =>
    cases hgives
    cases hn
  | fraction hn | exponent hn =>
    cases hgives
    exact hn rfl
  | tooLarge hn =>
    cases hgives with
    | stack _ hlt => exact absurd hlt (Nat.not_lt.2 hn)
  | nullDebugInfo => cases hgives
  | nullParallel => cases hgives
  | unknownName hname =>
    cases hgives
    exact hname _ rfl

/-- Only the field itself matters. -/
lemma Gives.congr (h : c.Gives f d) (hf : c.SameAt c' f) : c'.Gives f d := by
  cases h with
  | name => rw [show c.optimization = c'.optimization from hf]; exact .name
  | tag => rw [show c.optimization = c'.optimization from hf]; exact .tag
  | debugInfo => rw [show c.debugInfo = c'.debugInfo from hf]; exact .debugInfo
  | parallelCompilation =>
    rw [show c.parallelCompilation = c'.parallelCompilation from hf]; exact .parallelCompilation
  | noStack h => exact .noStack (Eq.trans (Eq.symm hf) h)
  | stack h hn => exact .stack (Eq.trans (Eq.symm hf) h) hn

/-! ### Putting fields in -/

namespace Given

/-- The field with the value that it has in `c`. -/
def put (g : Given) (f : Field) (c : Config) : Given :=
  match f with
  | .optimization => { g with optimization := some c.optimization }
  | .debugInfo => { g with debugInfo := some c.debugInfo }
  | .parallelCompilation => { g with parallelCompilation := some c.parallelCompilation }
  | .maxWasmStack => { g with maxWasmStack := some c.maxWasmStack }

lemma has_put : (g.put f c).has f' = (g.has f' || decide (f' = f)) := by
  cases f <;> cases f' <;> simp [put, has]

lemma complete_put_self : (g.put f c).complete.SameAt c f := by cases f <;> rfl

lemma complete_put_of_ne (h : f' ≠ f) : (g.put f c).complete.SameAt g.complete f' := by
  cases f <;> cases f' <;> first | rfl | exact absurd rfl h

/-- A document that has the value of a field puts it in. -/
lemma put?_of_gives (h : c.Gives f d) : g.put? f d = some (g.put f c) := by
  cases h with
  | name => simp [put?, put, optimizationOf?, Optimization.ofText?_eq_some_iff.2 rfl]
  | tag => simp [put?, put, optimizationOf?, Optimization.ofText?_eq_some_iff.2 rfl]
  | debugInfo => rfl
  | parallelCompilation => rfl
  | noStack h => simp [put?, put, sizeOf?, h]
  | @stack n h hn =>
    have hnatural : (Numeral.natural n).IsNatural := ⟨rfl, rfl, rfl⟩
    have hsize : sizeOf? (.number (.natural n)) = some (some n) := if_pos ⟨hnatural, hn⟩
    simp [put?, put, hsize, h]

/-- What is put in is the value of the field in some configuration. -/
lemma exists_of_put? (h : g.put? f d = some g') : ∃ c, c.Gives f d ∧ g' = g.put f c := by
  cases f with
  | optimization =>
    obtain ⟨o, ho, rfl⟩ := Option.map_eq_some_iff.1 h
    refine ⟨{ standard with optimization := o }, ?_, rfl⟩
    unfold optimizationOf? at ho
    split at ho
    · obtain rfl := Optimization.ofText?_eq_some_iff.1 ho
      exact .name
    · obtain rfl := Optimization.ofText?_eq_some_iff.1 ho
      exact .tag
    · cases ho
  | debugInfo =>
    obtain ⟨b, hb, rfl⟩ := Option.map_eq_some_iff.1 h
    refine ⟨{ standard with debugInfo := b }, ?_, rfl⟩
    cases d <;> cases hb
    exact .debugInfo
  | parallelCompilation =>
    obtain ⟨b, hb, rfl⟩ := Option.map_eq_some_iff.1 h
    refine ⟨{ standard with parallelCompilation := b }, ?_, rfl⟩
    cases d <;> cases hb
    exact .parallelCompilation
  | maxWasmStack =>
    obtain ⟨m, hm, rfl⟩ := Option.map_eq_some_iff.1 h
    refine ⟨{ standard with maxWasmStack := m }, ?_, rfl⟩
    unfold sizeOf? at hm
    split at hm
    · cases hm
      exact .noStack rfl
    · split at hm
      · next n hn =>
        cases hm
        obtain ⟨sign, whole, fraction, exponent, hdigits⟩ := n
        obtain ⟨⟨rfl, rfl, rfl⟩, hn⟩ := hn
        exact .stack rfl hn
      · cases hm
    · cases hm

end Given

/-! ### Described configurations -/

/-- The member is the field with its value in `c`. -/
def IsMember (c : Config) (f : Field) (m : String × Document) : Prop := m.1 = f.text ∧ c.Gives f m.2

/-- What a document that describes `c` looks like. -/
inductive DescribedBy (c : Config) : Document → Prop where
  | object {fs : List Field} {ms : List (String × Document)} : fs.Nodup →
      List.Forall₂ c.IsMember fs ms → (∀ f, f ∉ fs → c.SameAt standard f) → DescribedBy c (.object ms)
  | array {k : Nat} {ds : List Document} : List.Forall₂ c.Gives (Field.all.take k) ds →
      (∀ f ∈ Field.all.drop k, c.SameAt standard f) → DescribedBy c (.array ds)

namespace Given

/-- All of these fields with their values in `c`. -/
def puts (g : Given) (c : Config) (fs : List Field) : Given := fs.foldl (fun g f => g.put f c) g

lemma complete_puts {fs : List Field} (h : ∀ f, f ∈ fs ∨ g.complete.SameAt c f) :
    (g.puts c fs).complete = c := by
  induction fs generalizing g with
  | nil => exact eq_of_sameAt fun f => (h f).resolve_left List.not_mem_nil
  | cons f fs ih =>
    refine ih fun f' => ?_
    by_cases hf : f' = f
    · exact .inr (hf ▸ complete_put_self)
    · refine (h f').imp (fun hmem => ?_) fun hsame => (complete_put_of_ne hf).trans hsame
      exact (List.mem_cons.1 hmem).resolve_left hf

lemma putAll?_of_members {fs : List Field} {ms : List (String × Document)} (hfs : fs.Nodup)
    (hnew : ∀ f ∈ fs, g.has f = false) (h : List.Forall₂ c.IsMember fs ms) :
    g.putAll? ms = some (g.puts c fs) := by
  induction h generalizing g with
  | nil => rfl
  | @cons f m fs ms hm _ ih =>
    obtain ⟨name, d⟩ := m
    obtain ⟨rfl, hd⟩ := hm
    obtain ⟨hf, hfs⟩ := List.nodup_cons.1 hfs
    have hnew' : ∀ f' ∈ fs, (g.put f c).has f' = false := by
      intro f' hf'
      have hne : f' ≠ f := fun h => hf (h ▸ hf')
      simp [has_put, hnew f' (List.mem_cons_of_mem _ hf'), hne]
    simp only [putAll?, Field.ofText?_eq_some_iff.2 rfl, hnew f List.mem_cons_self,
      put?_of_gives hd, Option.bind_some, Bool.false_eq_true, if_false]
    exact ih hfs hnew'

lemma putEach?_of_gives {fs : List Field} {ds : List Document} (h : List.Forall₂ c.Gives fs ds)
    (more : List Field) : g.putEach? (fs ++ more) ds = some (g.puts c fs) := by
  induction h generalizing g with
  | nil => cases more <;> rfl
  | cons hd _ ih =>
    simp only [List.cons_append, putEach?, put?_of_gives hd, Option.bind_some]
    exact ih

/-- What members put in is what they describe. -/
lemma exists_of_putAll? {ms : List (String × Document)} (h : g.putAll? ms = some g') :
    ∃ fs : List Field, fs.Nodup ∧ (∀ f ∈ fs, g.has f = false) ∧
      List.Forall₂ g'.complete.IsMember fs ms ∧ ∀ f, f ∉ fs → g'.complete.SameAt g.complete f := by
  induction ms generalizing g with
  | nil =>
    cases h
    exact ⟨[], List.nodup_nil, by simp, .nil, fun f _ => by cases f <;> rfl⟩
  | cons m ms ih =>
    obtain ⟨name, d⟩ := m
    simp only [putAll?] at h
    split at h
    · cases h
    next f hf =>
      split at h
      · cases h
      next hnew =>
        obtain ⟨g₁, hput, hms⟩ := Option.bind_eq_some_iff.1 h
        obtain ⟨c, hd, rfl⟩ := exists_of_put? hput
        obtain ⟨fs, hnodup, hfresh, hmembers, hrest⟩ := ih hms
        have hmem : f ∉ fs := by
          intro hmem
          have := hfresh f hmem
          simp [has_put] at this
        refine ⟨f :: fs, List.nodup_cons.2 ⟨hmem, hnodup⟩, ?_, .cons ⟨?_, ?_⟩ hmembers, ?_⟩
        · intro f' hf'
          rcases List.mem_cons.1 hf' with rfl | hf'
          · simpa using hnew
          · have := hfresh f' hf'
            simp only [has_put, Bool.or_eq_false_iff] at this
            exact this.1
        · exact Field.ofText?_eq_some_iff.1 hf
        · -- no later member is of this field, so it keeps the value that was put in
          exact hd.congr ((hrest f hmem).trans complete_put_self).symm
        · intro f' hf'
          obtain ⟨hne, hf'⟩ := not_or.1 (List.mem_cons.not.1 hf')
          exact (hrest f' hf').trans (complete_put_of_ne hne)

lemma exists_of_putEach? {fs : List Field} {ds : List Document} (hfs : fs.Nodup)
    (h : g.putEach? fs ds = some g') :
    ∃ k, List.Forall₂ g'.complete.Gives (fs.take k) ds ∧
      ∀ f, f ∉ fs.take k → g'.complete.SameAt g.complete f := by
  induction fs generalizing g ds with
  | nil =>
    cases ds with
    | nil =>
      cases h
      exact ⟨0, .nil, fun f _ => by cases f <;> rfl⟩
    | cons d ds => cases h
  | cons f fs ih =>
    cases ds with
    | nil =>
      cases h
      exact ⟨0, .nil, fun f _ => by cases f <;> rfl⟩
    | cons d ds =>
      obtain ⟨hf, hfs⟩ := List.nodup_cons.1 hfs
      obtain ⟨g₁, hput, hds⟩ := Option.bind_eq_some_iff.1 h
      obtain ⟨c, hd, rfl⟩ := exists_of_put? hput
      obtain ⟨k, hgives, hrest⟩ := ih hfs hds
      have hmem : f ∉ fs.take k := fun hmem => hf (List.mem_of_mem_take hmem)
      refine ⟨k + 1, .cons (hd.congr ((hrest f hmem).trans complete_put_self).symm) hgives, ?_⟩
      intro f' hf'
      obtain ⟨hne, hf'⟩ := not_or.1 (List.mem_cons.not.1 hf')
      exact (hrest f' hf').trans (complete_put_of_ne hne)

end Given

lemma Field.mem_all (f : Field) : f ∈ Field.all := by cases f <;> decide

/-- **The configuration that is read off a document** is the one that the document describes. -/
theorem ofDocument?_eq_some_iff : ofDocument? d = some c ↔ c.DescribedBy d := by
  have hnodup : Field.all.Nodup := by decide
  constructor
  · intro h
    obtain ⟨g, hg, rfl⟩ := Option.map_eq_some_iff.1 h
    cases d with
    | object ms =>
      obtain ⟨fs, hfs, -, hmembers, hrest⟩ := Given.exists_of_putAll? hg
      exact .object hfs hmembers hrest
    | array ds =>
      obtain ⟨k, hgives, hrest⟩ := Given.exists_of_putEach? hnodup hg
      refine .array hgives fun f hf => hrest f fun hmem => ?_
      exact List.disjoint_take_drop hnodup (Nat.le_refl k) hmem hf
    | _ => cases hg
  · intro h
    cases h with
    | @object fs ms hfs hmembers hrest =>
      have hg := Given.putAll?_of_members (g := .empty) hfs (fun f _ => by cases f <;> rfl) hmembers
      refine Option.map_eq_some_iff.2 ⟨_, hg, Given.complete_puts fun f => ?_⟩
      by_cases hf : f ∈ fs
      · exact .inl hf
      · exact .inr (hrest f hf).symm
    | @array k ds hgives hrest =>
      have hg := Given.putEach?_of_gives (g := .empty) hgives (Field.all.drop k)
      rw [List.take_append_drop] at hg
      refine Option.map_eq_some_iff.2 ⟨_, hg, Given.complete_puts fun f => ?_⟩
      have hf := Field.mem_all f
      rw [← List.take_append_drop k Field.all] at hf
      exact (List.mem_append.1 hf).imp_right fun hdrop => (hrest f hdrop).symm

/-! ### What no configuration is described by -/

/-- What is wrong with the members of an object: a name that is none of a field, a name that comes
again, or a value that is none of its field. -/
inductive Unfit (ms : List (String × Document)) : Prop where
  | unknown {m : String × Document} : m ∈ ms → (∀ f : Field, m.1 ≠ f.text) → Unfit ms
  | repeated : ¬ (ms.map Prod.fst).Nodup → Unfit ms
  | illTyped {m : String × Document} {f : Field} : m ∈ ms → m.1 = f.text →
      (∀ c : Config, ¬ c.Gives f m.2) → Unfit ms

/-- Every member of an object that describes a configuration is a field of its own. -/
lemma not_describedBy_of_unfit {ms : List (String × Document)} (h : Unfit ms) :
    ¬ c.DescribedBy (.object ms) := by
  intro hc
  cases hc with
  | @object fs ms hfs hmembers hrest =>
    have hfield (m : String × Document) (hm : m ∈ ms) : ∃ f ∈ fs, c.IsMember f m :=
      Elementwise.exists_mem_of_forall₂
        (List.Forall₂.flip (R := fun m f => c.IsMember f m) hmembers) hm
    cases h with
    | unknown hm hname =>
      obtain ⟨f, -, hf, -⟩ := hfield _ hm
      exact hname f hf
    | repeated hrepeated =>
      have hnames : fs.map Field.text = ms.map Prod.fst :=
        Elementwise.map_eq_map_of_forall₂ (hmembers.imp fun f m hm => hm.1.symm)
      exact hrepeated (hnames ▸ hfs.map fun f f' => Field.text_injective)
    | illTyped hm hname hvalue =>
      obtain ⟨f, -, hf, hgives⟩ := hfield _ hm
      obtain rfl := Field.text_injective (hname.symm.trans hf)
      exact hvalue c hgives

/-! ### What is read and what is refused -/

variable {s : String}

/-- The text is refused as no configuration. -/
def Refused (s : String) : Prop :=
  ∃ r, ofJson s = .error r ∧ ∀ number, Engine.ofJson number s = .error (.malformed r)

/-- **A text is accepted** if it is the text of a document that describes a configuration. -/
theorem ofJson_eq_ok_iff : ofJson s = .ok c ↔ ∃ d, IsText s d ∧ c.DescribedBy d := by
  constructor
  · intro h
    obtain ⟨d, hs, hd⟩ := exists_isText_of_ofJson h
    exact ⟨d, hs, ofDocument?_eq_some_iff.1 hd⟩
  · rintro ⟨d, hs, hd⟩
    exact ofJson_eq_ok hs (ofDocument?_eq_some_iff.2 hd)

lemma refused_of_unfit {ms : List (String × Document)} (hs : IsText s (.object ms)) (h : Unfit ms) :
    Refused s := by
  have hnone : ofDocument? (.object ms) = none := by
    rw [Option.eq_none_iff_forall_ne_some]
    exact fun c hc => not_describedBy_of_unfit h (ofDocument?_eq_some_iff.1 hc)
  obtain ⟨r, hr⟩ := exists_ofJson_eq_error hs hnone
  exact ⟨r, hr, fun number => by rw [Engine.ofJson, hr]⟩

/-- The bound is a number of 64 bits. -/
def InRange (c : Config) : Prop := ∀ n, c.maxWasmStack = some n → n < 2 ^ 64

lemma exists_gives (hc : c.InRange) (f : Field) : ∃ d, c.Gives f d := by
  cases f with
  | optimization => exact ⟨_, .name⟩
  | debugInfo => exact ⟨_, .debugInfo⟩
  | parallelCompilation => exact ⟨_, .parallelCompilation⟩
  | maxWasmStack =>
    cases h : c.maxWasmStack with
    | none => exact ⟨_, .noStack h⟩
    | some n => exact ⟨_, .stack h (hc n h)⟩

/-- Which texts are read as a configuration, and as which. -/
structure AcceptsSchema : Prop where
  /-- An object with any of the fields is read, in any order and however it is spelled. -/
  object (c : Config) (fs : List Field) (ms : List (String × Document)) (s : String)
    (hs : IsText s (.object ms)) (hfs : fs.Nodup) (hms : List.Forall₂ c.IsMember fs ms)
    (hrest : ∀ f, f ∉ fs → c.SameAt standard f) : ofJson s = .ok c
  /-- An array with the first of the values is read. -/
  array (c : Config) (k : Nat) (ds : List Document) (s : String) (hs : IsText s (.array ds))
    (hds : List.Forall₂ c.Gives (Field.all.take k) ds)
    (hrest : ∀ f ∈ Field.all.drop k, c.SameAt standard f) : ofJson s = .ok c
  /-- For any of the fields there is such an object, and a text of it. -/
  written (c : Config) (hc : c.InRange) (fs : List Field) :
    ∃ ms s, IsText s (.object ms) ∧ List.Forall₂ c.IsMember fs ms
  /-- An object with any other members is refused. -/
  refused (ms : List (String × Document)) (s : String) (hs : IsText s (.object ms))
    (hms : Unfit ms) : Refused s
  /-- These values are none of their fields, whatever the configuration is. -/
  illTyped (f : Field) (d : Document) (hd : IllTyped f d) (c : Config) : ¬ c.Gives f d
  /-- Nothing else is read. -/
  only (s : String) (c : Config) (h : ofJson s = .ok c) : ∃ d, IsText s d ∧ c.DescribedBy d

/-- **Exactly the texts of the schema are accepted**, each as what it describes. -/
theorem accepts_exactly_schema : AcceptsSchema where
  object c fs ms s hs hfs hms hrest := ofJson_eq_ok_iff.2 ⟨_, hs, .object hfs hms hrest⟩
  array c k ds s hs hds hrest := ofJson_eq_ok_iff.2 ⟨_, hs, .array hds hrest⟩
  written c hc fs := by
    choose value hvalue using exists_gives hc
    obtain ⟨s, hs⟩ := Json.exists_isText (.object (fs.map fun f => (f.text, value f)))
    refine ⟨_, s, hs, List.forall₂_map_right_iff.2 (List.forall₂_same.2 fun f _ => ?_)⟩
    exact ⟨rfl, hvalue f⟩
  refused ms s hs hms := refused_of_unfit hs hms
  illTyped f d hd c := hd.not_gives
  only s c h := ofJson_eq_ok_iff.1 h

/-- One field in an object with blanks in it. -/
theorem debugging_is_read :
    ofJson "\x7b \"debug_info\": true\n\x7d" = .ok { standard with debugInfo := true } := by
  have hs : IsText "\x7b \"debug_info\": true\n\x7d" (.object [("debug_info", .bool true)]) := by
    have hname := Json.quotes_quoted "debug_info" (": true\n\x7d".toList)
    refine .padded (.none _) (.object (.last (.member (.more (.inl rfl) (.none _)) hname (.none _)
      (.padded (.more (.inl rfl) (.none _)) (.true _) (.more (.inr (.inl rfl)) (.none _))))))
      (.none _)
  refine accepts_exactly_schema.object _ [.debugInfo] _ _ hs (by decide)
    (.cons ⟨rfl, .debugInfo⟩ .nil) fun f hf => ?_
  cases f with
  | debugInfo => exact absurd (List.mem_singleton_self _) hf
  | _ => rfl

end Config

end Embedder
