import Embedder.Proofs.Config.Values

/-!
# Reading a configuration from a document

A configuration is read off a text as it is read off the document that the text spells: fields are
put in one after the other, and whatever does not fit is refused.

* `Config.Given.put?`: one field is given by a document;
* `Config.Given.putAll?`, `Config.Given.putEach?`: the members of an object, the items of an array;
* `Config.ofDocument?`: the configuration that a document describes;
* `Config.ofJson_eq_ok`, `Config.exists_ofJson_eq_error`: that is what is read, or the text is refused.
-/

namespace Embedder.Config

open Json (Document Blanks Padded Quotes SpellsMembers SpellsItems Reads Passes Refuses Answers
  Cursor Ended)

variable {cs as bs rest : List Char} {d : Document} {g : Given}

/-! ### Configurations in documents -/

namespace Given

/-- The field with the value that the document is. -/
def put? (g : Given) (f : Field) (d : Document) : Option Given :=
  match f with
  | .optimization => (optimizationOf? d).map fun v => { g with optimization := some v }
  | .debugInfo => (boolOf? d).map fun v => { g with debugInfo := some v }
  | .parallelCompilation => (boolOf? d).map fun v => { g with parallelCompilation := some v }
  | .maxWasmStack => (sizeOf? d).map fun v => { g with maxWasmStack := some v }

/-- Every member is a field that was not given before. -/
def putAll? (g : Given) : List (String × Document) → Option Given
  | [] => some g
  | (name, d) :: ms =>
    match Field.ofText? name with
    | none => none
    | some f => if g.has f then none else (g.put? f d).bind fun g => g.putAll? ms

/-- Every item is the value of the next field. -/
def putEach? (g : Given) : List Field → List Document → Option Given
  | _, [] => some g
  | [], _ :: _ => none
  | f :: fs, d :: ds => (g.put? f d).bind fun g => g.putEach? fs ds

end Given

/-- What an object or an array gives. -/
def Given.ofDocument? : Document → Option Given
  | .object ms => Given.empty.putAll? ms
  | .array ds => Given.empty.putEach? Field.all ds
  | _ => none

/-- The configuration that a document describes. -/
def ofDocument? (d : Document) : Option Config := (Given.ofDocument? d).map Given.complete

/-! ### Single fields -/

lemma Given.answers_read (g : Given) (f : Field) (h : Padded d cs rest) (hrest : Ended rest) :
    ∃ bs, Blanks bs rest ∧ Answers (g.read f) cs bs (g.put? f d) := by
  obtain ⟨hb, hd, hb'⟩ := h
  refine ⟨_, hb', ?_⟩
  cases f with
  | optimization =>
    exact (answers_of_skip readOptimization_skipBlanks hb hd.bare (answers_readOptimization hd)).map _
  | debugInfo => exact (answers_of_skip readBool_skipBlanks hb hd.bare (answers_readBool hd)).map _
  | parallelCompilation =>
    exact (answers_of_skip readBool_skipBlanks hb hd.bare (answers_readBool hd)).map _
  | maxWasmStack =>
    exact (answers_of_skip readOptionalSize_skipBlanks hb hd.bare
      (answers_readOptionalSize hd (hb'.ended hrest))).map _

/-! ### The members of an object -/

/-- The members that are left, where an object starts or behind one of its members. -/
inductive MembersLeft : Bool → List (String × Document) → List Char → List Char → Prop where
  | first {ms : List (String × Document)} {cs rest : List Char} :
      SpellsMembers ms cs rest → MembersLeft true ms cs rest
  | none {cs rest : List Char} : Blanks cs ('\x7d' :: rest) → MembersLeft false [] cs rest
  | more {m : String × Document} {ms : List (String × Document)} {cs as rest : List Char} :
      Blanks cs (',' :: as) → SpellsMembers (m :: ms) as rest → MembersLeft false (m :: ms) cs rest

variable {first : Bool} {ms : List (String × Document)}

lemma ended_comma (cs : List Char) : Ended (',' :: cs) := by
  rintro _ ⟨⟩
  decide

lemma ended_brace (cs : List Char) : Ended ('\x7d' :: cs) := by
  rintro _ ⟨⟩
  decide

lemma MembersLeft.reads_none (h : MembersLeft first [] cs rest) :
    Reads (memberFollows first) cs false ('\x7d' :: rest) := by
  have hb : Blanks cs ('\x7d' :: rest) := by
    cases h with
    | first h =>
      obtain ⟨h⟩ := h
      exact h
    | none h => exact h
  intro p
  obtain ⟨q, hq⟩ := Json.skips hb (Json.bare_cons.2 (by decide)) p
  exact ⟨q, by simp only [memberFollows, hq]; rfl⟩

lemma MembersLeft.reads_member {name : String} (h : MembersLeft first ((name, d) :: ms) cs rest) :
    ∃ as bs es after, Reads (memberFollows first) cs true as ∧ Quotes name as bs ∧
      Blanks bs (':' :: es) ∧ Padded d es after ∧ Ended after ∧
      ∀ b, Blanks b after → MembersLeft false ms b rest := by
  have hmember {cs : List Char} (h : SpellsMembers ((name, d) :: ms) cs rest) :
      ∃ as bs es after, Blanks cs as ∧ Quotes name as bs ∧ Blanks bs (':' :: es) ∧
        Padded d es after ∧ Ended after ∧ ∀ b, Blanks b after → MembersLeft false ms b rest := by
    cases h with
    | last h =>
      obtain ⟨h₁, h₂, h₃, h₄⟩ := h
      exact ⟨_, _, _, _, h₁, h₂, h₃, h₄, ended_brace _, fun b hb => .none hb⟩
    | more h hms =>
      obtain ⟨h₁, h₂, h₃, h₄⟩ := h
      exact ⟨_, _, _, _, h₁, h₂, h₃, h₄, ended_comma _, fun b hb => .more hb hms⟩
  cases h with
  | first h =>
    obtain ⟨as, bs, es, after, hb, hname, hrest⟩ := hmember h
    refine ⟨as, bs, es, after, fun p => ?_, hname, hrest⟩
    obtain ⟨q, hq⟩ := Json.skips hb (Json.Spells.string hname).bare p
    obtain ⟨h⟩ := hname
    exact ⟨q, by simp only [memberFollows, hq]; rfl⟩
  | more hcomma h =>
    obtain ⟨as, bs, es, after, hb, hname, hrest⟩ := hmember h
    refine ⟨as, bs, es, after, fun p => ?_, hname, hrest⟩
    obtain ⟨q, hq⟩ := Json.skips hcomma (Json.bare_cons.2 (by decide)) p
    obtain ⟨r, hr⟩ := Json.skips hb (Json.Spells.string hname).bare
      (q.past ',' (',' : Char).utf8Size)
    obtain ⟨h⟩ := hname
    refine ⟨r, ?_⟩
    simp only [memberFollows, hq, Json.peek?, List.head?_cons, Cursor.next, hr]
    rfl

lemma answers_readMembers {rounds : Nat} (hr : ms.length < rounds) (g : Given)
    (h : MembersLeft first ms cs rest) :
    Answers (readMembers rounds first g) cs rest (g.putAll? ms) := by
  induction ms generalizing rounds first cs g with
  | nil =>
    obtain ⟨n, rfl⟩ := Nat.exists_eq_succ_of_ne_zero (Nat.ne_of_gt hr)
    exact Reads.answers (o := some g) h.reads_none fun p => ⟨_, rfl⟩
  | cons m ms ih =>
    obtain ⟨name, d⟩ := m
    have hpos : 0 < rounds := Nat.lt_of_le_of_lt (Nat.zero_le _) hr
    obtain ⟨n, rfl⟩ := Nat.exists_eq_succ_of_ne_zero (Nat.ne_of_gt hpos)
    obtain ⟨as, bs, es, after, hfollows, hname, hcolon, hd, hafter, hleft⟩ := h.reads_member
    refine Reads.answers hfollows (Reads.answers (reads_lift (Json.reads_readString hname)) ?_)
    simp only [Given.putAll?]
    cases Field.ofText? name with
    | none => exact fun p => ⟨_, rfl⟩
    | some f =>
      by_cases hhas : g.has f = true
      · simp only [hhas, if_true]
        exact fun p => ⟨_, rfl⟩
      · simp only [hhas]
        obtain ⟨b, hb, hread⟩ := g.answers_read f hd hafter
        refine (passes_readColon hcolon).answers (hread.bind fun g => ?_)
        exact ih (Nat.lt_of_succ_lt_succ hr) g (hleft b hb)

/-! ### The items of an array -/

/-- The items that are left, where an array starts or behind one of its items. -/
inductive ItemsLeft : Bool → List Document → List Char → List Char → Prop where
  | first {ds : List Document} {cs rest : List Char} :
      SpellsItems ds cs rest → ItemsLeft true ds cs rest
  | none {cs rest : List Char} : Blanks cs (']' :: rest) → ItemsLeft false [] cs rest
  | more {d : Document} {ds : List Document} {cs as rest : List Char} :
      Blanks cs (',' :: as) → SpellsItems (d :: ds) as rest → ItemsLeft false (d :: ds) cs rest

variable {ds : List Document}

lemma ended_bracket (cs : List Char) : Ended (']' :: cs) := by
  rintro _ ⟨⟩
  decide

/-- What stands behind the blanks at the end of an array. -/
lemma ItemsLeft.blanks_none (h : ItemsLeft first [] cs rest) : Blanks cs (']' :: rest) := by
  cases h with
  | first h =>
    obtain ⟨h⟩ := h
    exact h
  | none h => exact h

lemma ItemsLeft.reads_none (h : ItemsLeft first [] cs rest) :
    Reads (itemFollows first) cs false (']' :: rest) := by
  intro p
  obtain ⟨q, hq⟩ := Json.skips h.blanks_none (Json.bare_cons.2 (by decide)) p
  exact ⟨q, by simp only [itemFollows, hq]; rfl⟩

/-- The first of the items, and what follows it. -/
lemma exists_item (h : SpellsItems (d :: ds) cs rest) :
    ∃ x xs after, Blanks cs (x :: xs) ∧ ¬ Json.IsBlank x ∧ x ≠ ']' ∧ Padded d (x :: xs) after ∧
      Ended after ∧ ∀ b, Blanks b after → ItemsLeft false ds b rest := by
  have hpadded {after : List Char} (h : Padded d cs after) : ∃ x xs, Blanks cs (x :: xs) ∧
      ¬ Json.IsBlank x ∧ x ≠ ']' ∧ Padded d (x :: xs) after := by
    obtain ⟨hb, hd, hb'⟩ := h
    obtain ⟨x, xs, rfl, hx⟩ := hd.exists_cons
    exact ⟨x, xs, hb, hx.not_isBlank, hx.ne_bracket, .none _, hd, hb'⟩
  cases h with
  | last h =>
    obtain ⟨x, xs, hb, hx, hne, hd⟩ := hpadded h
    exact ⟨x, xs, _, hb, hx, hne, hd, ended_bracket _, fun b hb => .none hb⟩
  | more h hds =>
    obtain ⟨x, xs, hb, hx, hne, hd⟩ := hpadded h
    exact ⟨x, xs, _, hb, hx, hne, hd, ended_comma _, fun b hb => .more hb hds⟩

lemma ItemsLeft.reads_item (h : ItemsLeft first (d :: ds) cs rest) :
    ∃ as after, Reads (itemFollows first) cs true as ∧ Padded d as after ∧ Ended after ∧
      ∀ b, Blanks b after → ItemsLeft false ds b rest := by
  cases h with
  | first h =>
    obtain ⟨x, xs, after, hb, hx, hne, hrest⟩ := exists_item h
    refine ⟨x :: xs, after, fun p => ?_, hrest⟩
    obtain ⟨q, hq⟩ := Json.skips hb (Json.bare_cons.2 hx) p
    exact ⟨q, by simp [itemFollows, hq, Json.peek?]⟩
  | more hcomma h =>
    obtain ⟨x, xs, after, hb, hx, hne, hrest⟩ := exists_item h
    refine ⟨x :: xs, after, fun p => ?_, hrest⟩
    obtain ⟨q, hq⟩ := Json.skips hcomma (Json.bare_cons.2 (by decide)) p
    obtain ⟨r, hr⟩ := Json.skips hb (Json.bare_cons.2 hx) (q.past ',' (',' : Char).utf8Size)
    refine ⟨r, ?_⟩
    simp only [itemFollows, hq, Json.peek?, List.head?_cons, Cursor.next, hr]
    simp

lemma passes_closeArray (hb : Blanks cs (']' :: rest)) : Passes closeArray cs rest := by
  intro p
  obtain ⟨q, hq⟩ := Json.skips hb (Json.bare_cons.2 (by decide)) p
  exact ⟨_, by simp only [closeArray, hq]; rfl⟩

/-- An array has no more items than there are fields. -/
lemma refuses_closeArray (h : ItemsLeft first (d :: ds) cs rest) : Refuses closeArray cs := by
  have hend {x : Char} {xs : List Char} (hb : Blanks cs (x :: xs)) (hx : ¬ Json.IsBlank x)
      (hne : x ≠ ']') : Refuses closeArray cs := by
    intro p
    obtain ⟨q, hq⟩ := Json.skips hb (Json.bare_cons.2 hx) p
    by_cases hcomma : x = ','
    · subst hcomma
      simp only [closeArray, hq, Json.peek?, List.head?_cons]
      split <;> exact ⟨_, rfl⟩
    · exact ⟨_, by simp [closeArray, hq, Json.peek?]; rfl⟩
  cases h with
  | first h =>
    obtain ⟨x, xs, after, hb, hx, hne, -⟩ := exists_item h
    exact hend hb hx hne
  | more hcomma h => exact hend hcomma (by decide) (by decide)

lemma answers_readItems {fs : List Field} (g : Given) (h : ItemsLeft first ds cs rest) :
    Answers (fun c => readItems first g c fs) cs rest (g.putEach? fs ds) := by
  induction fs generalizing ds first cs g with
  | nil =>
    cases ds with
    | nil => exact (passes_closeArray h.blanks_none).answers (o := some g) fun p => ⟨p, rfl⟩
    | cons d ds => exact (refuses_closeArray h).bind _
  | cons f fs ih =>
    cases ds with
    | nil =>
      refine Reads.answers (o := some g) h.reads_none ?_
      exact (passes_closeArray (.none _)).answers (o := some g) fun p => ⟨p, rfl⟩
    | cons d ds =>
      obtain ⟨as, after, hfollows, hd, hafter, hleft⟩ := h.reads_item
      obtain ⟨b, hb, hread⟩ := g.answers_read f hd hafter
      refine Reads.answers hfollows (hread.bind fun g => ?_)
      exact ih g (hleft b hb)

/-! ### The whole text -/

lemma answers_readGiven (h : Json.Spells d as bs) :
    Answers readGiven as bs (Given.ofDocument? d) := by
  obtain ⟨x, xs, hxs, hx⟩ := h.exists_cons
  have hother (hbracket : x ≠ '[') (hbrace : x ≠ '\x7b') : Answers readGiven as bs none := by
    intro p
    obtain ⟨r, hr⟩ := exists_rejectValue (α := Given × Cursor) "struct StoreConfig" ⟨x :: xs, p⟩
    exact ⟨r, by simpa [hxs, readGiven, Json.skipBlanks_cons hx.not_isBlank, Json.peek?, hbracket,
      hbrace] using hr⟩
  cases h with
  | array h => exact (answers_readItems .empty (.first h)).of_eq fun p => ⟨_, rfl⟩
  | object h =>
    -- every member takes a character, so there are rounds enough
    have hrounds := Nat.lt_succ_of_le (Nat.le_succ_of_le h.count_le)
    exact (answers_readMembers hrounds .empty (.first h)).of_eq fun p => ⟨_, rfl⟩
  | number n =>
    exact hother (hx.number_ne (by decide) (by decide)) (hx.number_ne (by decide) (by decide))
  | _ =>
    cases hx
    exact hother (by decide) (by decide)

lemma readGiven_skipBlanks (c : Cursor) : readGiven c = readGiven c.skipBlanks := by
  simp only [readGiven, Json.skipBlanks_skipBlanks]

section Texts

variable {s : String} (h : Json.IsText s d)

include h

lemma answers_text : ∃ bs, Blanks bs [] ∧ Answers readGiven s.toList bs (Given.ofDocument? d) := by
  obtain ⟨hb, hd, hb'⟩ := h
  exact ⟨_, hb', answers_of_skip readGiven_skipBlanks hb hd.bare (answers_readGiven hd)⟩

/-- **A text of a document is read** as the configuration that the document describes. -/
theorem ofJson_eq_ok {c : Config} (hc : ofDocument? d = some c) : ofJson s = .ok c := by
  obtain ⟨bs, hb, hread⟩ := answers_text h
  obtain ⟨g, hg, rfl⟩ := Option.map_eq_some_iff.1 hc
  rw [hg] at hread
  obtain ⟨q, hq⟩ := hread ⟨1, 0⟩
  obtain ⟨r, hr⟩ := Json.skips hb Json.bare_nil q
  simp only [ofJson, Cursor.ofString, hq, bind, Except.bind, hr]
  rfl

/-- **A text of any other document is refused.** -/
theorem exists_ofJson_eq_error (hnone : ofDocument? d = none) : ∃ r, ofJson s = .error r := by
  obtain ⟨bs, -, hread⟩ := answers_text h
  rw [Option.map_eq_none_iff.1 hnone] at hread
  obtain ⟨r, hr⟩ := hread ⟨1, 0⟩
  refine ⟨r, ?_⟩
  show (readGiven ⟨s.toList, ⟨1, 0⟩⟩ >>= _) = _
  rw [hr]
  rfl

end Texts

end Embedder.Config
