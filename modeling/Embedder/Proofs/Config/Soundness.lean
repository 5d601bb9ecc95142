import Embedder.Proofs.Config.Documents
import Embedder.Proofs.Json.Soundness

/-!
# What is read is the text of a document

A text that is accepted as a configuration is the text of a document, and the configuration is the
one that the document describes. So what is no JSON text is refused.

* `Config.Between`: a document that stands between two cursors;
* `Config.Given.put?_of_read`: a field that was read;
* `Config.exists_isText_of_ofJson`: a text that was read.
-/

namespace Embedder.Config

open Elementwise (bind_eq_ok_iff)
open Json (Document Blanks Spells Padded Quotes SpellsMembers SpellsItems IsText Cursor
  rest_of_peek? blanks_skipBlanks)

variable {c c' : Cursor} {d : Document} {g g' : Given}

/-- The document stands between the two cursors, behind blanks. -/
def Between (c c' : Cursor) (d : Document) : Prop := ∃ as, Blanks c.rest as ∧ Spells d as c'.rest

lemma lift_eq_ok_iff {α : Type} {r : Json.Reading α} {a : α} : lift r = .ok a ↔ r = .ok a := by
  cases r with
  | error e => exact iff_of_false (fun h => nomatch h) fun h => nomatch h
  | ok b => exact ⟨fun h => by cases h; rfl, fun h => by cases h; rfl⟩

lemma rejectValue_ne_ok {α : Type} {expected : String} {a : α} : rejectValue expected c ≠ .ok a := by
  obtain ⟨r, hr⟩ := exists_rejectValue (α := α) expected c
  rw [hr]
  exact fun h => nomatch h

/-- A word behind its first letter. -/
lemma rest_of_word {x : Char} {ws : List Char} (hx : Json.peek? c = some x)
    (h : lift (Json.readWord ws c.next) = .ok ((), c')) : c.rest = x :: (ws ++ c'.rest) := by
  rw [rest_of_peek? hx, Json.readWord_eq_ok (lift_eq_ok_iff.1 h)]

/-! ### Single values -/

lemma between_of_readBool {b : Bool} (h : readBool c = .ok (b, c')) :
    ∃ d, Between c c' d ∧ boolOf? d = some b := by
  have hb := blanks_skipBlanks c
  simp only [readBool] at h
  split at h
  · cases h
  next hx =>
    obtain ⟨⟨⟨⟩, c₁⟩, hword, h⟩ := bind_eq_ok_iff.1 h
    cases h
    rw [rest_of_word hx hword] at hb
    exact ⟨.bool true, ⟨_, hb, .true _⟩, rfl⟩
  next hx =>
    obtain ⟨⟨⟨⟩, c₁⟩, hword, h⟩ := bind_eq_ok_iff.1 h
    cases h
    rw [rest_of_word hx hword] at hb
    exact ⟨.bool false, ⟨_, hb, .false _⟩, rfl⟩
  · exact absurd h rejectValue_ne_ok

lemma between_of_readSize {n : Nat} (h : readSize c = .ok (n, c')) :
    Between c c' (.number (.natural n)) ∧ n < 2 ^ 64 := by
  have hb := blanks_skipBlanks c
  simp only [readSize] at h
  split at h
  · cases h
  · obtain ⟨⟨m, c₁⟩, hread, h⟩ := bind_eq_ok_iff.1 h
    cases m with
    | unsigned m => exact absurd (lift_eq_ok_iff.1 hread) (Json.notUnsigned_readNumber_false m c₁)
    | negative m => cases h
    | float bits => cases h
  · split at h
    · obtain ⟨⟨m, c₁⟩, hread, h⟩ := bind_eq_ok_iff.1 h
      cases m with
      | unsigned m =>
        cases h
        obtain ⟨hrest, hn⟩ := Json.readNumber_eq_unsigned (lift_eq_ok_iff.1 hread)
        refine ⟨⟨_, hb, ?_⟩, hn⟩
        have hspells := Spells.number (.natural n) c₁.rest
        rwa [Json.Numeral.text_natural, ← hrest] at hspells
      | negative m => cases h
      | float bits => cases h
    · exact absurd h rejectValue_ne_ok

lemma between_of_readOptionalSize {m : Option Nat} (h : readOptionalSize c = .ok (m, c')) :
    ∃ d, Between c c' d ∧ sizeOf? d = some m := by
  have hb := blanks_skipBlanks c
  simp only [readOptionalSize] at h
  split at h
  next hx =>
    obtain ⟨⟨⟨⟩, c₁⟩, hword, h⟩ := bind_eq_ok_iff.1 h
    cases h
    rw [rest_of_word hx hword] at hb
    exact ⟨.null, ⟨_, hb, .null _⟩, rfl⟩
  · obtain ⟨⟨n, c₁⟩, hread, h⟩ := bind_eq_ok_iff.1 h
    cases h
    obtain ⟨⟨as, has, hspells⟩, hn⟩ := between_of_readSize hread
    exact ⟨_, ⟨as, hb.trans has, hspells⟩, if_pos ⟨⟨rfl, rfl, rfl⟩, hn⟩⟩

lemma quotes_of_readVariant {o : Optimization} (h : readVariant c = .ok (o, c')) :
    ∃ s as, Blanks c.rest as ∧ Quotes s as c'.rest ∧ Optimization.ofText? s = some o := by
  have hb := blanks_skipBlanks c
  simp only [readVariant] at h
  split at h
  · cases h
  next hx =>
    obtain ⟨⟨s, c₁⟩, hread, h⟩ := bind_eq_ok_iff.1 h
    have hquotes := Json.quotes_of_readString hx (lift_eq_ok_iff.1 hread)
    dsimp only at h
    split at h
    next ho =>
      cases h
      exact ⟨s, _, hb, hquotes, ho⟩
    · cases h
  · exact absurd h rejectValue_ne_ok

lemma blanks_of_readColon (h : readColon c = .ok c') : Blanks c.rest (':' :: c'.rest) := by
  have hb := blanks_skipBlanks c
  simp only [readColon] at h
  split at h
  next hx =>
    cases h
    rwa [rest_of_peek? hx] at hb
  · cases h
  · cases h

lemma between_of_readNull (h : readNull c = .ok c') : Between c c' .null := by
  have hb := blanks_skipBlanks c
  simp only [readNull] at h
  split at h
  · cases h
  next hx =>
    obtain ⟨⟨⟨⟩, c₁⟩, hword, h⟩ := bind_eq_ok_iff.1 h
    cases h
    rw [rest_of_word hx hword] at hb
    exact ⟨_, hb, .null _⟩
  · exact absurd h rejectValue_ne_ok

lemma between_of_readOptimization {o : Optimization} (h : readOptimization c = .ok (o, c')) :
    ∃ d, Between c c' d ∧ optimizationOf? d = some o := by
  have hb := blanks_skipBlanks c
  simp only [readOptimization] at h
  split at h
  · cases h
  · obtain ⟨s, as, has, hquotes, ho⟩ := quotes_of_readVariant h
    exact ⟨.string s, ⟨as, hb.trans has, .string hquotes⟩, ho⟩
  next hx =>
    obtain ⟨⟨o', c₁⟩, hname, h⟩ := bind_eq_ok_iff.1 h
    obtain ⟨c₂, hcolon, h⟩ := bind_eq_ok_iff.1 h
    obtain ⟨c₃, hnull, h⟩ := bind_eq_ok_iff.1 h
    obtain ⟨s, as, has, hquotes, ho⟩ := quotes_of_readVariant hname
    obtain ⟨es, hes, hspells⟩ := between_of_readNull hnull
    dsimp only at h
    have hend := blanks_skipBlanks c₃
    split at h
    next hbrace =>
      cases h
      rw [rest_of_peek? hbrace] at hend
      rw [rest_of_peek? hx] at hb
      exact ⟨.object [(s, .null)], ⟨_, hb, .object (.last
        (.member has hquotes (blanks_of_readColon hcolon) (.padded hes hspells hend)))⟩, ho⟩
    · cases h
    · cases h
  · cases h

/-- What is done with a value that was read is done with the value of a document. -/
lemma between_of_map {α β : Type} {read : Cursor → Reading (α × Cursor)} {value? : Document → Option α}
    (hread : ∀ {a : α} {c₁ : Cursor}, read c = .ok (a, c₁) →
      ∃ d, Between c c₁ d ∧ value? d = some a) {k : α → β} {b : β}
    (h : (read c >>= fun (a, c₁) => .ok (k a, c₁)) = .ok (b, c')) :
    ∃ d, Between c c' d ∧ (value? d).map k = some b := by
  obtain ⟨⟨a, c₁⟩, ha, h⟩ := bind_eq_ok_iff.1 h
  cases h
  obtain ⟨d, hd, hvalue⟩ := hread ha
  exact ⟨d, hd, by rw [hvalue]; rfl⟩

/-- **A field that was read** was given by a document. -/
lemma Given.put?_of_read {f : Field} (h : g.read f c = .ok (g', c')) :
    ∃ d, Between c c' d ∧ g.put? f d = some g' := by
  cases f with
  | optimization => exact between_of_map between_of_readOptimization h
  | debugInfo => exact between_of_map between_of_readBool h
  | parallelCompilation => exact between_of_map between_of_readBool h
  | maxWasmStack => exact between_of_map between_of_readOptionalSize h

/-! ### Objects -/

/-- Nothing follows but the brace. -/
lemma blanks_of_memberFollows_false {first : Bool} (h : memberFollows first c = .ok (false, c')) :
    Blanks c.rest c'.rest ∧ Json.peek? c' = some '\x7d' := by
  have hb := blanks_skipBlanks c
  simp only [memberFollows] at h
  split at h
  · cases h
  next hx =>
    cases h
    exact ⟨hb, hx⟩
  · split at h
    · split at h <;> cases h
    · split at h
      · cases h
      · split at h <;> cases h

/-- Another member starts with a quote, behind a comma if it is not the first. -/
lemma blanks_of_memberFollows_true {first : Bool} (h : memberFollows first c = .ok (true, c')) :
    Json.peek? c' = some '"' ∧ (if first then Blanks c.rest c'.rest
      else ∃ as, Blanks c.rest (',' :: as) ∧ Blanks as c'.rest) := by
  have hb := blanks_skipBlanks c
  simp only [memberFollows] at h
  split at h
  · cases h
  · cases h
  next x _ hx =>
    split at h
    next hfirst =>
      split at h
      next hquote =>
        cases h
        rw [if_pos hfirst]
        exact ⟨hquote ▸ hx, hb⟩
      · cases h
    next hfirst =>
      split at h
      · cases h
      next hcomma =>
        split at h
        next hquote =>
          cases h
          rw [if_neg hfirst]
          rw [rest_of_peek? hx, Decidable.not_not.1 hcomma] at hb
          exact ⟨hquote, _, hb, blanks_skipBlanks _⟩
        · cases h
        · cases h
        · cases h

lemma blanks_of_closeObject (h : (closeObject c).1 = .ok ()) :
    Blanks c.rest ('\x7d' :: (closeObject c).2.rest) := by
  have hb := blanks_skipBlanks c
  by_cases hx : Json.peek? c.skipBlanks = some '\x7d'
  · simp only [closeObject, hx]
    rwa [rest_of_peek? hx] at hb
  · simp only [closeObject] at h
    split at h
    next hbrace => exact absurd hbrace hx
    all_goals cases h

/-- **The members that were read** are those of an object. -/
lemma membersLeft_of_readMembers {rounds : Nat} {first : Bool}
    (h : readMembers rounds first g c = .ok (g', c')) :
    ∃ ms, MembersLeft first ms c.rest c'.rest ∧ g.putAll? ms = some g' := by
  induction rounds generalizing first g c with
  | zero => cases h
  | succ n ih =>
    obtain ⟨⟨more, c₁⟩, hfollows, h⟩ := bind_eq_ok_iff.1 h
    cases more with
    | false =>
      obtain ⟨⟨⟩, hclose, h⟩ := bind_eq_ok_iff.1 h
      cases h
      have hb := (blanks_of_memberFollows_false hfollows).1.trans (blanks_of_closeObject hclose)
      refine ⟨[], ?_, rfl⟩
      cases first with
      | true => exact .first (.none hb)
      | false => exact .none hb
    | true =>
      obtain ⟨⟨name, c₂⟩, hname, h⟩ := bind_eq_ok_iff.1 h
      obtain ⟨hquote, hlead⟩ := blanks_of_memberFollows_true hfollows
      have hquotes := Json.quotes_of_readString hquote (lift_eq_ok_iff.1 hname)
      dsimp only at h
      split at h
      · cases h
      next f hf =>
        split at h
        · cases h
        next hnew =>
          obtain ⟨c₃, hcolon, h⟩ := bind_eq_ok_iff.1 h
          obtain ⟨⟨g₁, c₄⟩, hread, h⟩ := bind_eq_ok_iff.1 h
          obtain ⟨d, ⟨es, hes, hspells⟩, hput⟩ := Given.put?_of_read hread
          obtain ⟨ms, hms, hputs⟩ := ih h
          -- the brace or the comma behind this member is where the other members begin
          have hmembers {as : List Char} (has : Blanks as c₁.rest) :
              SpellsMembers ((name, d) :: ms) as c'.rest := by
            cases hms with
            | none hend =>
              exact .last (.member has hquotes (blanks_of_readColon hcolon) (.padded hes hspells hend))
            | more hcomma hms =>
              exact .more (.member has hquotes (blanks_of_readColon hcolon)
                (.padded hes hspells hcomma)) hms
          refine ⟨(name, d) :: ms, ?_, by simp [Given.putAll?, hf, hnew, hput, hputs]⟩
          cases first with
          | true => exact .first (hmembers hlead)
          | false =>
            obtain ⟨as, hcomma, has⟩ := hlead
            exact .more hcomma (hmembers has)

/-! ### Arrays -/

lemma blanks_of_closeArray (h : closeArray c = .ok c') : Blanks c.rest (']' :: c'.rest) := by
  have hb := blanks_skipBlanks c
  simp only [closeArray] at h
  split at h
  next hx =>
    cases h
    rwa [rest_of_peek? hx] at hb
  · split at h <;> cases h
  · cases h
  · cases h

lemma blanks_of_itemFollows_false {first : Bool} (h : itemFollows first c = .ok (false, c')) :
    Blanks c.rest c'.rest := by
  have hb := blanks_skipBlanks c
  simp only [itemFollows] at h
  split at h
  · cases h
  · cases h
    exact hb
  · split at h
    · cases h
    · split at h
      · cases h
      · split at h <;> cases h

lemma blanks_of_itemFollows_true {first : Bool} (h : itemFollows first c = .ok (true, c')) :
    if first then Blanks c.rest c'.rest else ∃ as, Blanks c.rest (',' :: as) ∧ Blanks as c'.rest := by
  have hb := blanks_skipBlanks c
  simp only [itemFollows] at h
  split at h
  · cases h
  · cases h
  next x _ hx =>
    split at h
    next hfirst =>
      cases h
      rwa [if_pos hfirst]
    next hfirst =>
      split at h
      · cases h
      next hcomma =>
        rw [if_neg hfirst]
        rw [rest_of_peek? hx, Decidable.not_not.1 hcomma] at hb
        split at h
        · cases h
        · cases h
          exact ⟨_, hb, blanks_skipBlanks _⟩
        · cases h

/-- **The items that were read** are those of an array. -/
lemma itemsLeft_of_readItems {first : Bool} {fs : List Field}
    (h : readItems first g c fs = .ok (g', c')) :
    ∃ ds, ItemsLeft first ds c.rest c'.rest ∧ g.putEach? fs ds = some g' := by
  have hclosed {first : Bool} {c : Cursor} (hb : Blanks c.rest (']' :: c'.rest)) :
      ItemsLeft first [] c.rest c'.rest := by
    cases first with
    | true => exact .first (.none hb)
    | false => exact .none hb
  induction fs generalizing first g c with
  | nil =>
    obtain ⟨c₁, hclose, h⟩ := bind_eq_ok_iff.1 h
    cases h
    exact ⟨[], hclosed (blanks_of_closeArray hclose), rfl⟩
  | cons f fs ih =>
    obtain ⟨⟨more, c₁⟩, hfollows, h⟩ := bind_eq_ok_iff.1 h
    cases more with
    | false =>
      obtain ⟨c₂, hclose, h⟩ := bind_eq_ok_iff.1 h
      cases h
      have hend := (blanks_of_itemFollows_false hfollows).trans (blanks_of_closeArray hclose)
      exact ⟨[], hclosed hend, rfl⟩
    | true =>
      have hlead := blanks_of_itemFollows_true hfollows
      obtain ⟨⟨g₁, c₂⟩, hread, h⟩ := bind_eq_ok_iff.1 h
      obtain ⟨d, ⟨es, hes, hspells⟩, hput⟩ := Given.put?_of_read hread
      obtain ⟨ds, hds, hputs⟩ := ih h
      have hitems {as : List Char} (has : Blanks as c₁.rest) : SpellsItems (d :: ds) as c'.rest := by
        cases hds with
        | none hend => exact .last (.padded (has.trans hes) hspells hend)
        | more hcomma hds => exact .more (.padded (has.trans hes) hspells hcomma) hds
      refine ⟨d :: ds, ?_, by simp [Given.putEach?, hput, hputs]⟩
      cases first with
      | true => exact .first (hitems hlead)
      | false =>
        obtain ⟨as, hcomma, has⟩ := hlead
        exact .more hcomma (hitems has)

/-! ### The whole text -/

lemma between_of_readGiven (h : readGiven c = .ok (g, c')) :
    ∃ d, Between c c' d ∧ Given.ofDocument? d = some g := by
  have hb := blanks_skipBlanks c
  simp only [readGiven] at h
  split at h
  · cases h
  next hx =>
    obtain ⟨ds, hds, hputs⟩ := itemsLeft_of_readItems h
    cases hds with
    | first hds =>
      rw [rest_of_peek? hx] at hb
      exact ⟨.array ds, ⟨_, hb, .array hds⟩, hputs⟩
  next hx =>
    obtain ⟨ms, hms, hputs⟩ := membersLeft_of_readMembers h
    cases hms with
    | first hms =>
      rw [rest_of_peek? hx] at hb
      exact ⟨.object ms, ⟨_, hb, .object hms⟩, hputs⟩
  · exact absurd h rejectValue_ne_ok

/-- **A text that is accepted** is the text of a document that describes the configuration. -/
theorem exists_isText_of_ofJson {s : String} {cfg : Config} (h : ofJson s = .ok cfg) :
    ∃ d, IsText s d ∧ ofDocument? d = some cfg := by
  obtain ⟨⟨g, c'⟩, hread, h⟩ := bind_eq_ok_iff.1 h
  obtain ⟨d, ⟨as, has, hspells⟩, hg⟩ := between_of_readGiven hread
  have hb := blanks_skipBlanks c'
  dsimp only at h
  split at h
  · cases h
  next hx =>
    cases h
    have hnil : c'.skipBlanks.rest = [] := List.head?_eq_none_iff.1 hx
    rw [hnil] at hb
    exact ⟨d, .padded has hspells hb, by rw [ofDocument?, hg]; rfl⟩

end Embedder.Config
