import Embedder.Config.Reader
import Embedder.Proofs.Json.Reading

/-!
# Reading the values of settings

What the readers of a configuration make of a document that stands in the place of a value, in
whichever way it is spelled: they take the value if the document is one of the right type, and refuse
the text if it is not.

* `Config.boolOf?`, `Config.sizeOf?`, `Config.optimizationOf?`: the values that documents are;
* `Config.exists_rejectValue`: what is no value is refused;
* `Config.answers_readBool`, `Config.answers_readOptionalSize`, `Config.answers_readOptimization`.
-/

namespace Embedder.Config

open Json (Document Numeral Blanks Spells Reads Refuses Answers Cursor)

variable {cs as bs rest : List Char} {d : Document}

/-! ### The values that documents are -/

def boolOf? : Document → Option Bool
  | .bool b => some b
  | _ => none

/-- A natural number of 64 bits, or null for none. -/
def sizeOf? : Document → Option (Option Nat)
  | .null => some none
  | .number n => if n.IsNatural ∧ n.whole < 2 ^ 64 then some (some n.whole) else none
  | _ => none

/-- A name, or an object in which null stands under the name. -/
def optimizationOf? : Document → Option Optimization
  | .string s => Optimization.ofText? s
  | .object [(name, .null)] => Optimization.ofText? name
  | _ => none

/-! ### Steps of reading -/

section Steps

variable {α β : Type}

lemma reads_lift {f : Cursor → Json.Reading (α × Cursor)} {a : α} (hf : Reads f cs a rest) :
    Reads (fun c => lift (f c)) cs a rest := by
  intro p
  obtain ⟨q, hq⟩ := hf p
  exact ⟨q, by simp only [hq, lift]⟩

/-- A reader that passes over blanks makes the same of a text behind blanks. -/
lemma answers_of_skip {f : Cursor → Reading (α × Cursor)} {o : Option α}
    (hf : ∀ c, f c = f c.skipBlanks) (hb : Blanks cs as) (has : Json.Bare as)
    (h : Answers f as rest o) : Answers f cs rest o := by
  refine h.of_eq fun p => ?_
  obtain ⟨q, hq⟩ := Json.skips hb has p
  exact ⟨q, by rw [hf, hq]⟩

end Steps

/-- **What is no value of the type is refused**, whatever it is. -/
lemma exists_rejectValue {α : Type} (expected : String) (c : Cursor) :
    ∃ r, (rejectValue expected c : Reading α) = .error r := by
  have hbind {β : Type} (x : Json.Reading (β × Cursor)) (k : β × Cursor → Reading α)
      (hk : ∀ b, ∃ r, k b = .error r) : ∃ r, (lift x >>= k) = .error r := by
    cases x with
    | error e => exact ⟨_, rfl⟩
    | ok b => exact hk b
  unfold rejectValue
  split
  case h_6 => exact ⟨_, rfl⟩
  case h_7 => exact ⟨_, rfl⟩
  case h_8 =>
    split
    · exact hbind _ _ fun b => ⟨_, rfl⟩
    · exact ⟨_, rfl⟩
  case h_9 => exact ⟨_, rfl⟩
  all_goals exact hbind _ _ fun b => ⟨_, rfl⟩

/-! ### Truth values -/

lemma readBool_skipBlanks (c : Cursor) : readBool c = readBool c.skipBlanks := by
  simp only [readBool, Json.skipBlanks_skipBlanks]

lemma answers_readBool (h : Spells d as bs) : Answers readBool as bs (boolOf? d) := by
  have hother {x : Char} {xs : List Char} (hx : ¬ Json.IsBlank x) (ht : x ≠ 't') (hf : x ≠ 'f') :
      Refuses readBool (x :: xs) := by
    intro p
    obtain ⟨r, hr⟩ := exists_rejectValue (α := Bool × Cursor) "a boolean" ⟨x :: xs, p⟩
    exact ⟨r, by simpa [readBool, Json.skipBlanks_cons hx, Json.peek?, ht, hf] using hr⟩
  obtain ⟨x, xs, hxs, hx⟩ := h.exists_cons
  cases h with
  | true => exact fun p => (reads_lift (Json.reads_readWord "rue".toList bs)).map (fun _ => true) _
  | false => exact fun p => (reads_lift (Json.reads_readWord "alse".toList bs)).map (fun _ => false) _
  | number n =>
    rw [hxs]
    exact hother hx.not_isBlank (hx.number_ne (by decide) (by decide))
      (hx.number_ne (by decide) (by decide))
  | _ =>
    rw [hxs]
    cases hx
    exact hother (by decide) (by decide) (by decide)

/-! ### Sizes -/

lemma readOptionalSize_skipBlanks (c : Cursor) :
    readOptionalSize c = readOptionalSize c.skipBlanks := by
  simp only [readOptionalSize, Json.skipBlanks_skipBlanks]

/-- A number that is not read as a natural number is no size. -/
lemma exists_sizeOfNumber {r : Json.Reading (Json.Number × Cursor)} (h : Json.NotUnsigned r) :
    ∃ e, (lift r >>= fun (n, c) => sizeOfNumber n c) = .error e := by
  obtain e | ⟨n, c⟩ := r
  · exact ⟨_, rfl⟩
  · cases n with
    | unsigned n => exact absurd rfl (h n c)
    | negative n => exact ⟨_, rfl⟩
    | float bits => exact ⟨_, rfl⟩

lemma refuses_readOptionalSize {x : Char} {xs : List Char} (hx : ¬ Json.IsBlank x) (hn : x ≠ 'n')
    (hdigit : x.isDigit = false) (hminus : x ≠ '-') : Refuses readOptionalSize (x :: xs) := by
  intro p
  obtain ⟨r, hr⟩ := exists_rejectValue (α := Nat × Cursor) "usize" ⟨x :: xs, p⟩
  have hsize : readSize ⟨x :: xs, p⟩ = .error r := by
    simpa [readSize, Json.skipBlanks_cons hx, Json.peek?, hdigit, hminus] using hr
  exact ⟨r, by simp [readOptionalSize, Json.skipBlanks_cons hx, Json.peek?, hn, hsize]; rfl⟩

lemma readOptionalSize_of_digit {x : Char} {xs : List Char} (hx : x.isDigit = true)
    (p : Json.Position) :
    readOptionalSize ⟨x :: xs, p⟩ =
      (lift (Json.readNumber true ⟨x :: xs, p⟩) >>= fun (n, c) => sizeOfNumber n c) >>=
        fun (n, c) => .ok (some n, c) := by
  have hn : x ≠ 'n' := by rintro rfl; cases hx
  have hminus : x ≠ '-' := by rintro rfl; cases hx
  simp [readOptionalSize, readSize, Json.skipBlanks_cons (Json.not_isBlank_of_isDigit hx),
    Json.peek?, hx, hn]

lemma sizeOf?_number_eq_none {n : Numeral} (h : ¬ (n.IsNatural ∧ n.whole < 2 ^ 64)) :
    sizeOf? (.number n) = none := by
  rw [sizeOf?, if_neg h]

lemma answers_readOptionalSize (h : Spells d as bs) (hbs : Json.Ended bs) :
    Answers readOptionalSize as bs (sizeOf? d) := by
  obtain ⟨x, xs, hxs, hx⟩ := h.exists_cons
  cases h with
  | null => exact fun p => (reads_lift (Json.reads_readWord "ull".toList bs)).map (fun _ => none) _
  | number n =>
    cases hneg : n.negative with
    | true =>
      -- behind a minus nothing is read as a natural number
      rw [sizeOf?_number_eq_none fun h => Bool.noConfusion (hneg.symm.trans h.1.1),
        Numeral.text_of_negative hneg]
      intro p
      obtain ⟨e, he⟩ := exists_sizeOfNumber (r := Json.readNumber false _)
        Json.notUnsigned_readNumber_false
      refine ⟨e, ?_⟩
      show ((lift (Json.readNumber false _) >>= fun (n, c) => sizeOfNumber n c) >>=
        fun (n, c) => .ok (some n, c)) = _
      rw [he]
      rfl
    | false =>
      obtain ⟨y, ys, hys, hdigit⟩ := Numeral.exists_text_eq_cons hneg
      by_cases hsize : n.IsNatural ∧ n.whole < 2 ^ 64
      · -- the digits are all that there is of the number
        have hread := Json.reads_readNumber hsize.2 hbs
        have htext : n.text = Nat.toDigits 10 n.whole := by
          rw [Numeral.text_of_positive hneg, Numeral.tail_eq_nil hsize.1, List.append_nil]
        rw [sizeOf?, if_pos hsize]
        intro p
        obtain ⟨q, hq⟩ := hread p
        rw [← htext, hys, List.cons_append] at hq
        refine ⟨q, ?_⟩
        rw [hys, List.cons_append, readOptionalSize_of_digit hdigit, hq]
        rfl
      · -- the number goes on behind its digits, or they are too many
        rw [sizeOf?_number_eq_none hsize]
        intro p
        have hread := Json.notUnsigned_readNumber_true hneg hsize bs p
        rw [hys, List.cons_append] at hread ⊢
        obtain ⟨e, he⟩ := exists_sizeOfNumber hread
        exact ⟨e, by rw [readOptionalSize_of_digit hdigit, he]; rfl⟩
  | _ =>
    rw [hxs]
    cases hx
    exact refuses_readOptionalSize (by decide) (by decide) (by decide) (by decide)

/-! ### Optimizations -/

lemma readOptimization_skipBlanks (c : Cursor) :
    readOptimization c = readOptimization c.skipBlanks := by
  simp only [readOptimization, Json.skipBlanks_skipBlanks]

lemma readVariant_skipBlanks (c : Cursor) : readVariant c = readVariant c.skipBlanks := by
  simp only [readVariant, Json.skipBlanks_skipBlanks]

lemma answers_readVariant {s : String} (h : Json.Quotes s as bs) :
    Answers readVariant as bs (Optimization.ofText? s) := by
  have hread : Reads (fun c => lift (Json.readString c.next)) as s bs :=
    reads_lift (Json.reads_readString h)
  obtain @⟨ds, _, -⟩ := h
  have hskip (p : Json.Position) : (⟨'"' :: ds, p⟩ : Cursor).skipBlanks = ⟨'"' :: ds, p⟩ := rfl
  cases ho : Optimization.ofText? s with
  | none =>
    intro p
    obtain ⟨q, hq⟩ := hread p
    simp only at hq
    simp [readVariant, hskip, Json.peek?, hq, ho, bind, Except.bind, reject]
  | some o =>
    intro p
    obtain ⟨q, hq⟩ := hread p
    simp only at hq
    exact ⟨q, by simp [readVariant, hskip, Json.peek?, hq, ho, bind, Except.bind]⟩

lemma passes_readColon (h : Blanks cs (':' :: rest)) : Json.Passes readColon cs rest := by
  intro p
  obtain ⟨q, hq⟩ := Json.skips h (Json.bare_cons.2 (by decide)) p
  exact ⟨_, by simp only [readColon, hq]; rfl⟩

lemma passes_readNull (hb : Blanks cs as) (h : Spells .null as bs) : Json.Passes readNull cs bs := by
  intro p
  obtain ⟨q, hq⟩ := Json.skips hb h.bare p
  cases h
  obtain ⟨r, hr⟩ := (reads_lift (Json.reads_readWord "ull".toList bs)).bind_eq
    (fun x => (.ok x.2 : Reading Cursor)) (q.past 'n' ('n' : Char).utf8Size)
  exact ⟨r, by simp only [readNull, hq]; exact hr⟩

lemma refuses_readNull {x : Char} {xs : List Char} (hb : Blanks cs (x :: xs)) (hx : ¬ Json.IsBlank x)
    (hn : x ≠ 'n') : Refuses readNull cs := by
  intro p
  obtain ⟨q, hq⟩ := Json.skips hb (Json.bare_cons.2 hx) p
  obtain ⟨r, hr⟩ := exists_rejectValue (α := Cursor) "unit" ⟨x :: xs, q⟩
  exact ⟨r, by simpa [readNull, hq, Json.peek?, hn] using hr⟩

/-- The end of an object that gives an optimization. -/
def closeOptimization (o : Optimization) (c : Cursor) : Reading (Optimization × Cursor) :=
  let c := c.skipBlanks
  match Json.peek? c with
  | some '\x7d' => .ok (o, c.next)
  | some _ => faultAt .expectedValue c.position
  | none => faultAt .endInObject c.position

/-- What is read of an object that gives an optimization, behind its brace. -/
def readOptimizationMember (c : Cursor) : Reading (Optimization × Cursor) := do
  let (o, c) ← readVariant c
  let c ← readColon c
  let c ← readNull c
  closeOptimization o c

/-- The name of an optimization is the only one in its object. -/
lemma answers_closeOptimization (o : Optimization) {x : Char} (hx : x = '\x7d' ∨ x = ',')
    (hb : Blanks cs (x :: rest)) :
    Answers (closeOptimization o) cs rest (if x = '\x7d' then some o else none) := by
  rcases hx with rfl | rfl
  all_goals
    intro p
    obtain ⟨q, hq⟩ := Json.skips hb (Json.bare_cons.2 (by decide)) p
    exact ⟨_, by simp only [closeOptimization, hq]; rfl⟩

/-- Only null can stand under the name. -/
def isNull : Document → Bool
  | .null => true
  | _ => false

lemma optimizationOf?_member (name : String) (d : Document) :
    optimizationOf? (.object [(name, d)]) = if isNull d then Optimization.ofText? name else none := by
  cases d <;> rfl

lemma answers_null_close (o : Optimization) {x : Char} (hx : x = '\x7d' ∨ x = ',')
    (h : Json.Padded d cs (x :: rest)) :
    Answers (fun c => readNull c >>= closeOptimization o) cs rest
      (if isNull d ∧ x = '\x7d' then some o else none) := by
  obtain ⟨hb, hd, hb'⟩ := h
  obtain ⟨y, ys, rfl, hy⟩ := hd.exists_cons
  have hother (hn : y ≠ 'n') : Answers (fun c => readNull c >>= closeOptimization o) cs rest none :=
    (refuses_readNull hb hy.not_isBlank hn).bind _
  cases d with
  | null => simpa [isNull] using (passes_readNull hb hd).answers (answers_closeOptimization o hx hb')
  | number n => exact hother (hy.number_ne (by decide) (by decide))
  | bool b => cases b <;> cases hy <;> exact hother (by decide)
  | _ => cases hy; exact hother (by decide)

lemma answers_readOptimizationMember {name : String} {x : Char} (hx : x = '\x7d' ∨ x = ',')
    (h : Json.SpellsMember (name, d) cs (x :: rest)) :
    Answers readOptimizationMember cs rest
      (if x = '\x7d' then optimizationOf? (.object [(name, d)]) else none) := by
  obtain ⟨hname, hquotes, hcolon, hvalue⟩ := h
  have hvariant := answers_of_skip readVariant_skipBlanks hname (Json.Spells.string hquotes).bare
    (answers_readVariant hquotes)
  have hsame : (if x = '\x7d' then optimizationOf? (.object [(name, d)]) else none) =
      (Optimization.ofText? name).bind fun o => if isNull d ∧ x = '\x7d' then some o else none := by
    rw [optimizationOf?_member]
    cases Optimization.ofText? name <;> cases isNull d <;> simp
  rw [hsame]
  exact hvariant.bind (g := fun (o, c) => readColon c >>= fun c => readNull c >>= closeOptimization o)
    fun o => (passes_readColon hcolon).answers (answers_null_close o hx hvalue)

lemma answers_readOptimization (h : Spells d as bs) :
    Answers readOptimization as bs (optimizationOf? d) := by
  have hother {x : Char} {xs : List Char} (hx : ¬ Json.IsBlank x) (hquote : x ≠ '"')
      (hbrace : x ≠ '\x7b') : Refuses readOptimization (x :: xs) := by
    intro p
    exact ⟨_, by simp [readOptimization, Json.skipBlanks_cons hx, Json.peek?]; rfl⟩
  obtain ⟨x, xs, hxs, hx⟩ := h.exists_cons
  cases h with
  | string h =>
    have hread := answers_readVariant h
    obtain ⟨h⟩ := h
    exact hread.of_eq fun p => ⟨p, rfl⟩
  | @object ms cs _ h =>
    have hopen {o : Option Optimization} (h : Answers readOptimizationMember cs bs o) :
        Answers readOptimization ('\x7b' :: cs) bs o := h.of_eq fun p => ⟨_, rfl⟩
    cases h with
    | none hb =>
      refine hopen (Json.Refuses.bind (fun p => ?_) _)
      obtain ⟨q, hq⟩ := Json.skips hb (Json.bare_cons.2 (by decide)) p
      obtain ⟨r, hr⟩ := exists_rejectValue (α := Optimization × Cursor) "variant identifier" ⟨_, q⟩
      exact ⟨r, by simp only [readVariant, hq]; exact hr⟩
    | last h => exact hopen (answers_readOptimizationMember (.inl rfl) h)
    | @more m n ms _ _ _ h _ =>
      -- where the brace should be there is a comma
      obtain ⟨name, e⟩ := m
      have hrefuses : Refuses readOptimizationMember cs := answers_readOptimizationMember (.inr rfl) h
      have hnone : optimizationOf? (.object ((name, e) :: n :: ms)) = none := by cases e <;> rfl
      rw [hnone]
      exact hopen (o := none) hrefuses
  | number n =>
    rw [hxs]
    exact hother hx.not_isBlank (hx.number_ne (by decide) (by decide))
      (hx.number_ne (by decide) (by decide))
  | _ =>
    rw [hxs]
    cases hx
    exact hother (by decide) (by decide) (by decide)

end Embedder.Config
