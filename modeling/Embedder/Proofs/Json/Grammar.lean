import Embedder.Json.Cursor
import Embedder.Json
import Mathlib.Tactic.Lemma

/-!
# The grammar of JSON

What a JSON text is and which document it spells, with no reader in sight. `Spells d cs rest` says that
`cs` starts with a spelling of `d`, behind which `rest` follows. One document has many spellings:
blanks stand between any two signs, a character can be written by its number, and a number can have
a fraction and an exponent.

* `Blanks`, `Quotes`, `Numeral`: what has no documents within;
* `Document`, `Spells`: documents;
* `IsText`: the texts of a document, with blanks around.
-/

namespace Embedder.Json

/-! ### Blanks -/

def IsBlank (x : Char) : Prop := x = ' ' ∨ x = '\n' ∨ x = '\t' ∨ x = '\r'

instance (x : Char) : Decidable (IsBlank x) :=
  inferInstanceAs (Decidable (x = ' ' ∨ x = '\n' ∨ x = '\t' ∨ x = '\r'))

inductive Blanks : List Char → List Char → Prop where
  | none (rest : List Char) : Blanks rest rest
  | more {x : Char} {cs rest : List Char} : IsBlank x → Blanks cs rest → Blanks (x :: cs) rest

/-! ### Strings -/

/-- The letters that stand for a character behind a backslash. -/
def shortEscapes : List (Char × Char) :=
  [('"', '"'), ('\\', '\\'), ('/', '/'), ('b', '\x08'), ('f', '\x0c'), ('n', '\n'), ('r', '\r'),
    ('t', '\t')]

/-- Four hexadecimal digits, of either case. -/
inductive SpellsUnit (n : Nat) : List Char → List Char → Prop where
  | digits {w x y z : Char} {a b c d : Nat} {rest : List Char} :
      hexValue? w = some a → hexValue? x = some b → hexValue? y = some c → hexValue? z = some d →
      n = ((a * 16 + b) * 16 + c) * 16 + d → SpellsUnit n (w :: x :: y :: z :: rest) rest

inductive SpellsChar (x : Char) : List Char → List Char → Prop where
  | plain {rest : List Char} : x ≠ '"' → x ≠ '\\' → 0x20 ≤ x.toNat → SpellsChar x (x :: rest) rest
  | short {y : Char} {rest : List Char} : (y, x) ∈ shortEscapes → SpellsChar x ('\\' :: y :: rest) rest
  | unit {ds rest : List Char} : SpellsUnit x.toNat ds rest → SpellsChar x ('\\' :: 'u' :: ds) rest
  /-- Two surrogates. -/
  | pair {n : Nat} {ds es rest : List Char} : x.toNat = n + 0x10000 →
      SpellsUnit (0xD800 + n / 0x400) ds ('\\' :: 'u' :: es) →
      SpellsUnit (0xDC00 + n % 0x400) es rest → SpellsChar x ('\\' :: 'u' :: ds) rest

inductive SpellsChars : List Char → List Char → List Char → Prop where
  | nil (rest : List Char) : SpellsChars [] rest rest
  | cons {x : Char} {xs as bs rest : List Char} :
      SpellsChar x as bs → SpellsChars xs bs rest → SpellsChars (x :: xs) as rest

/-- A string between its quotes. -/
inductive Quotes (s : String) : List Char → List Char → Prop where
  | quotes {cs rest : List Char} : SpellsChars s.toList cs ('"' :: rest) → Quotes s ('"' :: cs) rest

/-! ### Numbers -/

/-- An exponent, from its letter on. -/
structure Exponent where
  letter : Char
  sign : List Char
  digits : List Char
  isLetter : letter = 'e' ∨ letter = 'E'
  isSign : sign = [] ∨ sign = ['+'] ∨ sign = ['-']
  hasDigits : digits ≠ []
  isDigit : ∀ x ∈ digits, x.isDigit = true

def Exponent.text (e : Exponent) : List Char := e.letter :: e.sign ++ e.digits

/-- A number. Without a fraction there is no point either. -/
structure Numeral where
  negative : Bool
  whole : Nat
  fraction : List Char
  exponent : Option Exponent
  isDigit : ∀ x ∈ fraction, x.isDigit = true

namespace Numeral

def sign (n : Numeral) : List Char := if n.negative then ['-'] else []

/-- What stands behind the whole digits. -/
def tail (n : Numeral) : List Char :=
  (if n.fraction = [] then [] else '.' :: n.fraction) ++ (n.exponent.map Exponent.text).getD []

def text (n : Numeral) : List Char := n.sign ++ (Nat.toDigits 10 n.whole ++ n.tail)

/-- A number without a sign, a point and an exponent. -/
def natural (n : Nat) : Numeral :=
  { negative := false, whole := n, fraction := [], exponent := none, isDigit := by simp }

def IsNatural (n : Numeral) : Prop := n.negative = false ∧ n.fraction = [] ∧ n.exponent = none

instance (n : Numeral) : Decidable n.IsNatural :=
  inferInstanceAs (Decidable (n.negative = false ∧ n.fraction = [] ∧ _))

end Numeral

/-! ### Documents -/

inductive Document where
  | null
  | bool (b : Bool)
  | number (n : Numeral)
  | string (s : String)
  | array (items : List Document)
  | object (members : List (String × Document))

mutual

inductive Spells : Document → List Char → List Char → Prop where
  | null (rest : List Char) : Spells .null ('n' :: 'u' :: 'l' :: 'l' :: rest) rest
  | true (rest : List Char) : Spells (.bool true) ('t' :: 'r' :: 'u' :: 'e' :: rest) rest
  | false (rest : List Char) : Spells (.bool false) ('f' :: 'a' :: 'l' :: 's' :: 'e' :: rest) rest
  | number (n : Numeral) (rest : List Char) : Spells (.number n) (n.text ++ rest) rest
  | string {s : String} {cs rest : List Char} : Quotes s cs rest → Spells (.string s) cs rest
  | array {ds : List Document} {cs rest : List Char} :
      SpellsItems ds cs rest → Spells (.array ds) ('[' :: cs) rest
  | object {ms : List (String × Document)} {cs rest : List Char} :
      SpellsMembers ms cs rest → Spells (.object ms) ('\x7b' :: cs) rest

/-- A document with blanks around. -/
inductive Padded : Document → List Char → List Char → Prop where
  | padded {d : Document} {cs as bs rest : List Char} :
      Blanks cs as → Spells d as bs → Blanks bs rest → Padded d cs rest

/-- What an array holds, up to its closing bracket. -/
inductive SpellsItems : List Document → List Char → List Char → Prop where
  | none {cs rest : List Char} : Blanks cs (']' :: rest) → SpellsItems [] cs rest
  | last {d : Document} {cs rest : List Char} : Padded d cs (']' :: rest) → SpellsItems [d] cs rest
  | more {d e : Document} {ds : List Document} {cs as rest : List Char} :
      Padded d cs (',' :: as) → SpellsItems (e :: ds) as rest → SpellsItems (d :: e :: ds) cs rest

/-- A name, a colon and a document. -/
inductive SpellsMember : String × Document → List Char → List Char → Prop where
  | member {name : String} {d : Document} {cs as bs es rest : List Char} :
      Blanks cs as → Quotes name as bs → Blanks bs (':' :: es) → Padded d es rest →
      SpellsMember (name, d) cs rest

/-- What an object holds, up to its closing brace. -/
inductive SpellsMembers : List (String × Document) → List Char → List Char → Prop where
  | none {cs rest : List Char} : Blanks cs ('\x7d' :: rest) → SpellsMembers [] cs rest
  | last {m : String × Document} {cs rest : List Char} :
      SpellsMember m cs ('\x7d' :: rest) → SpellsMembers [m] cs rest
  | more {m n : String × Document} {ms : List (String × Document)} {cs as rest : List Char} :
      SpellsMember m cs (',' :: as) → SpellsMembers (n :: ms) as rest →
      SpellsMembers (m :: n :: ms) cs rest

end

/-- `s` is a text of the document `d`. -/
def IsText (s : String) (d : Document) : Prop := Padded d s.toList []

/-! ### What follows a spelling is shorter -/

variable {cs rest : List Char}

lemma Blanks.length_le (h : Blanks cs rest) : rest.length ≤ cs.length := by
  induction h with
  | none => exact Nat.le_refl _
  | more _ _ ih => exact Nat.le_succ_of_le ih

lemma SpellsChar.length_lt {x : Char} (h : SpellsChar x cs rest) : rest.length < cs.length := by
  cases h with
  | plain => simp
  | short =>
    simp only [List.length_cons]
    omega
  | unit h =>
    cases h
    simp only [List.length_cons]
    omega
  | pair _ h h' =>
    cases h
    cases h'
    simp only [List.length_cons]
    omega

lemma SpellsChars.length_le {xs : List Char} (h : SpellsChars xs cs rest) :
    rest.length ≤ cs.length := by
  induction h with
  | nil => exact Nat.le_refl _
  | cons hx _ ih => exact Nat.le_trans ih (Nat.le_of_lt hx.length_lt)

lemma Quotes.length_lt {s : String} (h : Quotes s cs rest) : rest.length < cs.length := by
  obtain ⟨h⟩ := h
  exact Nat.lt_succ_of_le (Nat.le_of_succ_le h.length_le)

mutual

lemma Spells.length_le {d : Document} {cs rest : List Char} :
    Spells d cs rest → rest.length ≤ cs.length
  | .null _ | .true _ | .false _ => by simp only [List.length_cons]; omega
  | .number n rest => by simp
  | .string h => Nat.le_of_lt h.length_lt
  | .array h => Nat.le_succ_of_le h.length_le
  | .object h => Nat.le_succ_of_le h.length_le

lemma Padded.length_le {d : Document} {cs rest : List Char} :
    Padded d cs rest → rest.length ≤ cs.length
  | .padded hb hd hb' => Nat.le_trans hb'.length_le (Nat.le_trans hd.length_le hb.length_le)

lemma SpellsItems.length_le {ds : List Document} {cs rest : List Char} :
    SpellsItems ds cs rest → rest.length ≤ cs.length
  | .none h => Nat.le_of_succ_le h.length_le
  | .last h => Nat.le_of_succ_le h.length_le
  | .more h hs => Nat.le_trans hs.length_le (Nat.le_of_succ_le h.length_le)

lemma SpellsMember.length_lt {m : String × Document} {cs rest : List Char} :
    SpellsMember m cs rest → rest.length < cs.length
  | .member hb hname hcolon hd => by
    have h₁ := hb.length_le
    have h₂ := hname.length_lt
    have h₃ := Nat.le_of_succ_le hcolon.length_le
    exact Nat.lt_of_le_of_lt (Nat.le_trans hd.length_le h₃) (Nat.lt_of_lt_of_le h₂ h₁)

lemma SpellsMembers.length_le {ms : List (String × Document)} {cs rest : List Char} :
    SpellsMembers ms cs rest → rest.length ≤ cs.length
  | .none h => Nat.le_of_succ_le h.length_le
  | .last h => Nat.le_of_succ_le (Nat.le_of_lt h.length_lt)
  | .more h hs => Nat.le_trans hs.length_le (Nat.le_of_succ_le (Nat.le_of_lt h.length_lt))

end

/-- Every member takes a character at least. -/
lemma SpellsMembers.count_le {ms : List (String × Document)} (h : SpellsMembers ms cs rest) :
    ms.length ≤ cs.length := by
  induction ms generalizing cs with
  | nil => exact Nat.zero_le _
  | cons m ms ih =>
    cases h with
    | last h => exact Nat.lt_of_le_of_lt (Nat.zero_le _) h.length_lt
    | more h hms =>
      have := h.length_lt
      exact Nat.lt_of_le_of_lt (ih hms) (Nat.lt_of_succ_lt this)

end Embedder.Json
