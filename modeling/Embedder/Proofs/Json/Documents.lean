import Embedder.Proofs.Json.Reading

/-!
# Documents are read back

A document that is written without blanks is read back as it was, as long as its numbers fit into 64
bits. So no two of these documents are written alike.

* `Json.ofText?`: the document that a text has, with natural numbers only;
* `Json.quotes_quoted`: how strings are written;
* `Json.Fits`: the numbers of a document fit;
* `Json.ofText?_compact`: reading takes back writing.
-/

namespace Embedder.Json

variable {j : Json} {rest : List Char}

/-! ### Reading documents -/

/-- Whether something follows before the closing bracket, and the cursor behind the bracket or the
comma. -/
def readSeparator (close : Char) (first : Bool) (c : Cursor) : Reading (Bool × Cursor) :=
  let c := c.skipBlanks
  match peek? c with
  | none => faultAt .endInValue c.position
  | some x =>
    if x = close then .ok (false, c.next)
    else if first then .ok (true, c)
    else if x = ',' then .ok (true, c.next)
    else faultAt .trailingCharacters c.nextBytePosition

/-- The name of a member and the colon behind it. -/
def readName (c : Cursor) : Reading (String × Cursor) :=
  let c := c.skipBlanks
  match peek? c with
  | some '"' => do
    let (s, c) ← readString c.next
    let ((), c) ← readWord [':'] c.skipBlanks
    .ok (s, c)
  | _ => faultAt .keyMustBeString c.nextBytePosition

def readNatural (c : Cursor) : Reading (Nat × Cursor) :=
  match readNumber true c with
  | .ok (.unsigned n, c) => .ok (n, c)
  | .ok (_, c) => faultAt .invalidNumber c.position
  | .error e => .error e

mutual

/-- A document whose numbers are natural numbers. A round is taken for every document within and for
every separator, of which the text has no more than characters. -/
def readValue : (rounds : Nat) → Cursor → Reading (Json × Cursor)
  | 0, c => faultAt .endInValue c.position
  | rounds + 1, c =>
    let c := c.skipBlanks
    match peek? c with
    | some 'n' => do
      let ((), c) ← readWord "ull".toList c.next
      .ok (.null, c)
    | some 't' => do
      let ((), c) ← readWord "rue".toList c.next
      .ok (.bool true, c)
    | some 'f' => do
      let ((), c) ← readWord "alse".toList c.next
      .ok (.bool false, c)
    | some '"' => do
      let (s, c) ← readString c.next
      .ok (.str s, c)
    | some '[' => do
      let (items, c) ← readItems rounds true c.next
      .ok (.arr items, c)
    | some '\x7b' => do
      let (members, c) ← readMembers rounds true c.next
      .ok (.obj members, c)
    | _ => do
      let (n, c) ← readNatural c
      .ok (.nat n, c)

def readItems : (rounds : Nat) → (first : Bool) → Cursor → Reading (List Json × Cursor)
  | 0, _, c => faultAt .endInList c.position
  | rounds + 1, first, c => do
    let (more, c) ← readSeparator ']' first c
    if more then
      let (j, c) ← readValue rounds c
      let (items, c) ← readItems rounds false c
      .ok (j :: items, c)
    else .ok ([], c)

def readMembers : (rounds : Nat) → (first : Bool) → Cursor → Reading (List (String × Json) × Cursor)
  | 0, _, c => faultAt .endInObject c.position
  | rounds + 1, first, c => do
    let (more, c) ← readSeparator '\x7d' first c
    if more then
      let (name, c) ← readName c
      let (j, c) ← readValue rounds c
      let (members, c) ← readMembers rounds false c
      .ok ((name, j) :: members, c)
    else .ok ([], c)

end

/-- The document that the whole of a text has. -/
def ofText? (s : String) : Option Json :=
  match readValue (s.toList.length + 1) (Cursor.ofString s) with
  | .ok (j, c) => if c.skipBlanks.rest = [] then some j else none
  | .error _ => none

/-! ### Strings -/

lemma spellsChar_escapeChar (x : Char) (rest : List Char) :
    SpellsChar x (escapeChar x ++ rest) rest := by
  have hcontrol : ∀ n < 0x20, controlEscape (Char.ofNat n) =
      ['\\', 'u', '0', '0', (n / 16).digitChar, (n % 16).digitChar] ∧
      hexValue? (n / 16).digitChar = some (n / 16) ∧
      hexValue? (n % 16).digitChar = some (n % 16) := by
    decide
  unfold escapeChar
  split
  next h => exact .short (by rw [h]; decide)
  split
  next h => exact .short (by rw [h]; decide)
  split
  next h => exact .short (by rw [h]; decide)
  split
  next h => exact .short (by rw [h]; decide)
  split
  next h => exact .short (by rw [h]; decide)
  split
  next h => exact .short (by rw [h]; decide)
  split
  next h => exact .short (by rw [h]; decide)
  split
  next hlow =>
    obtain ⟨htext, hhigh, hlow⟩ := hcontrol x.toNat hlow
    rw [Char.ofNat_toNat] at htext
    rw [htext]
    exact .unit (.digits rfl rfl hhigh hlow (by omega))
  next hquote hslash _ _ _ _ _ hlow => exact .plain hquote hslash (Nat.le_of_not_lt hlow)

/-- **Every string is written** between quotes, whatever its characters are. -/
lemma quotes_quoted (s : String) (rest : List Char) : Quotes s (quoted s ++ rest) rest := by
  have hchars (xs : List Char) (rest : List Char) :
      SpellsChars xs (xs.flatMap escapeChar ++ rest) rest := by
    induction xs with
    | nil => exact .nil rest
    | cons x xs ih =>
      rw [List.flatMap_cons, List.append_assoc]
      exact .cons (spellsChar_escapeChar x _) ih
  have hend : quoted s ++ rest = '"' :: (s.toList.flatMap escapeChar ++ '"' :: rest) := by
    simp [quoted]
  rw [hend]
  exact .quotes (hchars _ _)

/-! ### Every document has a text -/

lemma exists_spellsItems {ds : List Document} (h : ∀ d ∈ ds, ∀ rest, ∃ cs, Spells d cs rest)
    (rest : List Char) : ∃ cs, SpellsItems ds cs rest := by
  induction ds with
  | nil => exact ⟨_, .none (.none _)⟩
  | cons d ds ih =>
    obtain ⟨hd, hds⟩ := List.forall_mem_cons.1 h
    cases ds with
    | nil =>
      obtain ⟨cs, hcs⟩ := hd (']' :: rest)
      exact ⟨cs, .last (.padded (.none _) hcs (.none _))⟩
    | cons e ds =>
      obtain ⟨as, has⟩ := ih hds
      obtain ⟨cs, hcs⟩ := hd (',' :: as)
      exact ⟨cs, .more (.padded (.none _) hcs (.none _)) has⟩

lemma exists_spellsMembers {ms : List (String × Document)}
    (h : ∀ m ∈ ms, ∀ rest, ∃ cs, Spells m.2 cs rest) (rest : List Char) :
    ∃ cs, SpellsMembers ms cs rest := by
  have hmember (m : String × Document) (hm : ∀ rest, ∃ cs, Spells m.2 cs rest) (rest : List Char) :
      ∃ cs, SpellsMember m cs rest := by
    obtain ⟨cs, hcs⟩ := hm rest
    exact ⟨_, .member (.none _) (quotes_quoted m.1 (':' :: cs)) (.none _)
      (.padded (.none _) hcs (.none _))⟩
  induction ms with
  | nil => exact ⟨_, .none (.none _)⟩
  | cons m ms ih =>
    obtain ⟨hm, hms⟩ := List.forall_mem_cons.1 h
    cases ms with
    | nil =>
      obtain ⟨cs, hcs⟩ := hmember m hm ('\x7d' :: rest)
      exact ⟨cs, .last hcs⟩
    | cons n ms =>
      obtain ⟨as, has⟩ := ih hms
      obtain ⟨cs, hcs⟩ := hmember m hm (',' :: as)
      exact ⟨cs, .more hcs has⟩

lemma exists_spells : (d : Document) → ∀ rest, ∃ cs, Spells d cs rest
  | .null, rest => ⟨_, .null rest⟩
  | .bool true, rest => ⟨_, .true rest⟩
  | .bool false, rest => ⟨_, .false rest⟩
  | .number n, rest => ⟨_, .number n rest⟩
  | .string s, rest => ⟨_, .string (quotes_quoted s rest)⟩
  | .array ds, rest => by
    obtain ⟨cs, hcs⟩ := exists_spellsItems (fun d (hd : d ∈ ds) => exists_spells d) rest
    exact ⟨_, .array hcs⟩
  | .object ms, rest => by
    obtain ⟨cs, hcs⟩ := exists_spellsMembers (fun m (hm : m ∈ ms) => exists_spells m.2) rest
    exact ⟨_, .object hcs⟩
termination_by d => sizeOf d
decreasing_by
  · have := List.sizeOf_lt_of_mem hd
    simp only [Document.array.sizeOf_spec]
    omega
  · have := List.sizeOf_lt_of_mem hm
    have : sizeOf m.2 < sizeOf m := by
      obtain ⟨name, d⟩ := m
      simp only [Prod.mk.sizeOf_spec]
      omega
    simp only [Document.object.sizeOf_spec]
    omega

/-- **Every document has a text.** -/
theorem exists_isText (d : Document) : ∃ s, IsText s d := by
  obtain ⟨cs, hcs⟩ := exists_spells d []
  refine ⟨String.ofList cs, .padded (.none _) ?_ (.none _)⟩
  rwa [String.toList_ofList]

/-! ### What is written is read -/

/-- Every number in the document fits into 64 bits. -/
inductive Fits : Json → Prop where
  | null : Fits .null
  | bool (b : Bool) : Fits (.bool b)
  | nat {n : Nat} : n < 2 ^ 64 → Fits (.nat n)
  | str (s : String) : Fits (.str s)
  | arr {items : List Json} : (∀ j ∈ items, Fits j) → Fits (.arr items)
  | obj {members : List (String × Json)} : (∀ m ∈ members, Fits m.2) → Fits (.obj members)

@[simp] lemma fits_nat_iff {n : Nat} : (nat n).Fits ↔ n < 2 ^ 64 := ⟨fun | .nat h => h, .nat⟩

@[simp] lemma fits_bool (b : Bool) : (bool b).Fits := .bool b

@[simp] lemma fits_str (s : String) : (str s).Fits := .str s

@[simp] lemma fits_obj_iff {members : List (String × Json)} :
    (obj members).Fits ↔ ∀ m ∈ members, m.2.Fits := ⟨fun | .obj h => h, .obj⟩

/-- The items behind the first one, each behind a comma. -/
def moreItems (items : List Json) : List Char := items.flatMap fun j => ',' :: compactChars j

def memberChars (m : String × Json) : List Char := quoted m.1 ++ ':' :: compactChars m.2

def moreMembers (members : List (String × Json)) : List Char :=
  members.flatMap fun m => ',' :: memberChars m

lemma compactItems_cons (j : Json) (items : List Json) :
    compactItems (j :: items) = compactChars j ++ moreItems items := by
  induction items generalizing j with
  | nil => simp [compactItems, moreItems]
  | cons k items ih => simp [compactItems, ih k, moreItems]

lemma compactMembers_cons (m : String × Json) (members : List (String × Json)) :
    compactMembers (m :: members) = memberChars m ++ moreMembers members := by
  induction members generalizing m with
  | nil => simp [compactMembers, moreMembers, memberChars]
  | cons n members ih =>
    obtain ⟨name, j⟩ := m
    simp [compactMembers, ih n, moreMembers, memberChars]

/-- What a document starts with tells its kind, and is neither a blank nor a separator. -/
lemma exists_compactChars_eq_cons (j : Json) :
    ∃ x xs, compactChars j = x :: xs ∧ ¬ IsBlank x ∧ x ≠ ']' := by
  cases j with
  | nat n =>
    obtain ⟨x, xs, hxs⟩ := List.exists_cons_of_ne_nil (Nat.toDigits_ne_nil (n := n) (b := 10))
    have hdigit : x.isDigit = true := isDigit_toDigits n x (by rw [hxs]; exact List.mem_cons_self)
    refine ⟨x, xs, by simpa [compactChars] using hxs, not_isBlank_of_isDigit hdigit, ?_⟩
    rintro rfl
    cases hdigit
  | bool b => cases b <;> exact ⟨_, _, rfl, by decide, by decide⟩
  | null => exact ⟨_, _, rfl, by decide, by decide⟩
  | str s => exact ⟨_, _, rfl, by decide, by decide⟩
  | arr items => exact ⟨_, _, by rw [compactChars]; rfl, by decide, by decide⟩
  | obj members => exact ⟨_, _, by rw [compactChars]; rfl, by decide, by decide⟩

section Separators

variable {close : Char} {cs rest : List Char}

lemma reads_readSeparator_close (hclose : ¬ IsBlank close) (first : Bool) :
    Reads (readSeparator close first) (close :: rest) false rest := by
  intro p
  simp only [readSeparator, skipBlanks_cons hclose, peek?, List.head?_cons, if_true]
  exact ⟨_, rfl⟩

/-- What stands before something, the first or not. -/
def lead (first : Bool) : List Char := if first then [] else [',']

lemma reads_readSeparator_lead {x : Char} (hx : ¬ IsBlank x) (hclose : x ≠ close)
    (hcomma : ',' ≠ close) (first : Bool) :
    Reads (readSeparator close first) (lead first ++ x :: cs) true (x :: cs) := by
  intro p
  cases first with
  | true =>
    refine ⟨p, ?_⟩
    simp only [lead, if_true, List.nil_append, readSeparator, skipBlanks_cons hx, peek?,
      List.head?_cons, hclose, if_false]
  | false =>
    have hblank : ¬ IsBlank ',' := by decide
    refine ⟨p.past ',' (',' : Char).utf8Size, ?_⟩
    simp only [lead, Bool.false_eq_true, if_false, List.cons_append, List.nil_append, readSeparator,
      skipBlanks_cons hblank, peek?, List.head?_cons, hcomma, if_true, Cursor.next]

end Separators

lemma reads_readName (name : String) (rest : List Char) :
    Reads readName (quoted name ++ ':' :: rest) name rest := by
  intro p
  obtain ⟨q, hq⟩ := (reads_readString (quotes_quoted name (':' :: rest))).bind_eq
    (fun (s, c) => do
      let ((), c) ← readWord [':'] c.skipBlanks
      .ok (s, c)) p
  exact ⟨_, hq⟩

lemma reads_readNatural {n : Nat} (hn : n < 2 ^ 64) (hrest : Ended rest) :
    Reads readNatural (Nat.toDigits 10 n ++ rest) n rest := by
  intro p
  obtain ⟨q, hq⟩ := reads_readNumber hn hrest p
  exact ⟨q, by rw [readNatural, hq]⟩

/-- The items that are left, where an array starts or behind one of its items. -/
def itemsLeft (first : Bool) (items : List Json) : List Char :=
  if first then compactItems items else moreItems items

def membersLeft (first : Bool) (members : List (String × Json)) : List Char :=
  if first then compactMembers members else moreMembers members

@[simp] lemma itemsLeft_nil (first : Bool) : itemsLeft first [] = [] := by cases first <;> rfl

@[simp] lemma membersLeft_nil (first : Bool) : membersLeft first [] = [] := by cases first <;> rfl

lemma itemsLeft_cons (first : Bool) (j : Json) (items : List Json) :
    itemsLeft first (j :: items) = lead first ++ (compactChars j ++ moreItems items) := by
  cases first with
  | true => simp [itemsLeft, lead, compactItems_cons]
  | false => simp [itemsLeft, lead, moreItems]

lemma membersLeft_cons (first : Bool) (m : String × Json) (members : List (String × Json)) :
    membersLeft first (m :: members) = lead first ++ (memberChars m ++ moreMembers members) := by
  cases first with
  | true => simp [membersLeft, lead, compactMembers_cons]
  | false => simp [membersLeft, lead, moreMembers]

/-- As many rounds as this are enough for what has no more characters. -/
structure ReadsBack (rounds : Nat) : Prop where
  value (j : Json) (rest : List Char) (hj : Fits j) (hr : (compactChars j).length ≤ rounds)
    (hrest : Ended rest) : Reads (readValue rounds) (compactChars j ++ rest) j rest
  items (first : Bool) (items : List Json) (rest : List Char) (hitems : ∀ j ∈ items, Fits j)
    (hr : (itemsLeft first items).length < rounds) :
    Reads (readItems rounds first) (itemsLeft first items ++ ']' :: rest) items rest
  members (first : Bool) (members : List (String × Json)) (rest : List Char)
    (hmembers : ∀ m ∈ members, Fits m.2) (hr : (membersLeft first members).length < rounds) :
    Reads (readMembers rounds first) (membersLeft first members ++ '\x7d' :: rest) members rest

lemma ReadsBack.value_succ {n : Nat} (ih : ReadsBack n) (j : Json) (rest : List Char) (hj : Fits j)
    (hr : (compactChars j).length ≤ n + 1) (hrest : Ended rest) :
    Reads (readValue (n + 1)) (compactChars j ++ rest) j rest := by
  intro p
  cases hj with
  | null => exact (reads_readWord "ull".toList rest).map (fun _ => Json.null) _
  | bool b =>
    cases b with
    | true => exact (reads_readWord "rue".toList rest).map (fun _ => Json.bool true) _
    | false => exact (reads_readWord "alse".toList rest).map (fun _ => Json.bool false) _
  | @nat k hk =>
    obtain ⟨x, xs, hxs⟩ := List.exists_cons_of_ne_nil (Nat.toDigits_ne_nil (n := k) (b := 10))
    have hdigit : x.isDigit = true := isDigit_toDigits k x (by rw [hxs]; exact List.mem_cons_self)
    have hblank := not_isBlank_of_isDigit hdigit
    obtain ⟨q, hq⟩ := (reads_readNatural hk hrest).map Json.nat p
    refine ⟨q, ?_⟩
    rw [compactChars]
    rw [hxs, List.cons_append] at hq ⊢
    simp only [readValue, skipBlanks_cons hblank, peek?, List.head?_cons]
    split
    case h_7 => exact hq
    all_goals
      rename_i heq
      cases heq
      cases hdigit
  | str s => exact (reads_readString (quotes_quoted s rest)).map Json.str _
  | @arr items hitems =>
    rw [compactChars] at hr ⊢
    rw [List.append_assoc]
    have hlength : (itemsLeft true items).length < n := by
      simp only [itemsLeft, if_true]
      simp only [List.cons_append, List.length_cons, List.length_append] at hr
      omega
    exact (ih.items true items rest hitems hlength).map Json.arr _
  | @obj members hmembers =>
    rw [compactChars] at hr ⊢
    rw [List.append_assoc]
    have hlength : (membersLeft true members).length < n := by
      simp only [membersLeft, if_true]
      simp only [List.cons_append, List.length_cons, List.length_append] at hr
      omega
    exact (ih.members true members rest hmembers hlength).map Json.obj _

lemma ended_moreItems (items : List Json) (rest : List Char) :
    Ended (moreItems items ++ ']' :: rest) := by
  cases items <;> rintro _ ⟨⟩ <;> decide

lemma ended_moreMembers (members : List (String × Json)) (rest : List Char) :
    Ended (moreMembers members ++ '\x7d' :: rest) := by
  cases members <;> rintro _ ⟨⟩ <;> decide

lemma ReadsBack.items_succ {n : Nat} (ih : ReadsBack n) (first : Bool) (items : List Json)
    (rest : List Char) (hitems : ∀ j ∈ items, Fits j)
    (hr : (itemsLeft first items).length < n + 1) :
    Reads (readItems (n + 1) first) (itemsLeft first items ++ ']' :: rest) items rest := by
  cases items with
  | nil =>
    rw [itemsLeft_nil]
    exact Reads.bind (reads_readSeparator_close (by decide) first) fun p => ⟨p, rfl⟩
  | cons j items =>
    obtain ⟨hj, hitems⟩ := List.forall_mem_cons.1 hitems
    obtain ⟨x, xs, hxs, hblank, hx⟩ := exists_compactChars_eq_cons j
    rw [itemsLeft_cons, List.length_append, List.length_append] at hr
    have hpos : 0 < (compactChars j).length := by rw [hxs]; exact Nat.succ_pos _
    have hlead : Reads (readSeparator ']' first) (itemsLeft first (j :: items) ++ ']' :: rest) true
        (compactChars j ++ (moreItems items ++ ']' :: rest)) := by
      rw [itemsLeft_cons, List.append_assoc, List.append_assoc, hxs]
      exact reads_readSeparator_lead hblank hx (by decide) first
    have hvalue := ih.value j _ hj (by omega) (ended_moreItems items rest)
    have hmore := ih.items false items rest hitems (show (moreItems items).length < n by omega)
    exact hlead.bind (hvalue.bind (hmore.bind fun p => ⟨p, rfl⟩))

lemma ReadsBack.members_succ {n : Nat} (ih : ReadsBack n) (first : Bool)
    (members : List (String × Json)) (rest : List Char) (hmembers : ∀ m ∈ members, Fits m.2)
    (hr : (membersLeft first members).length < n + 1) :
    Reads (readMembers (n + 1) first) (membersLeft first members ++ '\x7d' :: rest) members rest := by
  cases members with
  | nil =>
    rw [membersLeft_nil]
    exact Reads.bind (reads_readSeparator_close (by decide) first) fun p => ⟨p, rfl⟩
  | cons m members =>
    obtain ⟨name, j⟩ := m
    obtain ⟨hj, hmembers⟩ := List.forall_mem_cons.1 hmembers
    rw [membersLeft_cons, memberChars, List.length_append, List.length_append, List.length_append,
      List.length_cons] at hr
    dsimp only at hr
    have hlead : Reads (readSeparator '\x7d' first)
        (membersLeft first ((name, j) :: members) ++ '\x7d' :: rest) true
        (quoted name ++ ':' :: (compactChars j ++ (moreMembers members ++ '\x7d' :: rest))) := by
      rw [membersLeft_cons, memberChars]
      simp only [List.append_assoc, List.cons_append]
      exact reads_readSeparator_lead (by decide) (by decide) (by decide) first
    have hvalue := ih.value j _ hj (by omega) (ended_moreMembers members rest)
    have hmore := ih.members false members rest hmembers
      (show (moreMembers members).length < n by omega)
    exact hlead.bind ((reads_readName name _).bind (hvalue.bind (hmore.bind fun p => ⟨p, rfl⟩)))

lemma readsBack (rounds : Nat) : ReadsBack rounds := by
  induction rounds with
  | zero =>
    refine ⟨fun j rest _ hr => ?_, fun _ _ _ _ hr => absurd hr (Nat.not_lt_zero _),
      fun _ _ _ _ hr => absurd hr (Nat.not_lt_zero _)⟩
    obtain ⟨x, xs, hxs, -⟩ := exists_compactChars_eq_cons j
    rw [hxs] at hr
    exact absurd hr (Nat.not_succ_le_zero _)
  | succ n ih => exact ⟨ih.value_succ, ih.items_succ, ih.members_succ⟩

/-- **Reading takes back writing.** -/
theorem ofText?_compact (hj : Fits j) : ofText? (compact j) = some j := by
  obtain ⟨q, hq⟩ := (readsBack ((compactChars j).length + 1)).value j [] hj (Nat.le_succ _)
    (fun x hx => nomatch hx) ⟨1, 0⟩
  rw [List.append_nil] at hq
  have hread : readValue ((compact j).toList.length + 1) (Cursor.ofString (compact j)) =
      .ok (j, ⟨[], q⟩) := by
    simpa [compact, Cursor.ofString] using hq
  rw [ofText?, hread]
  rfl

end Embedder.Json
