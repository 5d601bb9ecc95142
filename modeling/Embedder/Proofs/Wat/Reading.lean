import Embedder.Wat.Reader.Fields
import Mathlib.Tactic.Lemma

/-!
# Words that a reader takes

A reader of the text format takes words off the front of those that are left. What it has read says
which words these were, as long as the last word stays: no step takes the word that ends a text.

* `Wat.Took`: the words that were taken;
* `Wat.State.Ends`, `Wat.ends_ofTokens`: the last word of a text;
* `Wat.bind_eq_ok_iff`: one step after the other;
* `Wat.expect_eq_ok`, `Wat.takeKeyword_eq_ok`, `Wat.bytes_eq_ok`, `Wat.parens_eq_ok`,
  `Wat.label_eq_ok` and others: what the steps take.
-/

namespace Embedder.Wat

variable {α β : Type} {s s' : State} {ws vs : List Token}

/-! ### Steps of reading -/

lemma bind_eq_ok_iff {p : Reading α} {f : α → Reading β} {b : β} :
    (p >>= f) s = .ok (b, s') ↔ ∃ a u, p s = .ok (a, u) ∧ f a u = .ok (b, s') := by
  show (p s >>= fun (a, u) => f a u) = _ ↔ _
  cases p s with
  | error o => exact iff_of_false (fun h => nomatch h) fun ⟨_, _, h, _⟩ => nomatch h
  | ok r =>
    constructor
    · intro h
      exact ⟨r.1, r.2, rfl, h⟩
    · rintro ⟨a, u, hr, h⟩
      cases hr
      exact h

lemma pure_eq_ok_iff {a b : α} : (pure a : Reading α) s = .ok (b, s') ↔ a = b ∧ s = s' := by
  show Except.ok (a, s) = .ok (b, s') ↔ _
  rw [Except.ok.injEq, Prod.mk.injEq]

lemma fail_ne_ok {a : α} : (fail : Reading α) s ≠ .ok (a, s') := by
  intro h
  obtain ⟨t, u, -, hfail⟩ := bind_eq_ok_iff.1 h
  cases hfail

/-- The words that are left. -/
def State.words (s : State) : List Token := s.tokens.map Placed.token

/-- The last word is one that no step takes. It says that the text ends, as no other word does, or it
is no word. -/
def State.Ends (s : State) : Prop :=
  ∃ pre t, s.words = pre ++ [t] ∧ (t = .ended ∨ t = .malformed) ∧ .ended ∉ pre

/-- These words were taken off the front. -/
structure Took (ws : List Token) (s s' : State) : Prop where
  words : s.words = ws ++ s'.words
  ends : s'.Ends

lemma Took.trans {u : State} (h : Took ws s u) (h' : Took vs u s') : Took (ws ++ vs) s s' := by
  refine ⟨?_, h'.ends⟩
  rw [h.words, h'.words, List.append_assoc]

lemma State.Ends.refl (h : s.Ends) : Took [] s s := ⟨rfl, h⟩

/-- Nothing is behind the end. -/
lemma State.Ends.words_eq {rest : List Token} (h : s.Ends) (hwords : s.words = .ended :: rest) :
    s.words = [.ended] := by
  obtain ⟨pre, t, hends, -, hpre⟩ := h
  cases pre with
  | nil =>
    rw [hends] at hwords
    obtain ⟨rfl, -⟩ := List.cons.inj hwords
    exact hends
  | cons t' pre =>
    rw [hends] at hwords
    obtain ⟨rfl, -⟩ := List.cons.inj hwords
    exact absurd List.mem_cons_self hpre

lemma look_eq_ok {t r : Placed} (h : t.look s = .ok (r, s')) :
    r = t ∧ s' = s ∧ t.token ≠ .malformed := by
  unfold Placed.look at h
  split at h
  · cases h
  · rename_i hne
    cases h
    exact ⟨rfl, rfl, hne⟩

lemma placed_eq_ok {t : Placed} (h : placed s = .ok (t, s')) :
    s' = s ∧ t.token ≠ .malformed ∧ ∃ rest, s.tokens = t :: rest := by
  unfold placed at h
  split at h
  · rename_i hs
    obtain ⟨rfl, rfl, hne⟩ := look_eq_ok h
    exact ⟨rfl, hne, _, hs⟩
  · cases h

lemma peek_eq_ok {t : Token} (h : peek s = .ok (t, s')) :
    s' = s ∧ t ≠ .malformed ∧ ∃ rest, s.words = t :: rest := by
  obtain ⟨r, u, hplaced, hpure⟩ := bind_eq_ok_iff.1 h
  obtain ⟨rfl, rfl⟩ := pure_eq_ok_iff.1 hpure
  obtain ⟨rfl, hne, rest, hs⟩ := placed_eq_ok hplaced
  exact ⟨rfl, hne, rest.map Placed.token, by rw [State.words, hs, List.map_cons]⟩

/-- A word that is not the last one is dropped. -/
lemma advance_eq_ok {u : Unit} {t : Token} {rest : List Token} (hs : s.Ends)
    (ht : s.words = t :: rest) (hended : t ≠ .ended) (hmalformed : t ≠ .malformed)
    (h : advance s = .ok (u, s')) : Took [t] s s' := by
  obtain ⟨pre, l, hwords, hl, hpre⟩ := hs
  obtain ⟨x, xs, htokens, rfl, rfl⟩ := List.map_eq_cons_iff.1 ht
  rw [ht] at hwords
  cases pre with
  | nil =>
    -- only the last word is left, and this is none that a step takes
    obtain ⟨rfl, -⟩ := List.cons.inj hwords
    exact absurd hl (not_or.2 ⟨hended, hmalformed⟩)
  | cons t' pre =>
    obtain ⟨-, hrest⟩ := List.cons.inj hwords
    cases xs with
    | nil => simp at hrest
    | cons y ys =>
      unfold advance at h
      rw [htokens] at h
      cases h
      exact ⟨ht, pre, l, hrest, hl, fun h => hpre (List.mem_cons_of_mem _ h)⟩

lemma expect_eq_ok {u : Unit} {t : Token} (hs : s.Ends) (hended : t ≠ .ended)
    (h : expect t s = .ok (u, s')) : Took [t] s s' := by
  obtain ⟨t', v, hpeek, hthen⟩ := bind_eq_ok_iff.1 h
  obtain ⟨rfl, hne, rest, hwords⟩ := peek_eq_ok hpeek
  split at hthen
  · rename_i heq
    obtain rfl := heq
    exact advance_eq_ok hs hwords hended hne hthen
  · exact absurd hthen fail_ne_ok

lemma expect_ended_eq_ok {u : Unit} (h : expect .ended s = .ok (u, s')) :
    ∃ rest, s.words = .ended :: rest := by
  obtain ⟨t', v, hpeek, hthen⟩ := bind_eq_ok_iff.1 h
  obtain ⟨rfl, -, rest, hwords⟩ := peek_eq_ok hpeek
  split at hthen
  · rename_i heq
    exact ⟨rest, by rw [hwords, heq]⟩
  · exact absurd hthen fail_ne_ok

lemma isKeyword_eq_ok {w : String} {b : Bool} (h : isKeyword w s = .ok (b, s')) :
    s' = s ∧ (b = true → ∃ rest, s.words = .keyword w :: rest) := by
  obtain ⟨t, v, hpeek, hpure⟩ := bind_eq_ok_iff.1 h
  obtain ⟨rfl, -, rest, hwords⟩ := peek_eq_ok hpeek
  obtain ⟨rfl, rfl⟩ := pure_eq_ok_iff.1 hpure
  refine ⟨rfl, fun ht => ⟨rest, ?_⟩⟩
  rw [hwords, of_decide_eq_true ht]

lemma takeKeyword_eq_ok {w : String} {b : Bool} (hs : s.Ends) (h : takeKeyword w s = .ok (b, s')) :
    Took (if b then [.keyword w] else []) s s' := by
  obtain ⟨b', v, hkeyword, hthen⟩ := bind_eq_ok_iff.1 h
  obtain ⟨rfl, hwords⟩ := isKeyword_eq_ok hkeyword
  split at hthen
  · rename_i hb
    obtain ⟨u, v', hadvance, hpure⟩ := bind_eq_ok_iff.1 hthen
    obtain ⟨rfl, rfl⟩ := pure_eq_ok_iff.1 hpure
    obtain ⟨rest, hwords⟩ := hwords hb
    exact advance_eq_ok hs hwords (by simp) (by simp) hadvance
  · obtain ⟨rfl, rfl⟩ := pure_eq_ok_iff.1 hthen
    exact hs.refl

lemma ahead_eq_ok {t : Token} (h : ahead s = .ok (t, s')) : s' = s := by
  obtain ⟨v, u, hget, hthen⟩ := bind_eq_ok_iff.1 h
  obtain ⟨rfl, rfl⟩ : s = v ∧ s = u := by
    cases hget
    exact ⟨rfl, rfl⟩
  rcases htokens : s.tokens with _ | ⟨x, _ | ⟨y, ys⟩⟩
  · simp only [htokens] at hthen
    exact (pure_eq_ok_iff.1 hthen).2.symm
  · simp only [htokens] at hthen
    exact (pure_eq_ok_iff.1 hthen).2.symm
  · simp only [htokens] at hthen
    obtain ⟨r, u', hlook, hpure⟩ := bind_eq_ok_iff.1 hthen
    obtain ⟨-, rfl, -⟩ := look_eq_ok hlook
    exact (pure_eq_ok_iff.1 hpure).2.symm

lemma opens_eq_ok {t : Token} {b : Bool} (h : opens t s = .ok (b, s')) : s' = s := by
  obtain ⟨t', u, hpeek, hthen⟩ := bind_eq_ok_iff.1 h
  obtain ⟨rfl, -, -⟩ := peek_eq_ok hpeek
  split at hthen
  · obtain ⟨t'', u', hahead, hpure⟩ := bind_eq_ok_iff.1 hthen
    obtain rfl := ahead_eq_ok hahead
    exact (pure_eq_ok_iff.1 hpure).2.symm
  · exact (pure_eq_ok_iff.1 hthen).2.symm

lemma aheadIs_eq_ok {ks : List String} {b : Bool} (h : aheadIs ks s = .ok (b, s')) : s' = s := by
  obtain ⟨t, u, hahead, hthen⟩ := bind_eq_ok_iff.1 h
  obtain rfl := ahead_eq_ok hahead
  split at hthen
  · exact (pure_eq_ok_iff.1 hthen).2.symm
  · exact (pure_eq_ok_iff.1 hthen).2.symm

lemma isEmpty_eq_ok {b : Bool} (h : isEmpty s = .ok (b, s')) : s' = s := by
  obtain ⟨t, u, hpeek, hthen⟩ := bind_eq_ok_iff.1 h
  obtain ⟨rfl, -, -⟩ := peek_eq_ok hpeek
  split at hthen
  · exact (pure_eq_ok_iff.1 hthen).2.symm
  · exact (pure_eq_ok_iff.1 hthen).2.symm
  · exact (pure_eq_ok_iff.1 hthen).2.symm

lemma bytes_eq_ok {bs : List UInt8} (hs : s.Ends) (h : bytes s = .ok (bs, s')) :
    Took [.string bs] s s' := by
  obtain ⟨t, u, hpeek, hthen⟩ := bind_eq_ok_iff.1 h
  obtain ⟨rfl, -, rest, hwords⟩ := peek_eq_ok hpeek
  split at hthen
  · obtain ⟨v, u', hadvance, hpure⟩ := bind_eq_ok_iff.1 hthen
    obtain ⟨rfl, rfl⟩ := pure_eq_ok_iff.1 hpure
    exact advance_eq_ok hs hwords (by simp) (by simp) hadvance
  · exact absurd hthen fail_ne_ok

lemma text_eq_ok {t : String} (hs : s.Ends) (h : text s = .ok (t, s')) :
    ∃ bs, Took [.string bs] s s' := by
  obtain ⟨t', u, hpeek, hthen⟩ := bind_eq_ok_iff.1 h
  obtain ⟨rfl, -, rest, hwords⟩ := peek_eq_ok hpeek
  split at hthen
  · rename_i bs
    cases htext : String.fromUTF8? ⟨bs.toArray⟩ with
    | some t' =>
      simp only [htext] at hthen
      obtain ⟨v, u', hadvance, hpure⟩ := bind_eq_ok_iff.1 hthen
      obtain ⟨-, rfl⟩ := pure_eq_ok_iff.1 hpure
      exact ⟨bs, advance_eq_ok hs hwords (by simp) (by simp) hadvance⟩
    | none =>
      simp only [htext] at hthen
      exact absurd hthen fail_ne_ok
  · exact absurd hthen fail_ne_ok

/-- Brackets are taken with what is in them. -/
lemma parens_eq_ok {p : Reading α} {a : α} (hs : s.Ends) (h : parens p s = .ok (a, s')) :
    ∃ u u', Took [.opening] s u ∧ p u = .ok (a, u') ∧ (u'.Ends → Took [.closing] u' s') := by
  obtain ⟨_, u, hopening, hthen⟩ := bind_eq_ok_iff.1 h
  obtain ⟨a', u', hp, hclose⟩ := bind_eq_ok_iff.1 hthen
  obtain ⟨_, v, hclosing, hpure⟩ := bind_eq_ok_iff.1 hclose
  obtain ⟨rfl, rfl⟩ := pure_eq_ok_iff.1 hpure
  exact ⟨u, u', expect_eq_ok hs (by simp) hopening, hp, fun hu => expect_eq_ok hu (by simp) hclosing⟩

/-- The words in front of the content of a module: a name, and an annotation that shows another. -/
def IsLabel (ws : List Token) : Prop :=
  ∃ name shown, ws = name ++ shown ∧ (name = [] ∨ ∃ n, name = [.identifier n]) ∧
    (shown = [] ∨ ∃ bs, shown = [.opening, .note "name", .string bs, .closing])

lemma name?_eq_ok {n : Option Name} (hs : s.Ends) (h : name? s = .ok (n, s')) :
    ∃ name, Took name s s' ∧ (name = [] ∨ ∃ n, name = [.identifier n]) := by
  obtain ⟨t, u, hplaced, hthen⟩ := bind_eq_ok_iff.1 h
  obtain ⟨hsame, -, rest, htokens⟩ := placed_eq_ok hplaced
  rw [hsame] at hthen
  split at hthen
  · rename_i n offset
    obtain ⟨v, u', hadvance, hpure⟩ := bind_eq_ok_iff.1 hthen
    obtain ⟨-, rfl⟩ := pure_eq_ok_iff.1 hpure
    have hwords : s.words = .identifier n :: rest.map Placed.token := by
      rw [State.words, htokens, List.map_cons]
    exact ⟨_, advance_eq_ok hs hwords (by simp) (by simp) hadvance, .inr ⟨n, rfl⟩⟩
  · obtain ⟨-, rfl⟩ := pure_eq_ok_iff.1 hthen
    exact ⟨[], hs.refl, .inl rfl⟩

lemma label_eq_ok {l : Label} (hs : s.Ends) (h : label s = .ok (l, s')) :
    ∃ ws, IsLabel ws ∧ Took ws s s' := by
  obtain ⟨n, u, h₀, h⟩ := bind_eq_ok_iff.1 h
  obtain ⟨name, htook, hname⟩ := name?_eq_ok hs h₀
  obtain ⟨b, u', hopens, hthen⟩ := bind_eq_ok_iff.1 h
  obtain rfl := opens_eq_ok hopens
  split at hthen
  · obtain ⟨shown, v, hparens, hpure⟩ := bind_eq_ok_iff.1 hthen
    obtain ⟨-, rfl⟩ := pure_eq_ok_iff.1 hpure
    obtain ⟨v₁, v₂, hopening, hshown, hclosing⟩ := parens_eq_ok htook.ends hparens
    obtain ⟨_, v₃, hnote, htext⟩ := bind_eq_ok_iff.1 hshown
    have htook₁ := expect_eq_ok hopening.ends (by simp) hnote
    obtain ⟨bs, htook₂⟩ := text_eq_ok htook₁.ends htext
    refine ⟨_, ⟨name, _, rfl, hname, .inr ⟨bs, rfl⟩⟩, htook.trans ?_⟩
    exact ((hopening.trans htook₁).trans htook₂).trans (hclosing htook₂.ends)
  · obtain ⟨-, rfl⟩ := pure_eq_ok_iff.1 hthen
    exact ⟨name, ⟨name, [], (List.append_nil _).symm, hname, .inl rfl⟩, htook⟩

/-- Strings up to the end of a list. -/
lemma repeated_bytes_eq_ok {test : Reading Bool} (htest : ∀ {s b s'}, test s = .ok (b, s') → s' = s)
    {rounds : Nat} {bss : List (List UInt8)} (hs : s.Ends)
    (h : repeated test bytes rounds s = .ok (bss, s')) : Took (bss.map Token.string) s s' := by
  induction rounds generalizing s bss with
  | zero =>
    obtain ⟨rfl, rfl⟩ := pure_eq_ok_iff.1 h
    exact hs.refl
  | succ rounds ih =>
    obtain ⟨b, u, hb, hthen⟩ := bind_eq_ok_iff.1 h
    obtain rfl := htest hb
    split at hthen
    · obtain ⟨bs, v, hbytes, hthen⟩ := bind_eq_ok_iff.1 hthen
      have htook := bytes_eq_ok hs hbytes
      obtain ⟨rest, v', hrest, hpure⟩ := bind_eq_ok_iff.1 hthen
      obtain ⟨rfl, rfl⟩ := pure_eq_ok_iff.1 hpure
      exact htook.trans (ih htook.ends hrest)
    · obtain ⟨rfl, rfl⟩ := pure_eq_ok_iff.1 hthen
      exact hs.refl

lemma untilClosing_bytes_eq_ok {bss : List (List UInt8)} (hs : s.Ends)
    (h : untilClosing bytes s = .ok (bss, s')) : Took (bss.map Token.string) s s' := by
  refine repeated_bytes_eq_ok (fun {s b s'} hb => ?_) hs h
  obtain ⟨b', u, hempty, hpure⟩ := bind_eq_ok_iff.1 hb
  obtain rfl := isEmpty_eq_ok hempty
  exact (pure_eq_ok_iff.1 hpure).2.symm

/-! ### The last word -/

lemma Word.token_ne_ended (w : Word) : w.token ≠ .ended := by
  unfold Word.token
  repeat' split
  all_goals simp

/-- The placed words end with the one that says so, or with what is no word. -/
def EndsPlaced (ts : List Placed) : Prop :=
  ∃ pre t, ts = pre ++ [t] ∧ (t.token = .ended ∨ t.token = .malformed) ∧
    ∀ x ∈ pre, x.token ≠ .ended

/-- A text ends with the word that says so, or with what is no word. -/
lemma scan_ends (rounds : Nat) (cs : List Char) (offset : Nat) (skipped : Option Skipped)
    (found : List Placed) (hfound : ∀ x ∈ found, x.token ≠ .ended) :
    EndsPlaced (scan rounds cs offset skipped found) := by
  have hstop {found : List Placed} (hfound : ∀ x ∈ found, x.token ≠ .ended) (t : Placed)
      (ht : t.token = .ended ∨ t.token = .malformed) : EndsPlaced (t :: found).reverse :=
    ⟨found.reverse, t, List.reverse_cons, ht, fun x hx => hfound x (List.mem_reverse.1 hx)⟩
  have hkeep {found : List Placed} (hfound : ∀ x ∈ found, x.token ≠ .ended) {skips : Bool}
      {t : Placed} (ht : t.token ≠ .ended) :
      ∀ x ∈ if skips then found else t :: found, x.token ≠ .ended := by
    split
    · exact hfound
    · exact List.forall_mem_cons.2 ⟨ht, hfound⟩
  fun_induction scan rounds cs offset skipped found
  case case2 rounds offset skipped found =>
    refine hstop hfound _ ?_
    cases skipped with
    | none => exact .inl rfl
    | some s => exact .inr rfl
  case case8 ih => exact ih (List.forall_mem_cons.2 ⟨by simp, hfound⟩)
  case case9 ih =>
    exact ih (List.forall_mem_cons.2 ⟨by simp, List.forall_mem_cons.2 ⟨by simp, hfound⟩⟩)
  case case11 ih => exact ih (List.forall_mem_cons.2 ⟨by simp, hfound⟩)
  case case15 hword =>
    rw [hword]
    exact hstop hfound _ (.inr rfl)
  case case16 r hword ih =>
    rw [hword]
    exact ih (hkeep hfound (Word.token_ne_ended r.value))
  case case17 ih => exact ih (hkeep hfound (by simp))
  -- every other round stops at what is no word, or goes on with what was found before
  all_goals first
    | exact hstop hfound _ (.inr rfl)
    | (rename_i ih; exact ih hfound)

lemma ends_ofTokens (t : String) : (State.ofTokens (tokens t)).Ends := by
  obtain ⟨pre, l, htokens, hl, hpre⟩ :=
    scan_ends (t.toList.length + 1) t.toList 0 none [] (by simp)
  refine ⟨pre.map Placed.token, l.token, ?_, hl, fun h => ?_⟩
  · rw [State.words]
    exact (congrArg (List.map Placed.token) htokens).trans List.map_append
  · obtain ⟨x, hx, hxt⟩ := List.mem_map.1 h
    exact hpre x hx hxt

end Embedder.Wat
