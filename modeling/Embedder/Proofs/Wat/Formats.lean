import Embedder.Proofs.Wasi.Texts
import Embedder.Proofs.Wat.Reading
import Embedder.Proofs.World.Artifacts

/-!
# One module from a text and from its binary

A module is compiled from text or from binary, and text becomes binary before. The binary of a text
in fields starts like every binary, so it is compiled as it is when it is given back. A text may also
hold the bytes of its module in strings. These are taken as they are, so they need be no binary: then
the text does not compile, while the bytes, given back, are read as a text of their own.

* `Binary.isBinary_file`: what is written as a binary is taken for one;
* `Wat.Quotes`, `Wat.document_eq_binary`: which texts hold bytes;
* `Wat.assembleWith_eq_ok`: what texts are assembled to;
* `Module.compileWith_utf8`: the way of a text into the compiler;
* `Module.FormatsAgree`, `Module.formats_agree_but_for_quotes`: what becomes of a text and of its
  binary.

All of it holds for any format of components, since a component starts with a header of its own.
-/

namespace Embedder

open Wasi.Calling (utf8)

/-! ### What is a binary -/

namespace Binary

lemma isBinary_of_magic (rest : List UInt8) : isBinary (magic ++ rest) = true :=
  List.isPrefixOf_iff_prefix.2 (List.prefix_append ..)

/-- **What is written as a binary is taken for one.** -/
theorem isBinary_file (e : Entries) (customs : List CustomSection) (n : Names) :
    isBinary (file e customs n) = true := by
  unfold file header
  simp only [List.append_assoc]
  exact isBinary_of_magic _

lemma decode_of_not_isBinary {bytes : List UInt8} (h : isBinary bytes = false) :
    decode bytes = .error .notBinary := by
  unfold decode sections
  rw [h]
  rfl

end Binary

namespace Wat

variable {c : ComponentFormat} {s s' : State} {bs bytes : List UInt8} {t : String}

/-! ### Texts that hold bytes -/

/-- The words of a module or a component that is given by its bytes. -/
def Quotes (kind : String) (ws : List Token) (bytes : List UInt8) : Prop :=
  ∃ (l : List Token) (bss : List (List UInt8)), IsLabel l ∧ bytes = bss.flatten ∧
    ws = .opening :: .keyword kind :: l ++ .keyword "binary" :: bss.map .string ++ [.closing]

/-- Something in brackets is given by its bytes, or its content is. -/
lemma bracketed_eq_ok {kind : String} {content : Label → Reading Document} (hs : s.Ends)
    (hcontent : ∀ l u u', content l u ≠ .ok (.binary bs, u'))
    (h : bracketed kind content s = .ok (.binary bs, s')) :
    ∃ ws, Quotes kind ws bs ∧ Took ws s s' := by
  obtain ⟨u₁, u₂, hopening, hinner, hclosing⟩ := parens_eq_ok hs h
  obtain ⟨_, u₃, hkind, hthen⟩ := bind_eq_ok_iff.1 hinner
  have htook₁ := expect_eq_ok hopening.ends (by simp) hkind
  obtain ⟨l, u₄, hlabel, hform⟩ := bind_eq_ok_iff.1 hthen
  obtain ⟨ls, hls, htook₂⟩ := label_eq_ok htook₁.ends hlabel
  obtain ⟨b, u₅, hbinary, hrest⟩ := bind_eq_ok_iff.1 hform
  have htook₃ := takeKeyword_eq_ok htook₂.ends hbinary
  split at hrest
  · rename_i hb
    obtain ⟨bss, u₆, hbytes, hpure⟩ := bind_eq_ok_iff.1 hrest
    obtain ⟨hbs, rfl⟩ := pure_eq_ok_iff.1 hpure
    have htook₄ := untilClosing_bytes_eq_ok htook₃.ends hbytes
    rw [if_pos hb] at htook₃
    refine ⟨_, ⟨ls, bss, hls, (Document.binary.inj hbs).symm, rfl⟩, ?_⟩
    have htook := (((hopening.trans htook₁).trans htook₂).trans htook₃).trans htook₄
    simpa using htook.trans (hclosing htook₄.ends)
  · exact absurd hrest (hcontent l u₅ u₂)

lemma moduleDocument_eq_ok (hs : s.Ends) (h : moduleDocument s = .ok (.binary bs, s')) :
    ∃ ws, Quotes "module" ws bs ∧ Took ws s s' := by
  refine bracketed_eq_ok hs (fun l u u' hfields => ?_) h
  obtain ⟨fs, v, -, hpure⟩ := bind_eq_ok_iff.1 hfields
  exact nomatch (pure_eq_ok_iff.1 hpure).1

lemma componentDocument_eq_ok (hs : s.Ends) (h : componentDocument c s = .ok (.binary bs, s')) :
    ∃ ws, Quotes "component" ws bs ∧ Took ws s s' := by
  refine bracketed_eq_ok hs (fun l u u' hsections => ?_) h
  obtain ⟨_, v, -, hpure⟩ := bind_eq_ok_iff.1 hsections
  exact nomatch (pure_eq_ok_iff.1 hpure).1

lemma oneStart_eq_binary {d : Document} (h : oneStart d s = .ok (.binary bs, s')) :
    d = .binary bs ∧ s' = s := by
  cases d with
  | fields l fs =>
    change (if 1 < (fs.filter isStart).length then fail else pure (Document.fields l fs)) s = _ at h
    split at h
    · exact absurd h fail_ne_ok
    · exact nomatch (pure_eq_ok_iff.1 h).1
  | binary bytes =>
    obtain ⟨hsame, rfl⟩ := pure_eq_ok_iff.1 h
    exact ⟨hsame, rfl⟩
  | component sections => exact nomatch (pure_eq_ok_iff.1 h).1

/-- **Only what is given by its bytes is read as bytes**, and behind it the text ends. -/
theorem document_eq_binary (hs : s.Ends) (hdocument : document c s = .ok (.binary bs, s')) :
    ∃ kind ∈ ["module", "component"], ∃ ws, Quotes kind ws bs ∧ s.words = ws ++ [.ended] := by
  -- what follows the document proper keeps it, and finds the end
  have hlast {d : Document} {u : State} (h : (oneStart d >>= fun d => do
      expect .ended
      pure d) u = .ok (.binary bs, s')) :
      d = .binary bs ∧ ∃ rest, u.words = .ended :: rest := by
    obtain ⟨d', v, hstart, h⟩ := bind_eq_ok_iff.1 h
    obtain ⟨_, v', hended, hpure⟩ := bind_eq_ok_iff.1 h
    obtain ⟨rfl, -⟩ := pure_eq_ok_iff.1 hpure
    obtain ⟨rfl, rfl⟩ := oneStart_eq_binary hstart
    exact ⟨rfl, expect_ended_eq_ok hended⟩
  have hquoted {kind : String} {ws : List Token} {u : State} (hquotes : Quotes kind ws bs)
      (htook : Took ws s u) (hended : ∃ rest, u.words = .ended :: rest) :
      ∃ ws, Quotes kind ws bs ∧ s.words = ws ++ [.ended] := by
    obtain ⟨rest, hwords⟩ := hended
    exact ⟨ws, hquotes, htook.words.trans (by rw [htook.ends.words_eq hwords])⟩
  obtain ⟨t, u, hpeek, hthen⟩ := bind_eq_ok_iff.1 hdocument
  obtain ⟨rfl, -, -⟩ := peek_eq_ok hpeek
  by_cases ht : t = .ended
  · rw [if_pos ht] at hthen
    exact absurd hthen fail_ne_ok
  · rw [if_neg ht] at hthen
    obtain ⟨isModule, u₁, hmodule, hchoice⟩ := bind_eq_ok_iff.1 hthen
    obtain rfl := aheadIs_eq_ok hmodule
    obtain ⟨isComponent, u₂, hcomponent, hform⟩ := bind_eq_ok_iff.1 hchoice
    obtain rfl := aheadIs_eq_ok hcomponent
    cases isModule with
    | true =>
      rw [if_pos rfl] at hform
      obtain ⟨d, v, hd, hrest⟩ := bind_eq_ok_iff.1 hform
      obtain ⟨rfl, hended⟩ := hlast hrest
      obtain ⟨ws, hquotes, htook⟩ := moduleDocument_eq_ok hs hd
      exact ⟨"module", by simp, hquoted hquotes htook hended⟩
    | false =>
      rw [if_neg Bool.false_ne_true] at hform
      cases isComponent with
      | true =>
        rw [if_pos rfl] at hform
        obtain ⟨d, v, hd, hrest⟩ := bind_eq_ok_iff.1 hform
        obtain ⟨rfl, hended⟩ := hlast hrest
        obtain ⟨ws, hquotes, htook⟩ := componentDocument_eq_ok hs hd
        exact ⟨"component", by simp, hquoted hquotes htook hended⟩
      | false =>
        rw [if_neg Bool.false_ne_true] at hform
        obtain ⟨fs, v, -, hfields⟩ := bind_eq_ok_iff.1 hform
        obtain ⟨d, v', hd, hrest⟩ := bind_eq_ok_iff.1 hfields
        obtain ⟨rfl, -⟩ := hlast hrest
        exact nomatch (pure_eq_ok_iff.1 hd).1

/-! ### What texts are assembled to -/

/-- The text is nothing but a module or a component that is given by these bytes. -/
def QuotesOnly (t : String) (bytes : List UInt8) : Prop :=
  ∃ kind ∈ ["module", "component"], ∃ ws, Quotes kind ws bytes ∧
    (tokens t).map Placed.token = ws ++ [.ended]

/-- The binary of fields is one, and what starts with the header of a component is taken for one. -/
lemma isBinary_of_bytes {d : Document} (h : d.bytes = .ok bytes) (hd : ∀ bs, d ≠ .binary bs) :
    Binary.isBinary bytes = true := by
  cases d with
  | fields l fs =>
    cases hresolve : resolve l fs with
    | error offset =>
      rw [Document.bytes, hresolve] at h
      cases h
    | ok r =>
      rw [Document.bytes, hresolve] at h
      cases h
      exact Binary.isBinary_file _ _ _
  | binary bs => exact absurd rfl (hd bs)
  | component sections =>
    cases h
    unfold componentHeader
    rw [List.append_assoc]
    exact Binary.isBinary_of_magic _

/-- A text is assembled by way of what it is read as. -/
lemma exists_document (h : assembleWith c t = .ok bytes) :
    ∃ d s, document c (.ofTokens (tokens t)) = .ok (d, s) ∧ d.bytes = .ok bytes := by
  unfold assembleWith at h
  cases hdocument : document c (.ofTokens (tokens t)) with
  | error offset =>
    simp only [hdocument] at h
    cases h
  | ok r =>
    simp only [hdocument] at h
    cases hbytes : r.1.bytes with
    | error offset =>
      simp only [hbytes] at h
      cases h
    | ok bs =>
      simp only [hbytes] at h
      cases h
      exact ⟨r.1, r.2, rfl, hbytes⟩

/-- **A text is assembled to a binary**, or to the bytes that it holds. -/
theorem assembleWith_eq_ok (h : assembleWith c t = .ok bytes) :
    Binary.isBinary bytes = true ∨ QuotesOnly t bytes := by
  obtain ⟨d, s, hdocument, hbytes⟩ := exists_document h
  cases d with
  | binary bs =>
    cases hbytes
    exact .inr (document_eq_binary (ends_ofTokens t) hdocument)
  | fields l fs => exact .inl (isBinary_of_bytes hbytes (by simp))
  | component sections => exact .inl (isBinary_of_bytes hbytes (by simp))

/-- Only a source that is no text is refused as such. -/
lemma assembleWith_ne_notText : assembleWith c t ≠ .error .notText := by
  intro h
  unfold assembleWith at h
  simp only at h
  split at h
  · cases h
  · split at h
    · cases h
    · cases h

end Wat

/-! ### The ways into the compiler -/

namespace Module

variable {c : Wat.ComponentFormat} {e : Engine} {t : String} {bytes : List UInt8} {m : Module}

lemma ofBinary_of_not_isBinary (h : Binary.isBinary bytes = false) :
    ofBinary e bytes = .error .invalid := by
  unfold ofBinary
  rw [Binary.decode_of_not_isBinary h]

/-- Any other text is assembled once, and what comes out has to be a binary. -/
lemma compileWith_utf8 (h : Binary.isBinary (utf8 t) = false) :
    compileWith c e (utf8 t) = match Wat.assembleWith c t with
      | .ok bytes => ofBinary e bytes
      | .error r => .error (.ofAssembly r) := by
  have htext : String.fromUTF8? ⟨(utf8 t).toArray⟩ = some t := Wasi.text?_utf8 t
  unfold compileWith Wat.toBinaryWith
  rw [h, htext]
  rfl

/-- What becomes of a text by itself and by way of what it is assembled to. -/
inductive Fate (c : Wat.ComponentFormat) (e : Engine) (t : String) : Prop
  /-- It is not in the text format, and the error is found in the same place. -/
  | malformed (place : Text.Position) (hassemble : Wat.assembleWith c t = .error (.malformed place))
      (hcompile : compileWith c e (utf8 t) = .error (.malformed (some place)))
  /-- What it is assembled to is not valid. -/
  | invalid (bytes : List UInt8) (hassemble : Wat.assembleWith c t = .ok bytes)
      (hcompile : compileWith c e (utf8 t) = .error .invalid)
      (hagain : compileWith c e bytes = .error .invalid)
  /-- The same module comes out: with the same imports, exports, name and custom sections. -/
  | same (m : Module) (hcompile : compileWith c e (utf8 t) = .ok m) (bytes : List UInt8)
      (hassemble : Wat.assembleWith c t = .ok bytes) (hagain : compileWith c e bytes = .ok m)
  /-- It holds bytes that are no binary. They are not valid as a module, whatever they are as a
  text. -/
  | quoted (bytes : List UInt8) (hquotes : Wat.QuotesOnly t bytes)
      (hbinary : Binary.isBinary bytes = false) (hassemble : Wat.assembleWith c t = .ok bytes)
      (hcompile : compileWith c e (utf8 t) = .error .invalid)

/-- Modules are compiled from the two formats alike. -/
structure FormatsAgree (c : Wat.ComponentFormat) (e : Engine) : Prop where
  /-- A binary is compiled as it is. It is valid or not, but it is not read as a text. -/
  binary (bytes : List UInt8) (h : Binary.isBinary bytes = true) :
    Wat.toBinaryWith c bytes = .ok bytes ∧ compileWith c e bytes = ofBinary e bytes ∧
      (compileWith c e bytes = .error .invalid ∨
        ∃ m, compileWith c e bytes = .ok m ∧ m.binary = bytes)
  text (t : String) (h : Binary.isBinary (utf8 t) = false) : Fate c e t

/-- **The same module comes from a text and from its binary**, unless the text holds bytes in
strings that are no binary. -/
theorem formats_agree_but_for_quotes (c : Wat.ComponentFormat) (e : Engine) : FormatsAgree c e where
  binary bytes h := by
    refine ⟨if_pos h, compileWith_of_isBinary h, ?_⟩
    rw [compileWith_of_isBinary h]
    cases hm : ofBinary e bytes with
    | error r =>
      rw [ofBinary_eq_error hm]
      exact .inl rfl
    | ok m => exact .inr ⟨m, rfl, (ofBinary_eq_ok hm).1⟩
  text t h := by
    have hcompile := compileWith_utf8 (c := c) (e := e) h
    cases hassemble : Wat.assembleWith c t with
    | error r =>
      rw [hassemble] at hcompile
      cases r with
      | malformed place => exact .malformed place hassemble hcompile
      | notText => exact absurd hassemble Wat.assembleWith_ne_notText
    | ok bytes =>
      rw [hassemble] at hcompile
      by_cases hbinary : Binary.isBinary bytes = true
      · have hagain := compileWith_of_isBinary (c := c) (e := e) hbinary
        cases hm : ofBinary e bytes with
        | error r =>
          obtain rfl := ofBinary_eq_error hm
          exact .invalid bytes hassemble (hcompile.trans hm) (hagain.trans hm)
        | ok m => exact .same m (hcompile.trans hm) bytes hassemble (hagain.trans hm)
      · -- what is no binary was quoted, and only text could be made of it
        have hquotes := (Wat.assembleWith_eq_ok hassemble).resolve_left hbinary
        have hno := Bool.eq_false_iff.2 hbinary
        exact .quoted bytes hquotes hno hassemble (hcompile.trans (ofBinary_of_not_isBinary hno))

/-- A module that is given by the bytes of another text. -/
def textInBytes : String := "(module binary \"(module)\")"

lemma assemble_textInBytes : Wat.assemble textInBytes = .ok (utf8 "(module)") := by decide +kernel

lemma assemble_module : Wat.assemble "(module)" = .ok Binary.header := by decide +kernel

/-- The bytes are no binary, so the text does not compile. They are a text, and it compiles. -/
theorem textInBytes_is_read_once :
    Binary.isBinary (utf8 textInBytes) = false ∧
    Wat.assemble textInBytes = .ok (utf8 "(module)") ∧
    compile (.standard 0) (utf8 textInBytes) = .error .invalid ∧
    ∃ m, compile (.standard 0) (utf8 "(module)") = .ok m := by
  have htext : Binary.isBinary (utf8 textInBytes) = false := by decide +kernel
  have hmodule : Binary.isBinary (utf8 "(module)") = false := by decide +kernel
  refine ⟨htext, assemble_textInBytes, ?_, ?_⟩
  · refine (compileWith_utf8 htext).trans ?_
    rw [show Wat.assembleWith .empty textInBytes = _ from assemble_textInBytes]
    exact ofBinary_of_not_isBinary hmodule
  · have hcompile := compileWith_utf8 (c := .empty) (e := .standard 0) hmodule
    rw [show Wat.assembleWith .empty "(module)" = _ from assemble_module] at hcompile
    have hread : (ofBinary (.standard 0) Binary.header).toOption.isSome = true := by decide
    cases hm : ofBinary (.standard 0) Binary.header with
    | error r =>
      rw [hm] at hread
      cases hread
    | ok m => exact ⟨m, hcompile.trans hm⟩

end Module

end Embedder
