import Embedder.Proofs.Binary.Writing
import Embedder.Proofs.Modules.Validity

/-!
# Custom sections change nothing else

A custom section can stand between any two sections of a binary. The module that is compiled is the
same, but it has one custom section more, in the place that the file gives it. This holds of every
name that means nothing to an engine.

* `Binary.IsCustomSection`, `Binary.isCustomSection_customBytes`: the bytes of a custom section;
* `Binary.EndsBetween`: where a custom section can stand;
* `Module.Gains`, `Module.gains_of_insert`: one custom section more;
* `Module.CustomSectionsApart`, `Module.custom_sections_stand_apart`: custom sections and all else.
-/

namespace Embedder

/-! ### Binaries with one custom section more -/

namespace Binary

variable {pre post sec payload : List UInt8} {n : String} {d : Definition}

/-- The bytes are one custom section, with this name and these bytes behind it. The sizes in it may
be written in more groups than they need. -/
def IsCustomSection (sec : List UInt8) (n : String) (payload : List UInt8) : Prop :=
  ∃ contents, rawSection sec = .ok (⟨0, contents⟩, []) ∧ name contents = .ok (n, payload)

/-- Everything that is not too large can be put into a custom section. -/
theorem isCustomSection_customBytes (hn : n.utf8ByteSize ≤ maxNameSize)
    (hsize : (nameBytes n ++ payload).length < 2 ^ 32) (after : Option SectionKind) :
    IsCustomSection (customBytes ⟨n, payload, after⟩) n payload :=
  ⟨nameBytes n ++ payload, (reads_customBytes hsize).eq_ok, reads_nameBytes hn payload⟩

/-- The bytes are the beginning of a binary up to the end of its header or of one of its sections. -/
def EndsBetween (pre : List UInt8) : Prop := ∃ ss, sections pre = .ok ss

/-- **A custom section more** is put aside in its place. -/
theorem decode_insert (h : decode (pre ++ post) = .ok d) (hpre : EndsBetween pre)
    (hsec : IsCustomSection sec n payload) :
    ∃ front back after, d.customs = front ++ back ∧
      decode (pre ++ sec ++ post) = .ok (d.withCustoms (front ++ ⟨n, payload, after⟩ :: back)) ∧
      customSections pre = .ok (front.map held) := by
  obtain ⟨ss, hpre⟩ := hpre
  obtain ⟨body, rfl, hbody⟩ := sections_eq_ok_iff.1 hpre
  obtain ⟨us, hsections, hread, hcounts⟩ := decode_eq_ok_iff.1 h
  rw [List.append_assoc] at hsections
  obtain ⟨bytes, hbytes, hframed⟩ := sections_eq_ok_iff.1 hsections
  obtain rfl := List.append_cancel_left hbytes
  obtain ⟨ts, rfl, hpost⟩ := hframed.of_append hbody
  obtain ⟨contents, hraw, hname⟩ := hsec
  obtain ⟨b, hb, hreads⟩ := takesPrefix_rawSection _ _ _ hraw
  rw [List.append_nil] at hb
  obtain ⟨front, back, after, hcustoms, hinsert, hfront, -⟩ :=
    readSections_insert hread (s := ⟨0, contents⟩) rfl hname
  have hmore : sections (header ++ body ++ sec ++ post) = .ok (ss ++ ⟨0, contents⟩ :: ts) := by
    refine sections_eq_ok_iff.2 ⟨body ++ (sec ++ post), by simp, ?_⟩
    exact hbody.append (hb ▸ .cons hreads hpost)
  exact ⟨front, back, after, hcustoms, decode_eq_ok_iff.2 ⟨_, hmore, hinsert, hcounts⟩,
    customSections_eq_ok_iff.2 ⟨ss, hpre, hfront⟩⟩

/-- Only custom sections of the one name give names. -/
lemma names_insert {front back : List CustomSection} {c : CustomSection} (hc : c.name ≠ "name") :
    names (front ++ c :: back) = names (front ++ back) := by
  simp [names, List.filter_append, hc]

end Binary

/-! ### Modules with one custom section more -/

namespace Module

variable {e : Engine} {pre post sec payload : List UInt8} {n : String} {m m' : Module}

/-- What custom sections there are of one name. -/
def heldUnder (n : String) (found : List (String × List UInt8)) : List (List UInt8) :=
  (found.filter fun s => s.1 == n).map Prod.snd

/-- The second module has one custom section more, behind those that stand in `pre`. -/
structure Gains (m m' : Module) (pre : List UInt8) (n : String) (payload : List UInt8) : Prop where
  imports : m'.imports = m.imports
  exports : m'.exports = m.exports
  name : m'.name = m.name
  others : ∀ k ≠ n, m'.customSections k = m.customSections k
  own : ∃ found back, Binary.customSections pre = .ok found ∧
    m.customSections n = heldUnder n found ++ back ∧
    m'.customSections n = heldUnder n found ++ payload :: back

/-- The name means nothing to an engine: it gives no names, tells nothing for debugging, and asks for
nothing that is withdrawn. -/
structure Meaningless (n : String) : Prop where
  name : n ≠ "name"
  debug : ¬ ".debug_".toList <+: n.toList
  withdrawn : n ∉ withdrawnSections

/-- **A custom section of such a name changes nothing else.** -/
theorem gains_of_insert (hm : ofBinary e (pre ++ post) = .ok m) (hpre : Binary.EndsBetween pre)
    (hsec : Binary.IsCustomSection sec n payload) (hname : n ≠ "name")
    (hn : n ∉ withdrawnSections) :
    ∃ m', ofBinary e (pre ++ sec ++ post) = .ok m' ∧ m.Gains m' pre n payload := by
  obtain ⟨-, -, hdecode, hkept, hcustoms, hgiven⟩ := ofBinary_eq_ok_iff.1 hm
  obtain ⟨front, back, after, hsplit, hdecode', hfront⟩ := Binary.decode_insert hdecode hpre hsec
  have hcustoms' := Binary.customSections_of_decode hdecode'
  have hcustoms : m.customs = (front ++ back).map Binary.held := by
    rw [Binary.customSections_of_decode hdecode, hsplit] at hcustoms
    exact (Except.ok.inj hcustoms).symm
  let customs := front ++ ⟨n, payload, after⟩ :: back
  let m' : Module :=
    { m with
      engine := e, binary := pre ++ sec ++ post, definition := m.definition.withCustoms customs
      customs := customs.map Binary.held, bodies_eq := m.bodies_eq, imports_eq := m.imports_eq
      exports_eq := m.exports_eq }
  have hcompiled : m'.CompiledFrom e (pre ++ sec ++ post) := by
    refine ⟨rfl, rfl, hdecode', fun s hs => ?_, hcustoms', ?_⟩
    · rw [hsplit] at hkept
      rcases List.mem_append.1 hs with hs | hs
      · exact hkept s (List.mem_append_left _ hs)
      · rcases List.mem_cons.1 hs with rfl | hs
        · exact hn
        · exact hkept s (List.mem_append_right _ hs)
    · show m.name = (Binary.names customs).module
      rw [hgiven, givenName, hsplit, Binary.names_insert hname]
  refine ⟨m', ofBinary_eq_ok_iff.2 hcompiled, rfl, rfl, rfl, fun k hk => ?_, front.map Binary.held,
    heldUnder n (back.map Binary.held), hfront, ?_, ?_⟩
  · show heldUnder k (customs.map Binary.held) = heldUnder k m.customs
    rw [hcustoms]
    simp [heldUnder, customs, Binary.held, hk.symm]
  · show heldUnder n m.customs = _
    rw [hcustoms]
    simp [heldUnder]
  · show heldUnder n (customs.map Binary.held) = _
    simp [heldUnder, customs, Binary.held]

/-- Custom sections stand apart from what else a binary says. -/
structure CustomSectionsApart (number : Nat) : Prop where
  /-- Every name and every payload that are not too large can be put into a custom section. -/
  written (n : String) (payload : List UInt8) (hn : n.utf8ByteSize ≤ Binary.maxNameSize)
    (hsize : (Binary.nameBytes n ++ payload).length < 2 ^ 32) :
    Binary.IsCustomSection (Binary.customBytes ⟨n, payload, none⟩) n payload
  /-- Between any two sections it changes nothing else, if its name means nothing. -/
  inserted (pre post : List UInt8) (m : Module)
    (hm : compile (.standard number) (pre ++ post) = .ok m) (hpre : Binary.EndsBetween pre)
    (sec : List UInt8) (n : String) (payload : List UInt8)
    (hsec : Binary.IsCustomSection sec n payload) (hn : Meaningless n) :
    ∃ m', compile (.standard number) (pre ++ sec ++ post) = .ok m' ∧ m.Gains m' pre n payload

lemma isBinary_append (hpre : Binary.EndsBetween pre) : Binary.isBinary (pre ++ post) = true := by
  obtain ⟨ss, hss⟩ := hpre
  obtain ⟨body, rfl, -⟩ := Binary.sections_eq_ok_iff.1 hss
  rw [Binary.header, List.append_assoc, List.append_assoc]
  exact Binary.isBinary_of_magic _

/-- **Custom sections are collected in their places**, and nothing else depends on them. -/
theorem custom_sections_stand_apart (number : Nat) : CustomSectionsApart number where
  written n payload hn hsize := Binary.isCustomSection_customBytes hn hsize none
  inserted pre post m hm hpre sec n payload hsec hn := by
    rw [compile_of_isBinary (isBinary_append hpre)] at hm
    rw [List.append_assoc, compile_of_isBinary (isBinary_append hpre), ← List.append_assoc]
    exact gains_of_insert hm hpre hsec hn.name hn.withdrawn

/-- The header and a section `name`, which calls the module `a`. -/
def namedOnly : List UInt8 := Binary.header ++ [0, 9, 4, 0x6E, 0x61, 0x6D, 0x65, 0, 2, 1, 0x61]

/-- A section `x` that holds the byte 7. -/
def sevenUnderX : List UInt8 := [0, 3, 1, 0x78, 7]

/-- A section `x` that holds the byte 9. Both sizes in it are written in two groups. -/
def nineUnderX : List UInt8 := [0, 0x84, 0x00, 0x81, 0x00, 0x78, 9]

/-- The new section comes first where it stands first, and the module keeps its name. -/
theorem nine_comes_before_seven :
    ∃ m m', compile (.standard 0) (namedOnly ++ sevenUnderX) = .ok m ∧
      m.customSections "x" = [[7]] ∧
      compile (.standard 0) (namedOnly ++ nineUnderX ++ sevenUnderX) = .ok m' ∧
      m'.customSections "x" = [[9], [7]] ∧ m'.name = some "a" := by
  have hread : (compile (.standard 0) (namedOnly ++ sevenUnderX)).toOption.map
      (fun m => (m.name, m.customs)) =
      some (some "a", [("name", [0, 2, 1, 0x61]), ("x", [7])]) := by
    decide +kernel
  have hnamed : Binary.customSections namedOnly = .ok [("name", [0, 2, 1, 0x61])] := by
    decide +kernel
  have hpre : Binary.EndsBetween namedOnly := by
    obtain ⟨ss, hss, -⟩ := Binary.customSections_eq_ok_iff.1 hnamed
    exact ⟨ss, hss⟩
  have hsec : Binary.IsCustomSection nineUnderX "x" [9] :=
    ⟨[0x81, 0x00, 0x78, 9], by decide +kernel, by decide +kernel⟩
  have hx : Meaningless "x" := ⟨by decide, by decide, by decide⟩
  cases hm : compile (.standard 0) (namedOnly ++ sevenUnderX) with
  | error e =>
    rw [hm] at hread
    cases hread
  | ok m =>
    rw [hm] at hread
    obtain ⟨hname, hcustoms⟩ := Prod.mk.inj (Option.some.inj hread)
    have hown : m.customSections "x" = [[7]] := by
      rw [customSections, hcustoms]
      decide
    obtain ⟨m', hm', hgains⟩ :=
      (custom_sections_stand_apart 0).inserted _ _ m hm hpre nineUnderX "x" [9] hsec hx
    obtain ⟨found, back, hfound, hold, hnew⟩ := hgains.own
    obtain rfl := Except.ok.inj (hfound.symm.trans hnamed)
    have hback : back = [[7]] := (hown.symm.trans hold).symm
    exact ⟨m, m', rfl, hown, hm', by rw [hnew, hback]; rfl, hgains.name.trans hname⟩

/-- A module without sections does not compile any more with a section `webidl-bindings` behind its
header, though this name is neither `name` nor one for debugging. -/
theorem header_refuses_bindings :
    (∃ m, compile (.standard 0) Binary.header = .ok m) ∧ Binary.EndsBetween Binary.header ∧
      Binary.IsCustomSection (Binary.customBytes bindingsSection) "webidl-bindings" [] ∧
      "webidl-bindings" ≠ "name" ∧ ¬ ".debug_".toList <+: "webidl-bindings".toList ∧
      compile (.standard 0) (Binary.header ++ Binary.customBytes bindingsSection) =
        .error .invalid := by
  have hbinary : Binary.isBinary Binary.header = true := by decide +kernel
  have hnone : Binary.customSections Binary.header = .ok [] := by decide +kernel
  have hvalid : validate Binary.header = true ∧ ¬ AsksForWithdrawn Binary.header := by
    refine ⟨by decide +kernel, ?_⟩
    rintro ⟨found, hfound, s, hs, -⟩
    obtain rfl := Except.ok.inj (hfound.symm.trans hnone)
    cases hs
  refine ⟨?_, ⟨[], Binary.sections_eq_ok_iff.2 ⟨[], rfl, .nil⟩⟩, ?_, by decide, by decide,
    compile_bindings⟩
  · rw [compile_of_isBinary hbinary]
    exact exists_ofBinary_iff.2 hvalid
  · exact Binary.isCustomSection_customBytes (by decide) (by decide +kernel) _

end Module

end Embedder
