import Embedder.Proofs.Binary.Reading
import Embedder.Proofs.Lists

/-!
# Custom sections beside the others

The sections of a file are read in turn, and the custom ones are only put aside. So a file without
some of them, or with one more, is read alike; and whatever can be read can be looked through for its
custom sections.

* `Binary.exists_adds`, `Binary.customSections_of_decode`: what is found without reading the module;
* `Binary.readSections_insert`, `Binary.decode_insert`: a file with one more custom section.
-/

namespace Embedder

/-- The same module with other custom sections. -/
def Definition.withCustoms (d : Definition) (cs : List CustomSection) : Definition :=
  { d with customs := cs }

namespace Definition

variable {d : Definition} {cs : List CustomSection}

@[simp] lemma customs_withCustoms : (d.withCustoms cs).customs = cs := rfl

end Definition

namespace Binary

open Elementwise

variable {α : Type} {bs r contents : List UInt8} {d d' : Definition} {s : RawSection}
  {ss ts : List RawSection} {last : Option SectionKind} {kind : SectionKind}

/-! ### One section -/

lemma customSection_eq_ok_iff {c : CustomSection} :
    customSection last bs = .ok (c, r) ↔ ∃ n u, name bs = .ok (n, u) ∧ c = ⟨n, u, last⟩ ∧ r = [] := by
  unfold customSection
  simp only [bind_eq_ok_iff, pure_eq_ok_iff]
  constructor
  · rintro ⟨n, u, hn, bytes, v, hleft, rfl, rfl⟩
    cases hleft
    exact ⟨n, u, hn, rfl, rfl⟩
  · rintro ⟨n, u, hn, rfl, rfl⟩
    exact ⟨n, u, hn, u, [], rfl, rfl, rfl⟩

/-- The custom sections read before play no part, and they stay. -/
lemma readSection_eq_ok (h : readSection kind d bs = .ok (d', r)) :
    d'.customs = d.customs ∧
      ∀ cs, readSection kind (d.withCustoms cs) bs = .ok (d'.withCustoms cs, r) := by
  cases kind <;>
  · obtain ⟨x, u, hx, hpure⟩ := bind_eq_ok_iff.1 h
    obtain ⟨rfl, rfl⟩ := pure_eq_ok_iff.1 hpure
    exact ⟨rfl, fun cs => bind_eq_ok_iff.2 ⟨x, _, hx, rfl⟩⟩

/-- Where bodies can be read their sizes can. -/
lemma exists_repeated_byteVector {n : Nat} {bodies : List FunctionBody}
    (h : repeated functionBody n bs = .ok (bodies, r)) :
    ∃ parts, repeated byteVector n bs = .ok (parts, r) := by
  induction n generalizing bs bodies with
  | zero =>
    obtain ⟨-, rfl⟩ := pure_eq_ok_iff.1 h
    exact ⟨[], rfl⟩
  | succ n ih =>
    obtain ⟨body, u, hbody, hrest⟩ := bind_eq_ok_iff.1 h
    obtain ⟨bodies, v, hbodies, hpure⟩ := bind_eq_ok_iff.1 hrest
    obtain ⟨-, rfl⟩ := pure_eq_ok_iff.1 hpure
    obtain ⟨part, u', hpart, hwhole⟩ := bind_eq_ok_iff.1 hbody
    obtain ⟨-, rfl⟩ := whole_eq_ok_iff.1 hwhole
    obtain ⟨parts, hparts⟩ := ih hbodies
    exact ⟨part :: parts,
      bind_eq_ok_iff.2 ⟨part, _, hpart, bind_eq_ok_iff.2 ⟨parts, _, hparts, rfl⟩⟩⟩

lemma outline_of_vector {p : Decoder α} {as : List α} (h : vector p bs = .ok (as, r))
    (hkind : outline kind = do
      let _ ← u32
      let _ ← remaining) : outline kind bs = .ok ((), []) := by
  obtain ⟨n, u, hn, -⟩ := bind_eq_ok_iff.1 h
  rw [hkind]
  exact bind_eq_ok_iff.2 ⟨n, u, hn, bind_eq_ok_iff.2 ⟨u, [], rfl, rfl⟩⟩

/-- A section that can be read can be looked at. -/
lemma outline_of_readSection (h : readSection kind d bs = .ok (d', [])) :
    outline kind bs = .ok ((), []) := by
  cases kind
  case code =>
    obtain ⟨bodies, u, hread, hpure⟩ := bind_eq_ok_iff.1 h
    obtain ⟨-, rfl⟩ := pure_eq_ok_iff.1 hpure
    obtain ⟨n, v, hn, hbodies⟩ := bind_eq_ok_iff.1 hread
    obtain ⟨parts, hparts⟩ := exists_repeated_byteVector hbodies
    exact bind_eq_ok_iff.2 ⟨parts, [], bind_eq_ok_iff.2 ⟨n, v, hn, hparts⟩, rfl⟩
  case start | dataCount =>
    obtain ⟨n, u, hread, hpure⟩ := bind_eq_ok_iff.1 h
    obtain ⟨-, rfl⟩ := pure_eq_ok_iff.1 hpure
    exact bind_eq_ok_iff.2 ⟨n, [], hread, rfl⟩
  all_goals
    obtain ⟨as, u, hread, -⟩ := bind_eq_ok_iff.1 h
    exact outline_of_vector hread rfl

lemma skim_of_customSection (hnumber : s.number = 0) {n : String} {bytes : List UInt8}
    (h : name s.contents = .ok (n, bytes)) : skim s = .ok (some (n, bytes)) := by
  have hc : customSection none s.contents = .ok (⟨n, bytes, none⟩, []) :=
    customSection_eq_ok_iff.2 ⟨n, bytes, h, rfl, rfl⟩
  unfold skim
  rw [if_pos hnumber]
  simp only [StateT.run, hc]
  rfl

lemma skim_of_readSection (hnumber : s.number ≠ 0) (hkind : sectionKind? s.number = some kind)
    (h : readSection kind d s.contents = .ok (d', [])) : skim s = .ok none := by
  have hwhole : whole (outline kind) s.contents [] = .ok ((), []) :=
    whole_eq_ok_iff.2 ⟨outline_of_readSection h, rfl⟩
  unfold skim
  rw [if_neg hnumber, hkind]
  simp only [StateT.run, hwhole]
  rfl

/-! ### Sections in turn -/

/-- A custom section is put aside. -/
lemma readSections_custom (hnumber : s.number = 0) {n : String} {bytes : List UInt8}
    (hname : name s.contents = .ok (n, bytes)) :
    readSections last d (s :: ss) =
      readSections last (d.withCustoms (d.customs ++ [⟨n, bytes, last⟩])) ss := by
  have hc : customSection last s.contents = .ok (⟨n, bytes, last⟩, []) :=
    customSection_eq_ok_iff.2 ⟨n, bytes, hname, rfl, rfl⟩
  rw [readSections, if_pos hnumber]
  simp only [StateT.run, hc]
  rfl

/-- Any other section is read, and is the last one for those behind it. -/
lemma readSections_known (hnumber : s.number ≠ 0) (hkind : sectionKind? s.number = some kind)
    (horder : (last.any fun k => decide (kind.rank ≤ k.rank)) = false)
    (h : readSection kind d s.contents = .ok (d', [])) :
    readSections last d (s :: ss) = readSections (some kind) d' ss := by
  have hwhole : whole (readSection kind d) s.contents [] = .ok (d', []) :=
    whole_eq_ok_iff.2 ⟨h, rfl⟩
  rw [readSections, if_neg hnumber, hkind]
  simp only [horder, StateT.run, hwhole]
  rfl

/-- Where sections can be read the first one is one of these. -/
lemma readSections_cons_eq_ok (h : readSections last d (s :: ss) = .ok d') :
    (s.number = 0 ∧ ∃ n bytes, name s.contents = .ok (n, bytes)) ∨
      (s.number ≠ 0 ∧ ∃ kind, sectionKind? s.number = some kind ∧
        (last.any fun k => decide (kind.rank ≤ k.rank)) = false ∧
        ∃ d₁, readSection kind d s.contents = .ok (d₁, [])) := by
  rw [readSections] at h
  split at h
  · rename_i hnumber
    cases hc : customSection last s.contents with
    | error f =>
      simp only [StateT.run, hc] at h
      cases h
    | ok q =>
      obtain ⟨n, bytes, hname, -⟩ := customSection_eq_ok_iff.1 hc
      exact .inl ⟨hnumber, n, bytes, hname⟩
  · rename_i hnumber
    split at h
    · cases h
    · rename_i kind hkind
      split at h
      · cases h
      · rename_i horder
        cases hread : whole (readSection kind d) s.contents [] with
        | error f =>
          simp only [StateT.run, hread] at h
          cases h
        | ok q =>
          exact .inr ⟨hnumber, kind, hkind, Bool.eq_false_iff.2 horder, q.1,
            (whole_eq_ok_iff.1 hread).1⟩

/-- The name and the bytes of a custom section, without its place. -/
def held (c : CustomSection) : String × List UInt8 := (c.name, c.bytes)

/-- The sections are looked through and these custom sections are found. -/
def Skimmed (ss : List RawSection) (found : List (String × List UInt8)) : Prop :=
  ∃ xs, List.Forall₂ (fun s x => skim s = .ok x) ss xs ∧ xs.filterMap id = found

lemma Skimmed.append {xs ys : List (String × List UInt8)} (h : Skimmed ss xs) (h' : Skimmed ts ys) :
    Skimmed (ss ++ ts) (xs ++ ys) := by
  obtain ⟨us, hus, rfl⟩ := h
  obtain ⟨vs, hvs, rfl⟩ := h'
  exact ⟨us ++ vs, List.rel_append hus hvs, List.filterMap_append⟩

lemma skimmed_nil : Skimmed [] [] := ⟨[], .nil, rfl⟩

lemma skimmed_custom {x : String × List UInt8} (h : skim s = .ok (some x)) : Skimmed [s] [x] :=
  ⟨[some x], .cons h .nil, rfl⟩

lemma skimmed_known (h : skim s = .ok none) : Skimmed [s] [] := ⟨[none], .cons h .nil, rfl⟩

/-- What sections add to a module: the custom ones among them come behind those that it has, and
these could be any. -/
structure Adds (last : Option SectionKind) (ss : List RawSection) (d d' : Definition)
    (new : List CustomSection) : Prop where
  customs : d'.customs = d.customs ++ new
  elsewhere : ∀ cs, readSections last (d.withCustoms cs) ss = .ok (d'.withCustoms (cs ++ new))
  skimmed : Skimmed ss (new.map held)

/-- **Custom sections are put aside**, whatever else is read. -/
theorem exists_adds (h : readSections last d ss = .ok d') : ∃ new, Adds last ss d d' new := by
  induction ss generalizing last d with
  | nil =>
    cases h
    refine ⟨[], (List.append_nil _).symm, fun cs => ?_, skimmed_nil⟩
    rw [List.append_nil]
    rfl
  | cons s ss ih =>
    obtain ⟨hnumber, n, bytes, hname⟩ | ⟨hnumber, kind, hkind, horder, d₁, hread⟩ :=
      readSections_cons_eq_ok h
    · rw [readSections_custom hnumber hname] at h
      obtain ⟨new, hnew⟩ := ih h
      refine ⟨⟨n, bytes, last⟩ :: new, ?_, fun cs => ?_, ?_⟩
      · rw [hnew.customs, Definition.customs_withCustoms, List.append_assoc, List.singleton_append]
      · have hrest := hnew.elsewhere (cs ++ [⟨n, bytes, last⟩])
        rw [List.append_assoc, List.singleton_append] at hrest
        rw [readSections_custom hnumber hname]
        exact hrest
      · exact (skimmed_custom (skim_of_customSection hnumber hname)).append hnew.skimmed
    · rw [readSections_known hnumber hkind horder hread] at h
      obtain ⟨new, hnew⟩ := ih h
      obtain ⟨hsame, hread'⟩ := readSection_eq_ok hread
      refine ⟨new, hnew.customs.trans (by rw [hsame]), fun cs => ?_, ?_⟩
      · rw [readSections_known hnumber hkind horder (hread' cs), hnew.elsewhere cs]
      · exact (skimmed_known (skim_of_readSection hnumber hkind hread)).append hnew.skimmed

/-- **One custom section more** is put aside in its place. -/
theorem readSections_insert (h : readSections last d (ss ++ ts) = .ok d') (hnumber : s.number = 0)
    {n : String} {bytes : List UInt8} (hname : name s.contents = .ok (n, bytes)) :
    ∃ front back after, d'.customs = d.customs ++ (front ++ back) ∧
      readSections last d (ss ++ s :: ts) =
        .ok (d'.withCustoms (d.customs ++ (front ++ ⟨n, bytes, after⟩ :: back))) ∧
      Skimmed ss (front.map held) ∧ Skimmed ts (back.map held) := by
  induction ss generalizing last d with
  | nil =>
    obtain ⟨new, hnew⟩ := exists_adds h
    refine ⟨[], new, last, hnew.customs, ?_, skimmed_nil, hnew.skimmed⟩
    have hrest := hnew.elsewhere (d.customs ++ [⟨n, bytes, last⟩])
    rw [List.append_assoc, List.singleton_append] at hrest
    rw [List.nil_append, readSections_custom hnumber hname]
    exact hrest
  | cons s' ss ih =>
    rw [List.cons_append] at h ⊢
    obtain ⟨hnumber', n', bytes', hname'⟩ | ⟨hnumber', kind, hkind, horder, d₁, hread⟩ :=
      readSections_cons_eq_ok h
    · rw [readSections_custom hnumber' hname'] at h
      obtain ⟨front, back, after, hcustoms, hinsert, hfront, hback⟩ := ih h
      refine ⟨⟨n', bytes', last⟩ :: front, back, after, ?_, ?_, ?_, hback⟩
      · simpa using hcustoms
      · rw [readSections_custom hnumber' hname', hinsert]
        simp
      · exact (skimmed_custom (skim_of_customSection hnumber' hname')).append hfront
    · rw [readSections_known hnumber' hkind horder hread] at h
      obtain ⟨front, back, after, hcustoms, hinsert, hfront, hback⟩ := ih h
      have hsame := (readSection_eq_ok hread).1
      rw [hsame] at hcustoms hinsert
      refine ⟨front, back, after, hcustoms, ?_, ?_, hback⟩
      · rw [readSections_known hnumber' hkind horder hread, hinsert]
      · exact (skimmed_known (skim_of_readSection hnumber' hkind hread)).append hfront

/-! ### Files -/

lemma customSections_eq_ok_iff {bytes : List UInt8} {found : List (String × List UInt8)} :
    customSections bytes = .ok found ↔ ∃ ss, sections bytes = .ok ss ∧ Skimmed ss found := by
  unfold customSections
  simp only [Elementwise.bind_eq_ok_iff]
  refine exists_congr fun ss => and_congr_right fun _ => ?_
  constructor
  · rintro ⟨xs, hxs, ⟨⟩⟩
    exact ⟨xs, mapM_eq_ok_iff.1 hxs, rfl⟩
  · rintro ⟨xs, hxs, rfl⟩
    exact ⟨xs, mapM_eq_ok_iff.2 hxs, rfl⟩

/-- A file is read section by section, and announces what it holds. -/
lemma decode_eq_ok_iff {bytes : List UInt8} :
    decode bytes = .ok d ↔
      ∃ ss, sections bytes = .ok ss ∧ readSections none .empty ss = .ok d ∧ countsAgree d = true := by
  unfold decode
  simp only [Elementwise.bind_eq_ok_iff]
  constructor
  · rintro ⟨ss, hsections, d₁, hread, h⟩
    split at h
    · rename_i hcounts
      cases h
      exact ⟨ss, hsections, hread, hcounts⟩
    · cases h
  · rintro ⟨ss, hsections, hread, hcounts⟩
    exact ⟨ss, hsections, d, hread, if_pos hcounts⟩

/-- **What can be read can be looked through**, and the same custom sections are found. -/
theorem customSections_of_decode {bytes : List UInt8} (h : decode bytes = .ok d) :
    customSections bytes = .ok (d.customs.map held) := by
  obtain ⟨ss, hsections, hread, -⟩ := decode_eq_ok_iff.1 h
  obtain ⟨new, hnew⟩ := exists_adds hread
  refine customSections_eq_ok_iff.2 ⟨ss, hsections, ?_⟩
  rw [hnew.customs]
  exact hnew.skimmed

end Binary

end Embedder
