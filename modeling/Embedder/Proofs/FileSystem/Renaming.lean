import Embedder.Proofs.FileSystem.Walks
import Mathlib.Data.Set.Function

/-!
# The same files under other numbers

Where a walk is confined to a directory, only what the directory leads to matters. If another file
system has the same there under other numbers, a walk leads to the same place in both.

* `FileSystem.Evolves`: where a file system changes;
* `FileSystem.Sealed`: a part that nothing leads out of;
* `FileSystem.Embeds`: a part of a file system is found in another one under other numbers;
* `FileSystem.Embeds.resolveWithin_eq`, `FileSystem.Embeds.isAbove_eq`: ways are the same in both;
* `FileSystem.Embeds.setBytes`, `FileSystem.Embeds.attach`, `FileSystem.Embeds.detach`,
  `FileSystem.Embeds.push`: the parts stay the same if both change in the same way.
-/

namespace Embedder

/-! ### Nodes under other numbers -/

/-- Where `T` is found under the numbers that `f` gives, the directories above two directories are the
same, or neither of them belongs to it. -/
inductive ParentsAgree (f : Nat → Nat) (T : Set Nat) : Option Nat → Option Nat → Prop
  | none : ParentsAgree f T none none
  | held {p : Nat} (h : p ∈ T) : ParentsAgree f T (some p) (some (f p))
  | apart {p p' : Nat} (h : p ∉ T) (h' : p' ∉ f '' T) : ParentsAgree f T (some p) (some p')

/-- The second node has what the first one has, under other numbers. -/
inductive Node.Counterpart (f : Nat → Nat) (T : Set Nat) : Node → Node → Prop
  | directory {p p' : Option Nat} (hp : ParentsAgree f T p p') (es : List (String × Nat)) :
      Counterpart f T (.directory p es) (.directory p' (es.map (Prod.map id f)))
  | file (bytes : List UInt8) : Counterpart f T (.file bytes) (.file bytes)
  | link (target : String) : Counterpart f T (.link target) (.link target)

/-- Another node is found, and it is above neither of the two. -/
lemma ParentsAgree.update {f : Nat → Nat} {T : Set Nat} {p p' : Option Nat} {k k' : Nat}
    (h : ParentsAgree f T p p') (hk : k ∉ T) (hp : p ≠ some k) (hp' : p' ≠ some k') :
    ParentsAgree (Function.update f k k') (insert k T) p p' := by
  have hsame : ∀ q ∈ T, Function.update f k k' q = f q := fun q hq =>
    Function.update_of_ne (ne_of_mem_of_not_mem hq hk) _ _
  cases h with
  | none => exact .none
  | @held q hq =>
    rw [← hsame q hq]
    exact .held (Set.mem_insert_of_mem _ hq)
  | @apart q q' hq hq' =>
    refine .apart (fun hmem => ?_) ?_
    · rcases Set.mem_insert_iff.1 hmem with rfl | hmem
      · exact hp rfl
      · exact hq hmem
    · rintro ⟨x, hx, rfl⟩
      rcases Set.mem_insert_iff.1 hx with rfl | hx
      · exact hp' (by rw [Function.update_self])
      · exact hq' ⟨x, hx, (hsame x hx).symm⟩

lemma Node.Counterpart.update {f : Nat → Nat} {T : Set Nat} {n n' : Node} {k k' : Nat}
    (h : n.Counterpart f T n') (hk : k ∉ T) (hes : ∀ e ∈ n.entries, e.2 ∈ T)
    (hp : n.parent? ≠ some k) (hp' : n'.parent? ≠ some k') :
    n.Counterpart (Function.update f k k') (insert k T) n' := by
  cases h with
  | file bytes => exact .file bytes
  | link target => exact .link target
  | @directory p p' hagree es =>
    have hmap : es.map (Prod.map id f) = es.map (Prod.map id (Function.update f k k')) :=
      List.map_congr_left fun e he => by
        rw [Prod.map_apply', Prod.map_apply', Function.update_of_ne]
        exact ne_of_mem_of_not_mem (hes e he) hk
    rw [hmap]
    exact .directory (hagree.update hk hp hp') es

lemma Node.IsBare.counterpart {n : Node} (hn : n.IsBare) (f : Nat → Nat) (T : Set Nat) :
    n.Counterpart f T n := by
  cases n with
  | directory p es =>
    obtain ⟨rfl, rfl⟩ := hn p es rfl
    exact .directory .none []
  | file bytes => exact .file bytes
  | link target => exact .link target

namespace FileSystem

open Elementwise

variable {fs fs' fs'' : FileSystem} {f g : Nat → Nat} {S T T' : Set Nat} {d i j r : Nat} {s : String}

def Place.rename (f : Nat → Nat) : Place → Place
  | .entry d s i => .entry (f d) s (f i)
  | .missing d s => .missing (f d) s
  | .directory d => .directory (f d)

lemma Place.node?_rename (f : Nat → Nat) (p : Place) : (p.rename f).node? = p.node?.map f := by
  cases p <;> rfl

def Progress.rename (f : Nat → Nat) : Progress → Progress
  | .arrived p => .arrived (p.rename f)
  | .link d target rest => .link (f d) target rest

/-! ### Where something changes -/

/-- Nodes change in `T` only, and none goes. -/
structure Evolves (T : Set Nat) (fs fs' : FileSystem) : Prop where
  size_le : fs.nodes.size ≤ fs'.nodes.size
  apart : ∀ {i : Nat}, i < fs.nodes.size → i ∉ T → fs'.nodes[i]? = fs.nodes[i]?

namespace Evolves

lemma refl (T : Set Nat) (fs : FileSystem) : Evolves T fs fs := ⟨Nat.le_refl _, fun _ _ => rfl⟩

lemma trans (h : Evolves T fs fs') (h' : Evolves T' fs' fs'')
    (hT : ∀ i ∈ T', i < fs.nodes.size → i ∈ T) : Evolves T fs fs'' where
  size_le := Nat.le_trans h.size_le h'.size_le
  apart hi hnot := by
    rw [h'.apart (Nat.lt_of_lt_of_le hi h.size_le) (fun hT' => hnot (hT _ hT' hi)), h.apart hi hnot]

lemma mono (h : Evolves T fs fs') (hT : T ⊆ T') : Evolves T' fs fs' :=
  ⟨h.size_le, fun hi hT' => h.apart hi (mt (@hT _) hT')⟩

lemma modify (i : Nat) (change : Node → Node) (hi : i ∈ T) :
    Evolves T fs { fs with nodes := fs.nodes.modify i change } where
  size_le := by simp
  apart _ hnot := by
    rw [Array.getElem?_modify, if_neg]
    rintro rfl
    exact hnot hi

lemma setBytes (hi : i ∈ T) (bytes : List UInt8) : Evolves T fs (fs.setBytes i bytes) := modify i _ hi

lemma attach (hd : d ∈ T) (hi : i ∈ T) (s : String) : Evolves T fs (fs.attach d s i) :=
  (modify d _ hd).trans (modify i _ hi) fun _ hj _ => hj

lemma detach (hd : d ∈ T) (hi : i ∈ T) (s : String) : Evolves T fs (fs.detach d s i) :=
  (modify d _ hd).trans (modify i _ hi) fun _ hj _ => hj

lemma push (T : Set Nat) (n : Node) : Evolves T fs (fs.push n) where
  size_le := by simp
  apart hi _ := by simp [FileSystem.push, Array.getElem?_push, Nat.ne_of_lt hi]

end Evolves

/-! ### Sealed parts -/

/-- Nothing in `S` leads out of it. -/
structure Sealed (S : Set Nat) (fs : FileSystem) : Prop where
  lt_size : ∀ {i : Nat}, i ∈ S → i < fs.nodes.size
  closed : ∀ {i j : Nat}, i ∈ S → fs.Child i j → j ∈ S

lemma child_congr (h : fs'.nodes[i]? = fs.nodes[i]?) : fs'.Child i j ↔ fs.Child i j := by
  unfold Child entries
  rw [h]

namespace Sealed

/-- It stays sealed when the files change elsewhere. -/
lemma of_evolves (h : Sealed S fs) (he : Evolves T fs fs') (hT : ∀ i ∈ S, i ∉ T) : Sealed S fs' where
  lt_size hi := Nat.lt_of_lt_of_le (h.lt_size hi) he.size_le
  closed hi hj := h.closed hi ((child_congr (he.apart (h.lt_size hi) (hT _ hi))).1 hj)

lemma mem_of_child (h : Sealed S fs) (hi : i ∈ S) (hj : Relation.ReflTransGen fs.Child i j) : j ∈ S := by
  induction hj with
  | refl => exact hi
  | tail _ hchild ih => exact h.closed ih hchild

lemma mem_of_below (h : Sealed S fs) (hr : r ∈ S) (hd : fs.Below r d) : d ∈ S := by
  induction hd with
  | refl => exact hr
  | tail _ hchild ih => exact h.closed ih hchild.1

end Sealed

/-! ### Parts of file systems -/

/-- The nodes in `T` are found in another file system under other numbers. Nothing in `T` leads out of
it. -/
structure Embeds (f : Nat → Nat) (T : Set Nat) (fs fs' : FileSystem) : Prop where
  isSealed : Sealed T fs
  node : ∀ {i : Nat}, i ∈ T →
    ∃ n n', fs.nodes[i]? = some n ∧ fs'.nodes[f i]? = some n' ∧ n.Counterpart f T n'
  injOn : Set.InjOn f T

/-- Such a part is found where it is. -/
lemma Sealed.embeds (h : Sealed S fs) : Embeds id S fs fs where
  isSealed := h
  node := by
    intro i hi
    obtain ⟨n, hn⟩ : ∃ n, fs.nodes[i]? = some n := ⟨_, Array.getElem?_eq_getElem (h.lt_size hi)⟩
    refine ⟨n, n, hn, hn, ?_⟩
    cases n with
    | file bytes => exact .file bytes
    | link target => exact .link target
    | directory p es =>
      have hp : ParentsAgree id S p p := by
        cases p with
        | none => exact .none
        | some p =>
          by_cases hpS : p ∈ S
          · exact .held hpS
          · exact .apart hpS (by simpa using hpS)
      simpa using Node.Counterpart.directory hp es
  injOn := Set.injOn_id S

namespace Embeds

lemma map_lt (h : Embeds f T fs fs') (hi : i ∈ T) : f i < fs'.nodes.size := by
  obtain ⟨n, n', -, hn', -⟩ := h.node hi
  exact (Array.getElem?_eq_some_iff.1 hn').1

lemma entries_eq (h : Embeds f T fs fs') (hd : d ∈ T) :
    fs'.entries (f d) = (fs.entries d).map (Prod.map id f) := by
  obtain ⟨n, n', hn, hn', hc⟩ := h.node hd
  unfold entries
  rw [hn, hn']
  cases hc <;> rfl

lemma parents_agree (h : Embeds f T fs fs') (hd : d ∈ T) :
    ParentsAgree f T (fs.parent? d) (fs'.parent? (f d)) := by
  obtain ⟨n, n', hn, hn', hc⟩ := h.node hd
  unfold parent?
  rw [hn, hn']
  cases hc with
  | directory hp es => exact hp
  | file | link => exact .none

lemma isSome_parent?_eq (h : Embeds f T fs fs') (hd : d ∈ T) :
    (fs'.parent? (f d)).isSome = (fs.parent? d).isSome := by
  have hagree := h.parents_agree hd
  generalize fs.parent? d = p, fs'.parent? (f d) = p' at hagree
  cases hagree <;> rfl

lemma isNone_parent?_eq (h : Embeds f T fs fs') (hd : d ∈ T) :
    (fs'.parent? (f d)).isNone = (fs.parent? d).isNone := by
  rw [← Option.not_isSome, ← Option.not_isSome, h.isSome_parent?_eq hd]

lemma isDirectory_eq (h : Embeds f T fs fs') (hd : d ∈ T) :
    fs'.isDirectory (f d) = fs.isDirectory d := by
  obtain ⟨n, n', hn, hn', hc⟩ := h.node hd
  unfold isDirectory
  rw [hn, hn']
  cases hc <;> rfl

lemma bytes?_eq (h : Embeds f T fs fs') (hi : i ∈ T) : fs'.bytes? (f i) = fs.bytes? i := by
  obtain ⟨n, n', hn, hn', hc⟩ := h.node hi
  unfold bytes?
  rw [hn, hn']
  cases hc <;> rfl

lemma mem_entries (h : Embeds f T fs fs') (hd : d ∈ T) (hs : (s, i) ∈ fs.entries d) :
    (s, f i) ∈ fs'.entries (f d) := by
  rw [h.entries_eq hd]
  exact List.mem_map_of_mem hs

/-- A name that stands for nothing does so in both. -/
lemma not_mem_entries (h : Embeds f T fs fs') (hd : d ∈ T) (hs : ∀ i, (s, i) ∉ fs.entries d) (i : Nat) :
    (s, i) ∉ fs'.entries (f d) := by
  rw [h.entries_eq hd]
  intro hi
  obtain ⟨e, he, hei⟩ := List.mem_map.1 hi
  cases hei
  exact hs e.2 he

lemma reflTransGen_child (h : Embeds f T fs fs') (hi : i ∈ T) (hj : Relation.ReflTransGen fs.Child i j) :
    Relation.ReflTransGen fs'.Child (f i) (f j) := by
  induction hj with
  | refl => exact .refl
  | tail hk hchild ih =>
    obtain ⟨s, hs⟩ := hchild
    exact ih.tail ⟨s, h.mem_entries (h.isSealed.mem_of_child hi hk) hs⟩

/-- What is found of a part of another file system is sealed. -/
lemma sealed_image (h : Embeds f T fs fs') : Sealed (f '' T) fs' where
  lt_size := by
    rintro _ ⟨i, hi, rfl⟩
    exact h.map_lt hi
  closed := by
    rintro _ j ⟨i, hi, rfl⟩ ⟨s, hs⟩
    rw [h.entries_eq hi] at hs
    obtain ⟨e, he, hej⟩ := List.mem_map.1 hs
    cases hej
    exact ⟨e.2, h.isSealed.closed hi ⟨e.1, he⟩, rfl⟩

/-! ### Walks in both -/

lemma advance_eq (h : Embeds f T fs fs') (hfs : fs.WellFormed) (hr : r ∈ T) {follow : Bool}
    {ps : List Part} (hd : fs.Below r d) :
    fs'.advance (some (f r)) follow (f d) ps =
      (fs.advance (some r) follow d ps).map (Progress.rename f) := by
  induction ps generalizing d with
  | nil => rfl
  | cons part rest ih =>
    have hdT := h.isSealed.mem_of_below hr hd
    cases part with
    | here => exact ih hd
    | up =>
      unfold advance
      by_cases hdr : d = r
      · subst hdr
        simp [Except.map]
      · have hne : f r ≠ f d := fun he => hdr (h.injOn hdT hr he.symm)
        rw [if_neg (by simpa using hne), if_neg (by simpa using Ne.symm hdr)]
        have hagree := h.parents_agree hdT
        cases hp : fs.parent? d with
        | none =>
          rw [hp] at hagree
          cases hp' : fs'.parent? (f d) with
          | none => rfl
          | some p' =>
            rw [hp'] at hagree
            cases hagree
        | some p =>
          have hbelow := hd.parent hfs hdr hp
          rw [hp] at hagree
          generalize fs'.parent? (f d) = p' at hagree
          cases hagree with
          | held => exact ih hbelow
          | apart hnot => exact absurd (h.isSealed.mem_of_below hr hbelow) hnot
    | name s =>
      unfold advance
      have hlookup : (fs'.entries (f d)).lookup s = ((fs.entries d).lookup s).map f := by
        rw [h.entries_eq hdT]
        exact lookup_map f s _
      rw [hlookup]
      cases hs : (fs.entries d).lookup s with
      | none =>
        simp only [Option.map_none]
        split <;> rfl
      | some i =>
        have hmem := mem_of_lookup hs
        obtain ⟨n, n', hn, hn', hc⟩ := h.node (h.isSealed.closed hdT ⟨s, hmem⟩)
        simp only [Option.map_some, hn, hn']
        cases hc with
        | file bytes =>
          simp only
          split <;> rfl
        | link target =>
          simp only
          split <;> rfl
        | @directory p p' hp es =>
          simp only
          split
          · rfl
          · exact ih (hd.tail ⟨⟨s, hmem⟩, isDirectory_iff.2 ⟨p, es, hn⟩⟩)

lemma resolve_eq (h : Embeds f T fs fs') (hfs : fs.WellFormed) (hr : r ∈ T) {follow : Bool}
    {links : Nat} {ps : List Part} (hd : fs.Below r d) :
    fs'.resolve (some (f r)) follow links (f d) ps =
      (fs.resolve (some r) follow links d ps).map (Place.rename f) := by
  induction links generalizing d ps with
  | zero =>
    unfold resolve
    rw [h.advance_eq hfs hr hd]
    cases fs.advance (some r) follow d ps with
    | error e => rfl
    | ok q => cases q <;> rfl
  | succ links ih =>
    unfold resolve
    rw [h.advance_eq hfs hr hd]
    cases hq : fs.advance (some r) follow d ps with
    | error e => rfl
    | ok q =>
      cases advance_within (encloses_below hfs r) hd hq with
      | arrived hp => rfl
      | link hd' =>
        simp only [Except.map, Progress.rename, Option.isSome_some, if_true]
        split
        · rfl
        · exact ih hd'

/-- **A confined walk leads to the same place in both.** -/
theorem resolveWithin_eq (h : Embeds f T fs fs') (hfs : fs.WellFormed) (hr : r ∈ T) (follow : Bool)
    (path : String) :
    fs'.resolveWithin (f r) follow path =
      (fs.resolveWithin r follow path).map (Place.rename f) := by
  unfold resolveWithin
  split
  · rfl
  · split
    · rfl
    · split
      · rfl
      · exact h.resolve_eq hfs hr .refl

/-- A way up to a directory of the part does not leave it on the way. -/
lemma above_iff (h : Embeds f T fs fs') (hfs : fs.WellFormed) (hfs' : fs'.WellFormed) (hd : d ∈ T)
    (hi : i ∈ T) : fs'.Above (f d) (f i) ↔ fs.Above d i := by
  constructor
  · suffices hway : ∀ e, fs'.Above e (f i) → ∀ d ∈ T, f d = e → fs.Above d i from
      fun hup => hway _ hup d hd rfl
    intro e hup
    induction hup using Relation.ReflTransGen.head_induction_on with
    | refl =>
      intro d hd he
      rw [h.injOn hd hi he]
      exact .refl
    | @head e p' hp' hway ih =>
      rintro d hd rfl
      have hmem : p' ∈ f '' T := Above.mem hway hfs' h.sealed_image.closed ⟨i, hi, rfl⟩
      have hagree := h.parents_agree hd
      rw [hp'] at hagree
      generalize hp : fs.parent? d = p at hagree
      cases hagree with
      | held hpT => exact .head hp (ih _ hpT rfl)
      | apart _ hnot => exact absurd hmem hnot
  · intro hup
    induction hup using Relation.ReflTransGen.head_induction_on with
    | refl => exact .refl
    | @head d p hp hway ih =>
      have hpT : p ∈ T := Above.mem hway hfs h.isSealed.closed hi
      have hagree := h.parents_agree hd
      rw [hp] at hagree
      generalize hp' : fs'.parent? (f d) = p' at hagree
      cases hagree with
      | held => exact .head hp' (ih hpT)
      | apart hnot => exact absurd hpT hnot

/-- **The way up from a directory comes by the same directories.** -/
theorem isAbove_eq (h : Embeds f T fs fs') (hfs : fs.WellFormed) (hfs' : fs'.WellFormed) (hd : d ∈ T)
    (hi : i ∈ T) :
    fs'.isAbove (f i) fs'.nodes.size (f d) = fs.isAbove i fs.nodes.size d := by
  rw [Bool.eq_iff_iff, isAbove_iff, isAbove_iff]
  exact h.above_iff hfs hfs' hd hi

/-! ### The same changes in both -/

/-- A node of the part changes in both. -/
lemma node_modify (h : Embeds f T fs fs') (hi : i ∈ T) {change change' : Node → Node}
    (hchange : ∀ n n', n.Counterpart f T n' → (change n).Counterpart f T (change' n')) (hj : j ∈ T) :
    ∃ n n', (fs.nodes.modify i change)[j]? = some n ∧
      (fs'.nodes.modify (f i) change')[f j]? = some n' ∧ n.Counterpart f T n' := by
  obtain ⟨n, n', hn, hn', hc⟩ := h.node hj
  simp only [Array.getElem?_modify]
  by_cases hij : i = j
  · subst hij
    exact ⟨change n, change' n', by simp [hn], by simp [hn'], hchange n n' hc⟩
  · have hne : f i ≠ f j := fun he => hij (h.injOn hi hj he)
    exact ⟨n, n', by simp [hij, hn], by simp [hne, hn'], hc⟩

lemma setBytes (h : Embeds f T fs fs') (hi : i ∈ T) (bytes : List UInt8) :
    Embeds f T (fs.setBytes i bytes) (fs'.setBytes (f i) bytes) where
  isSealed :=
    ⟨fun hj => by simpa using h.isSealed.lt_size hj, by simpa [Child] using @h.isSealed.closed⟩
  node hj := by
    refine h.node_modify hi (fun n n' hc => ?_) hj
    cases hc with
    | file => exact .file bytes
    | directory hp es => exact .directory hp es
    | link target => exact .link target
  injOn := h.injOn

lemma setEntries (h : Embeds f T fs fs') (hd : d ∈ T) (hdir : fs.isDirectory d = true)
    {change change' : List (String × Nat) → List (String × Nat)}
    (hchange : ∀ es, change' (es.map (Prod.map id f)) = (change es).map (Prod.map id f))
    (hmem : ∀ e ∈ change (fs.entries d), e.2 ∈ T) :
    Embeds f T (fs.setEntries d change) (fs'.setEntries (f d) change') where
  isSealed := by
    refine ⟨fun hj => by simpa using h.isSealed.lt_size hj, fun {i j} hi hj => ?_⟩
    obtain ⟨s, hs⟩ := hj
    rw [entries_setEntries hdir] at hs
    split at hs
    · exact hmem _ hs
    · exact h.isSealed.closed hi ⟨s, hs⟩
  node hj := by
    refine h.node_modify hd (fun n n' hc => ?_) hj
    cases hc with
    | file bytes => exact .file bytes
    | link target => exact .link target
    | directory hp es =>
      simp only [hchange]
      exact .directory hp _
  injOn := h.injOn

lemma setParent (h : Embeds f T fs fs') (hi : i ∈ T) {p p' : Option Nat} (hp : ParentsAgree f T p p') :
    Embeds f T (fs.setParent i p) (fs'.setParent (f i) p') where
  isSealed :=
    ⟨fun hj => by simpa using h.isSealed.lt_size hj, by simpa [Child] using @h.isSealed.closed⟩
  node hj := by
    refine h.node_modify hi (fun n n' hc => ?_) hj
    cases hc with
    | file bytes => exact .file bytes
    | link target => exact .link target
    | directory _ es => exact .directory hp es
  injOn := h.injOn

/-- **A name comes in both.** -/
lemma attach (h : Embeds f T fs fs') (hd : d ∈ T) (hdir : fs.isDirectory d = true) (hi : i ∈ T)
    (s : String) : Embeds f T (fs.attach d s i) (fs'.attach (f d) s (f i)) := by
  refine (h.setEntries hd hdir (fun es => ?_) fun e he => ?_).setParent hi (.held hd)
  · simp
  · rcases List.mem_append.1 he with he | he
    · exact h.isSealed.closed hd ⟨e.1, he⟩
    · cases List.mem_singleton.1 he
      exact hi

/-- **A name goes in both.** -/
lemma detach (h : Embeds f T fs fs') (hd : d ∈ T) (hdir : fs.isDirectory d = true) (hi : i ∈ T)
    (s : String) : Embeds f T (fs.detach d s i) (fs'.detach (f d) s (f i)) := by
  refine (h.setEntries hd hdir (fun es => ?_) fun e he => ?_).setParent hi .none
  · simp [List.filter_map, Function.comp_def]
  · exact h.isSealed.closed hd ⟨e.1, List.mem_of_mem_filter he⟩

/-- **A node is new in both**, and gets a number in each of them. -/
lemma push (h : Embeds f T fs fs') (hfs : fs.WellFormed) (hfs' : fs'.WellFormed) {n : Node}
    (hn : n.IsBare) :
    Embeds (Function.update f fs.nodes.size fs'.nodes.size) (insert fs.nodes.size T) (fs.push n)
      (fs'.push n) := by
  have hlt : ∀ {i}, i ∈ T → i < fs.nodes.size := h.isSealed.lt_size
  have hnew : fs.nodes.size ∉ T := fun hT => Nat.lt_irrefl _ (hlt hT)
  have hsame : ∀ i ∈ T, Function.update f fs.nodes.size fs'.nodes.size i = f i := fun i hi =>
    Function.update_of_ne (Nat.ne_of_lt (hlt hi)) _ _
  refine ⟨⟨fun hi => ?_, fun {i j} hi hj => ?_⟩, fun {i} hi => ?_, ?_⟩
  · rcases Set.mem_insert_iff.1 hi with rfl | hi
    · simp
    · rw [size_push]
      exact Nat.lt_succ_of_lt (hlt hi)
  · obtain ⟨s, hs⟩ := hj
    rw [entries_push hn] at hs
    rcases Set.mem_insert_iff.1 hi with rfl | hi
    · exact absurd (lt_size_of_isDirectory (isDirectory_of_mem hs)) (Nat.lt_irrefl _)
    · exact Set.mem_insert_of_mem _ (h.isSealed.closed hi ⟨s, hs⟩)
  · rcases Set.mem_insert_iff.1 hi with rfl | hi
    · exact ⟨n, n, by simp [FileSystem.push], by simp [FileSystem.push], hn.counterpart ..⟩
    · obtain ⟨m, m', hm, hm', hc⟩ := h.node hi
      have hes : ∀ e ∈ m.entries, e.2 ∈ T := fun e he =>
        h.isSealed.closed hi ⟨e.1, by simpa [entries, hm] using he⟩
      have hp : m.parent? ≠ some fs.nodes.size := fun hp => Nat.lt_irrefl _ <|
        lt_size_of_isDirectory (hfs.isDirectory_parent (i := i) (by simpa [parent?, hm] using hp))
      have hp' : m'.parent? ≠ some fs'.nodes.size := fun hp' => Nat.lt_irrefl _ <|
        lt_size_of_isDirectory (hfs'.isDirectory_parent (i := f i) (by simpa [parent?, hm'] using hp'))
      refine ⟨m, m', ?_, ?_, hc.update hnew hes hp hp'⟩
      · simp [FileSystem.push, Array.getElem?_push, Nat.ne_of_lt (hlt hi), hm]
      · simp [FileSystem.push, Array.getElem?_push, hsame i hi, Nat.ne_of_lt (h.map_lt hi), hm']
  · refine (Set.injOn_insert hnew).2 ⟨h.injOn.congr fun i hi => (hsame i hi).symm, ?_⟩
    rintro ⟨i, hi, he⟩
    rw [hsame i hi, Function.update_self] at he
    exact Nat.ne_of_lt (h.map_lt hi) he

/-! ### Other parts -/

/-- The other file system may change where the part is not. -/
lemma of_evolves (h : Embeds f T fs fs') (he : Evolves S fs' fs'') (hS : ∀ i ∈ T, f i ∉ S) :
    Embeds f T fs fs'' where
  isSealed := h.isSealed
  node hi := by
    obtain ⟨n, n', hn, hn', hc⟩ := h.node hi
    exact ⟨n, n', hn, (he.apart (h.map_lt hi) (hS _ hi)).trans hn', hc⟩
  injOn := h.injOn

/-- A smaller part is found too. -/
lemma restrict (h : Embeds f T fs fs') (hT : T' ⊆ T) (hs : Sealed T' fs) : Embeds f T' fs fs' where
  isSealed := hs
  node hi := by
    obtain ⟨n, n', hn, hn', hc⟩ := h.node (hT hi)
    refine ⟨n, n', hn, hn', ?_⟩
    cases hc with
    | file bytes => exact .file bytes
    | link target => exact .link target
    | directory hp es =>
      refine .directory ?_ es
      cases hp with
      | none => exact .none
      | @held p hp =>
        by_cases hp' : p ∈ T'
        · exact .held hp'
        · exact .apart hp' fun ⟨q, hq, he⟩ => hp' (h.injOn (hT hq) hp he ▸ hq)
      | apart hp hp' => exact .apart (mt (@hT _) hp) (mt (@Set.image_mono _ _ f _ _ hT _) hp')
  injOn := h.injOn.mono hT

end Embeds

end FileSystem

end Embedder
