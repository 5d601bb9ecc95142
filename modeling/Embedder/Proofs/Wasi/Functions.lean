import Embedder.Proofs.Wasi.Alike

/-!
# The system interface for twins

* `Calling.Alike.write`, `Calling.Alike.rename`, `Calling.Alike.poll` and others: each function does the
  same for twins;
* `Function.perform_alike`, `Function.call_twins`: so every call does.
-/

namespace Embedder.Wasi

open FileSystem (Counterparts Place)

namespace Calling

variable {α β : Type}

namespace Alike

variable {t : Twins} {m : Memory} {Q : Twins → β → β → Prop}

/-! ### Writing -/

lemma send_bind {k l : Bool → Calling β} (stream : OutputStream) (bytes : List UInt8)
    (h : ∀ t₁ m₁ taken, t.Leads t₁ → Alike t₁ m₁ (k taken) (l taken) Q) :
    Alike t m (Calling.send stream bytes >>= k) (Calling.send stream bytes >>= l) Q := by
  refine bind (P := fun _ a b => a = b) ?_ fun t₁ m₁ a b ht hab => hab ▸ h t₁ m₁ a ht
  exact .ok (t.leads_withOutput stream bytes)
    (a := (t.left.write stream (t.context.sink stream) bytes).1)
    (b := (t.right.write stream (t.context.sink stream) bytes).1) rfl rfl
    (t.write_eq stream bytes).1.symm

lemma writeChunks (stream : OutputStream) (start length : Nat) :
    Same t m (Calling.writeChunks stream start length) (Calling.writeChunks stream start length) := by
  induction length using Nat.strongRecOn generalizing t m start with
  | ind length ih =>
    unfold Calling.writeChunks
    split
    · exact pure rfl
    · have hless : length - min length chunkSize < length := by
        simp only [chunkSize]
        omega
      refine onMemory_bind (.readBytes ..) fun bytes m₁ =>
        send_bind stream bytes fun t₁ m₂ taken _ => ?_
      split
      · exact ih _ hless _
      · exact fail _

lemma writeFile (fd : Nat) {f : OpenFile} (hf : f.node ∈ t.held) (bytes : List UInt8) :
    Same t m (Calling.writeFile fd f bytes)
      (Calling.writeFile fd { f with node := t.map f.node } bytes) := by
  unfold Calling.writeFile
  dsimp only
  split
  · refine file_bind hf rfl fun m₁ contents => setBytes_bind hf _ fun t₁ m₂ ht => ?_
    have hnode : t₁.map f.node = t.map f.node := ht.files.map_eq _ hf
    refine setFile fd ?_ (by simp only [hnode])
    exact ht.files.held_subset hf
  · exact fail _

lemma write (fd list count result : Nat) :
    Same t m (Calling.write fd list count result) (Calling.write fd list count result) := by
  refine descriptor_bind fd fun m₁ d d' hd => ?_
  obtain ⟨rfl, hmem⟩ := hd
  cases d with
  | output stream =>
    refine onMemory_bind (.firstBuffer ..) fun b m₂ => ?_
    cases b with
    | none => exact writeWord ..
    | some b => exact (writeChunks ..).bind fun _ _ _ _ _ _ => writeWord ..
  | file f =>
    refine onMemory_bind (.firstBuffer ..) fun b m₂ => ?_
    cases b with
    | none => exact writeWord ..
    | some b =>
      refine onMemory_bind (.readBytes ..) fun bytes m₃ => ?_
      exact (writeFile fd (hmem _ rfl) bytes).bind fun _ _ _ _ _ _ => writeWord ..
  | input => exact fail _
  | directory node name => exact fail _

lemma writeAt (fd list count position result : Nat) :
    Same t m (Calling.writeAt fd list count position result)
      (Calling.writeAt fd list count position result) := by
  refine descriptor_bind fd fun m₁ d d' hd => ?_
  obtain ⟨rfl, hmem⟩ := hd
  cases d with
  | file f =>
    refine onMemory_bind (.firstBuffer ..) fun b m₂ => ?_
    cases b with
    | none => exact writeWord ..
    | some b =>
      refine onMemory_bind (.readBytes ..) fun bytes m₃ => ?_
      dsimp only [Descriptor.rename]
      split
      · exact fail _
      · split
        · exact fail _
        · exact file_bind (hmem _ rfl) rfl fun m₄ contents =>
            setBytes_bind (hmem _ rfl) _ fun t₁ m₅ _ => writeWord ..
  | input | output | directory => exact fail _

/-! ### Reading -/

lemma ends_takeInput_inherited {room : Nat} {s : CallState} (h : s.context.input = .inherited) :
    (Calling.takeInput room).ends s = (.ok (s.system.input.take room),
      { s with system := { s.system with input := s.system.input.drop room } }) := by
  simp [Calling.takeInput, h]

lemma ends_takeInput_own {room : Nat} {s : CallState} {bytes : List UInt8}
    (h : s.context.input = .own bytes) :
    (Calling.takeInput room).ends s = (.ok (bytes.take room),
      { s with context := { s.context with input := .own (bytes.drop room) } }) := by
  simp [Calling.takeInput, h]

lemma takeInput (room : Nat) : Same t m (Calling.takeInput room) (Calling.takeInput room) := by
  cases hi : t.context.input with
  | inherited =>
    have hleads : t.Leads (t.withInput room) := Twins.leads_withInput hi
    exact .ok hleads (ends_takeInput_inherited hi) (ends_takeInput_inherited hi)
      (congrArg (List.take room) (t.input_eq hi).symm)
  | own bytes =>
    have hstreams : t.context.SameStreams { t.context with input := .own (bytes.drop room) } :=
      ⟨rfl, rfl, by simp [hi]⟩
    have hleads := Twins.leads_withContext
      (c := { t.context with input := .own (bytes.drop room) }) t.nodes_subset hstreams
    exact .ok hleads (ends_takeInput_own hi) (ends_takeInput_own hi) rfl

lemma readInput (room : Nat) : Same t m (Calling.readInput room) (Calling.readInput room) := by
  have hleft : (t.context.rename t.map).input.left t.right = t.context.input.left t.left :=
    t.left_input_eq
  refine get_bind ?_
  dsimp only [Twins.caller, Twins.twin]
  rw [hleft]
  split
  · exact pure rfl
  · split
    · exact fail _
    · exact takeInput room

lemma readFile (fd : Nat) {f : OpenFile} (hf : f.node ∈ t.held) (start length : Nat) :
    Same t m (Calling.readFile fd f start length)
      (Calling.readFile fd { f with node := t.map f.node } start length) := by
  refine onMemory_bind (.readBytes ..) fun _ m₁ => ?_
  dsimp only
  split
  · refine file_bind hf rfl fun m₂ bytes => onMemory_bind (.writeBytes ..) fun _ m₃ => ?_
    refine bind (setFile fd ?_ rfl) fun _ _ _ _ _ _ => pure rfl
    exact hf
  · exact fail _

lemma read (fd list count result : Nat) :
    Same t m (Calling.read fd list count result) (Calling.read fd list count result) := by
  refine descriptor_bind fd fun m₁ d d' hd => ?_
  obtain ⟨rfl, hmem⟩ := hd
  cases d with
  | input =>
    refine onMemory_bind (.firstBuffer ..) fun b m₂ => (readInput _).bind ?_
    rintro t₁ m₃ bytes _ - rfl
    exact onMemory_bind (.writeBytes ..) fun _ _ => writeWord ..
  | file f =>
    refine onMemory_bind (.firstBuffer ..) fun b m₂ => ?_
    cases b with
    | none => exact writeWord ..
    | some b =>
      refine (readFile fd (hmem _ rfl) ..).bind ?_
      rintro t₁ m₃ n _ - rfl
      exact writeWord ..
  | output stream => exact fail _
  | directory node name => exact fail _

lemma readAt (fd list count position result : Nat) :
    Same t m (Calling.readAt fd list count position result)
      (Calling.readAt fd list count position result) := by
  refine descriptor_bind fd fun m₁ d d' hd => ?_
  obtain ⟨rfl, hmem⟩ := hd
  cases d with
  | file f =>
    refine onMemory_bind (.firstBuffer ..) fun b m₂ => ?_
    cases b with
    | none => exact writeWord ..
    | some b =>
      dsimp only [Descriptor.rename]
      split
      · exact fail _
      · split
        · exact fail _
        · exact file_bind (hmem _ rfl) rfl fun m₃ contents =>
            onMemory_bind (.writeBytes ..) fun _ _ => writeWord ..
  | input | output | directory => exact fail _

/-! ### Positions and descriptors -/

lemma seekable_bind {k l : OpenFile → Calling β} (fd : Nat)
    (h : ∀ m₁ f, f.node ∈ t.held → Alike t m₁ (k f) (l { f with node := t.map f.node }) Q) :
    Alike t m (Calling.seekable fd >>= k) (Calling.seekable fd >>= l) Q := by
  refine bind_here (R := fun f f' => f.node ∈ t.held ∧ f' = { f with node := t.map f.node })
    (descriptor_bind fd fun m₁ d d' hd => ?_) ?_
  · obtain ⟨rfl, hmem⟩ := hd
    cases d with
    | file f => exact pure ⟨rfl, hmem _ rfl, rfl⟩
    | input | output | directory => exact fail _
  · rintro m₁ f _ ⟨hf, rfl⟩
    exact h m₁ f hf

lemma moveTo (fd result : Nat) {f : OpenFile} (hf : f.node ∈ t.held) (place : Option Nat) : Same t m
    (match place with
      | none => Calling.fail .invalid
      | some position => do
        Calling.setDescriptor fd (some (.file { f with position }))
        Calling.writeWord 8 result position)
    (match place with
      | none => Calling.fail .invalid
      | some position => do
        Calling.setDescriptor fd (some (.file { f with node := t.map f.node, position }))
        Calling.writeWord 8 result position) := by
  cases place with
  | none => exact fail _
  | some position =>
    refine bind (setFile fd ?_ rfl) fun _ _ _ _ _ _ => writeWord ..
    exact hf

lemma seek (v : Version) (fd offset whence result : Nat) :
    Same t m (Calling.seek v fd offset whence result) (Calling.seek v fd offset whence result) := by
  unfold Calling.seek
  split
  · exact fail _
  · rename_i origin _
    refine seekable_bind fd fun m₁ f hf => ?_
    cases origin with
    | start => exact moveTo fd result hf _
    | current => exact moveTo fd result hf _
    | «end» => exact file_bind hf rfl fun m₂ bytes => moveTo fd result hf _

lemma tell (fd result : Nat) : Same t m (Calling.tell fd result) (Calling.tell fd result) :=
  seekable_bind fd fun _ _ _ => writeWord ..

lemma close (fd : Nat) : Same t m (Calling.close fd) (Calling.close fd) :=
  descriptor_bind fd fun _ _ _ _ => setDescriptor fd rfl (by simp)

lemma renumber (fd newFd : Nat) :
    Same t m (Calling.renumber fd newFd) (Calling.renumber fd newFd) := by
  refine descriptor_bind fd fun m₁ d d' hd => ?_
  obtain ⟨rfl, hmem⟩ := hd
  split
  · exact pure rfl
  · refine context_bind ?_
    rw [Context.renumber_rename]
    exact setContext (fun i hi => (Context.mem_nodes_renumber hi).elim (@t.nodes_subset i) (hmem i))
      ⟨rfl, rfl, .rfl⟩

lemma setFlags (fd flags : Nat) : Same t m (Calling.setFlags fd flags) (Calling.setFlags fd flags) := by
  unfold Calling.setFlags
  dsimp only
  split
  · exact fail _
  · refine openFile_bind fd fun m₁ f hf => ?_
    split
    · exact fail _
    · refine setFile fd ?_ rfl
      exact hf

/-! ### Opening -/

lemma openPresent (r : OpenRequest) {node : Nat} (h : node ∈ t.held) :
    Alike t m (Calling.openPresent r node) (Calling.openPresent r (t.map node)) Twins.Shares := by
  refine files_bind ?_
  split
  · exact fail _
  · obtain ⟨n, n', hn, hn', hc⟩ := t.files.embeds.node h
    simp only [hn, hn']
    cases hc with
    | directory hp es =>
      dsimp only
      split
      · exact fail _
      · exact pure ⟨rfl, fun i hi => by cases hi; exact h⟩
    | file bytes =>
      dsimp only
      split
      · exact fail _
      · have hopen : ∀ (t₁ : Twins) (m₁ : Memory), t.Leads t₁ →
            Alike t₁ m₁ (Pure.pure (r.openFile node)) (Pure.pure (r.openFile (t.map node)))
              Twins.Shares := fun t₁ m₁ ht =>
          pure ⟨by simp [OpenRequest.openFile, Descriptor.rename, ht.files.map_eq _ h],
            fun i hi => by cases hi; exact ht.files.held_subset h⟩
        split
        · exact (setFiles (Counterparts.leads_setBytes h [])).bind fun t₁ m₁ _ _ ht _ => hopen t₁ m₁ ht
        · exact hopen t m (.refl t)
    | link target => exact fail _

lemma createMissing (r : OpenRequest) {dir : Nat} {name : String} (hdir : dir ∈ t.held)
    (hname : ∀ i, (name, i) ∉ t.files.left.entries dir) :
    Alike t m (Calling.createMissing r dir name) (Calling.createMissing r (t.map dir) name)
      Twins.Shares := by
  unfold Calling.createMissing
  split
  · refine createEntry_bind hdir hname nofun fun t₁ m₁ i _ hi => pure ⟨rfl, fun j hj => ?_⟩
    cases hj
    exact hi
  · exact fail _

lemma openBelow (r : OpenRequest) {dir : Nat} (hdir : dir ∈ t.held) (path : String) :
    Alike t m (Calling.openBelow r dir path) (Calling.openBelow r (t.map dir) path)
      Twins.Shares := by
  unfold Calling.openBelow
  split
  · exact fail _
  · split
    · exact locate_bind hdir _ _ fun _ _ _ => fail _
    · refine locate_bind hdir _ _ fun m₁ p hp => ?_
      cases hp with
      | entry hd hs => exact openPresent r (t.files.embeds.isSealed.closed hd ⟨_, hs⟩)
      | missing hd hs => exact createMissing r hd hs
      | directory hd => exact openPresent r hd

lemma openPath (v : Version)
    (dirfd lookup start length oflags rights inheriting fdflags result : Nat) :
    Same t m
      (Calling.openPath v dirfd lookup start length oflags rights inheriting fdflags result)
      (Calling.openPath v dirfd lookup start length oflags rights inheriting fdflags result) := by
  unfold Calling.openPath
  dsimp only
  split
  · exact fail _
  · refine onMemory_bind (.readText ..) fun path m₁ => descriptor_bind dirfd fun m₂ d d' hd => ?_
    obtain ⟨rfl, hmem⟩ := hd
    cases d with
    | directory dir name =>
      dsimp only [Descriptor.rename]
      split
      · exact fail _
      · refine (openBelow _ (hmem dir rfl) path).bind fun t₁ m₃ d d' _ hd => (insert hd).bind ?_
        rintro t₂ m₄ fd _ - rfl
        exact writeWord ..
    | file f => exact fail _
    | input => exact fail _
    | output stream => exact fail _

lemma describeAlias (fd result : Nat) :
    Same t m (Calling.describeAlias fd result) (Calling.describeAlias fd result) := by
  refine descriptor_bind fd fun m₁ d d' hd => ?_
  obtain ⟨rfl, -⟩ := hd
  rcases d with _ | stream | ⟨node, _ | name⟩ | f
  · exact fail _
  · exact fail _
  · exact fail _
  · exact onMemory_bind (.writeBytes ..) fun _ _ => writeWord ..
  · exact fail _

lemma directoryAlias (fd start room : Nat) :
    Same t m (Calling.directoryAlias fd start room) (Calling.directoryAlias fd start room) := by
  refine descriptor_bind fd fun m₁ d d' hd => ?_
  obtain ⟨rfl, -⟩ := hd
  rcases d with _ | stream | ⟨node, _ | name⟩ | f
  · exact fail _
  · exact fail _
  · exact fail _
  · dsimp only [Descriptor.rename]
    split
    · exact fail _
    · exact onMemory (.writeBytes ..) fun _ => rfl
  · exact fail _

/-! ### Names -/

lemma createDirectory (dirfd start length : Nat) :
    Same t m (Calling.createDirectory dirfd start length)
      (Calling.createDirectory dirfd start length) := by
  refine directory_bind dirfd fun m₁ dir hdir => onMemory_bind (.readText ..) fun path m₂ =>
    locate_bind hdir _ _ fun m₃ p hp => ?_
  cases hp with
  | entry => exact fail _
  | directory => exact fail _
  | missing hd hs =>
    refine createEntry_bind hd hs ?_ fun _ _ _ _ _ => pure rfl
    rintro p es ⟨⟩
    exact ⟨rfl, rfl⟩

lemma symlink (targetStart targetLength dirfd start length : Nat) :
    Same t m (Calling.symlink targetStart targetLength dirfd start length)
      (Calling.symlink targetStart targetLength dirfd start length) := by
  refine directory_bind dirfd fun m₁ dir hdir => onMemory_bind (.readText ..) fun target m₂ =>
    onMemory_bind (.readText ..) fun path m₃ => ?_
  split
  · exact fail _
  · refine locate_bind hdir _ _ fun m₃ p hp => ?_
    split
    · exact fail _
    · split
      · exact fail _
      · cases hp with
        | entry => exact fail _
        | directory => exact fail _
        | missing hd hs => exact createEntry_bind hd hs nofun fun _ _ _ _ _ => pure rfl

/-- What a place is belongs to the part. -/
lemma mem_of_node? {p : Place} {i : Nat} (hp : p.Within t.files.left (· ∈ t.held))
    (hi : p.node? = some i) : i ∈ t.held := by
  cases hp with
  | entry hd hs =>
    cases hi
    exact t.files.embeds.isSealed.closed hd ⟨_, hs⟩
  | missing => cases hi
  | directory hd =>
    cases hi
    exact hd

lemma isDirectory_of_not_isNone {fs : FileSystem} {d : Nat} (h : ¬ (fs.parent? d).isNone = true) :
    fs.isDirectory d = true := by
  rw [Option.isNone_iff_eq_none, ← ne_eq, Option.ne_none_iff_exists'] at h
  obtain ⟨p, hp⟩ := h
  exact FileSystem.isDirectory_of_parent? hp

lemma link (dirfd lookup start length newDirfd newStart newLength : Nat) :
    Same t m (Calling.link dirfd lookup start length newDirfd newStart newLength)
      (Calling.link dirfd lookup start length newDirfd newStart newLength) := by
  unfold Calling.link
  split
  · exact fail _
  · refine directory_bind dirfd fun m₁ dir hdir => directory_bind newDirfd fun m₂ newDir hnewDir =>
      onMemory_bind (.readText ..) fun path m₃ => onMemory_bind (.readText ..) fun newPath m₄ => ?_
    split
    · exact fail _
    · refine locate_bind hdir _ _ fun m₅ p hp => locate_bind hnewDir _ _ fun m₆ q hq =>
        files_bind ?_
      rw [Place.node?_rename]
      cases hi : p.node? with
      | none => exact fail _
      | some i =>
        have hi := mem_of_node? hp hi
        cases hq with
        | entry => exact fail _
        | directory => exact fail _
        | missing hd hs =>
          dsimp only [Option.map_some, Place.rename]
          rw [t.files.embeds.isNone_parent?_eq hd, t.files.embeds.isDirectory_eq hi]
          split
          · exact fail _
          · rename_i hparent
            split
            · exact fail _
            · rename_i hleaf
              exact setFiles_same <| Counterparts.leads_attach
                ⟨hd, isDirectory_of_not_isNone hparent, hs, hi, fun hdir => absurd hdir hleaf⟩

lemma unlinkPath (dirfd start length : Nat) :
    Same t m (Calling.unlinkPath dirfd start length) (Calling.unlinkPath dirfd start length) := by
  refine directory_bind dirfd fun m₁ dir hdir => onMemory_bind (.readText ..) fun path m₂ =>
    locate_bind hdir _ _ fun m₃ p hp => ?_
  cases hp with
  | entry hd hs =>
    refine files_bind ?_
    rw [t.files.embeds.isDirectory_eq (t.files.embeds.isSealed.closed hd ⟨_, hs⟩)]
    split
    · exact fail _
    · exact setFiles_same (Counterparts.leads_detach hd hs)
  | missing => exact fail _
  | directory => exact fail _

lemma isEmpty_entries_eq {i : Nat} (hi : i ∈ t.held) :
    (t.files.right.entries (t.map i)).isEmpty = (t.files.left.entries i).isEmpty := by
  rw [t.files.embeds.entries_eq hi, List.isEmpty_map]

lemma removeDirectory (dirfd start length : Nat) :
    Same t m (Calling.removeDirectory dirfd start length)
      (Calling.removeDirectory dirfd start length) := by
  refine directory_bind dirfd fun m₁ dir hdir => onMemory_bind (.readText ..) fun path m₂ =>
    locate_bind hdir _ _ fun m₃ p hp => ?_
  cases hp with
  | entry hd hs =>
    have hi := t.files.embeds.isSealed.closed hd ⟨_, hs⟩
    refine files_bind ?_
    rw [t.files.embeds.isDirectory_eq hi, isEmpty_entries_eq hi]
    split
    · exact fail _
    · split
      · exact setFiles_same (Counterparts.leads_detach hd hs)
      · exact fail _
  | missing => exact fail _
  | directory => exact fail _

lemma isAbove_eq {d i : Nat} (hd : d ∈ t.held) (hi : i ∈ t.held) :
    t.files.right.isAbove (t.map i) t.files.right.nodes.size (t.map d) =
      t.files.left.isAbove i t.files.left.nodes.size d :=
  t.files.embeds.isAbove_eq t.files.left_wf t.files.right_wf hd hi

lemma checkMove_bind {k l : Unit → Calling β} {i newDir : Nat} (hi : i ∈ t.held) (hd : newDir ∈ t.held)
    (slash : Bool) (h : ∀ m₁, Alike t m₁ (k ()) (l ()) Q) :
    Alike t m (Calling.checkMove i newDir slash >>= k)
      (Calling.checkMove (t.map i) (t.map newDir) slash >>= l) Q := by
  refine bind_here (R := (· = ·)) (files_bind ?_) fun m₁ _ _ _ => h m₁
  rw [t.files.embeds.isDirectory_eq hi, isAbove_eq hd hi]
  split
  · split
    · exact fail _
    · exact pure ⟨rfl, rfl⟩
  · split
    · exact fail _
    · exact pure ⟨rfl, rfl⟩

/-- Something gets the name of something else. -/
lemma replace {d d' i j : Nat} {s s' : String} (hd : d ∈ t.held) (hs : (s, i) ∈ t.files.left.entries d)
    (hd' : d' ∈ t.held) (hs' : (s', j) ∈ t.files.left.entries d') :
    Same t m (Calling.replace d s i d' s' j)
      (Calling.replace (t.map d) s (t.map i) (t.map d') s' (t.map j)) := by
  have hi := t.files.embeds.isSealed.closed hd ⟨_, hs⟩
  have hj := t.files.embeds.isSealed.closed hd' ⟨_, hs'⟩
  have hdir' := FileSystem.isDirectory_of_mem hs'
  refine files_bind ?_
  rw [t.files.embeds.isDirectory_eq hi, t.files.embeds.isDirectory_eq hj, isAbove_eq hd hj,
    isEmpty_entries_eq hj]
  split
  · exact fail _
  · by_cases hij : i = j
    · rw [if_pos hij, if_pos (congrArg t.map hij)]
      exact pure rfl
    · rw [if_neg hij, if_neg fun he => hij (t.files.embeds.injOn hi hj he)]
      split
      · exact fail _
      · split
        · exact fail _
        · split
          · have hold : (s, i) ∈ (t.files.detach hd' hs').left.entries d := by
              refine (FileSystem.mem_entries_detach hdir').2 ⟨hs, ?_⟩
              rintro ⟨rfl, rfl⟩
              exact hij (t.files.left_wf.node_eq hs hs')
            have hfree : ∀ k, (s', k) ∉ (t.files.detach hd' hs').left.entries d' := fun k hk =>
              ((FileSystem.mem_entries_detach hdir').1 hk).2 ⟨rfl, rfl⟩
            have hmove := Counterparts.leads_move (c := t.files.detach hd' hs') hd hold hd'
              (FileSystem.isDirectory_detach.trans hdir') hfree
            have hset := setFiles_same (m := m) ((Counterparts.leads_detach hd' hs').trans hmove)
            exact hset
          · exact fail _

lemma rename (dirfd start length newDirfd newStart newLength : Nat) :
    Same t m (Calling.rename dirfd start length newDirfd newStart newLength)
      (Calling.rename dirfd start length newDirfd newStart newLength) := by
  refine directory_bind dirfd fun m₁ dir hdir => directory_bind newDirfd fun m₂ newDir hnewDir =>
    onMemory_bind (.readText ..) fun path m₃ => onMemory_bind (.readText ..) fun newPath m₄ =>
    locate_bind hdir _ _ fun m₅ p hp => locate_bind hnewDir _ _ fun m₆ q hq => ?_
  cases hp with
  | directory => exact fail _
  | missing hd hs => cases hq <;> exact fail _
  | entry hd hs =>
    have hi := t.files.embeds.isSealed.closed hd ⟨_, hs⟩
    cases hq with
    | directory => exact fail _
    | entry hd' hs' => exact checkMove_bind hi hd' _ fun m₇ => replace hd hs hd' hs'
    | missing hd' hs' =>
      refine checkMove_bind hi hd' _ fun m₇ => files_bind ?_
      rw [t.files.embeds.isNone_parent?_eq hd']
      split
      · exact fail _
      · rename_i hparent
        have hset := setFiles_same (m := m₇)
          (Counterparts.leads_move hd hs hd' (isDirectory_of_not_isNone hparent) hs')
        exact hset

lemma readDirectory (fd start room cookie result : Nat) :
    Same t m (Calling.readDirectory fd start room cookie result)
      (Calling.readDirectory fd start room cookie result) := by
  refine directory_bind fd fun m₁ dir hdir => files_bind ?_
  have hpieces : directoryPieces t.files.right (t.map dir) = directoryPieces t.files.left dir := by
    unfold directoryPieces
    rw [t.files.embeds.entries_eq hdir, entriesFrom_eq]
    exact fun e he => t.files.embeds.isSealed.closed hdir ⟨e.1, he⟩
  rw [hpieces]
  exact onMemory_bind (.writePieces ..) fun _ _ => writeWord ..

lemma readLink (dirfd start length target room result : Nat) :
    Same t m (Calling.readLink dirfd start length target room result)
      (Calling.readLink dirfd start length target room result) := by
  refine directory_bind dirfd fun m₁ dir hdir => onMemory_bind (.readText ..) fun path m₂ =>
    locate_bind hdir _ _ fun m₃ p hp => ?_
  cases hp with
  | missing => exact fail _
  | directory => exact fail _
  | entry hd hs =>
    refine files_bind ?_
    obtain ⟨n, n', hn, hn', hc⟩ := t.files.embeds.node (t.files.embeds.isSealed.closed hd ⟨_, hs⟩)
    rw [hn, hn']
    cases hc with
    | directory => exact fail _
    | file => exact fail _
    | link text =>
      dsimp only
      split
      · exact fail _
      · exact onMemory_bind (.writeBytes ..) fun _ _ => writeWord ..

/-! ### The status of files and descriptors -/

lemma descriptorStatus (v : Version) (fd result : Nat) :
    Same t m (Calling.descriptorStatus v fd result) (Calling.descriptorStatus v fd result) := by
  refine descriptor_bind fd fun m₁ d d' hd => ?_
  obtain ⟨rfl, -⟩ := hd
  rcases d with _ | stream | ⟨node, _ | name⟩ | f <;>
    exact onMemory (.writeDescriptorStatus ..) fun _ => rfl

lemma setRights (v : Version) (fd rights inheriting : Nat) :
    Same t m (Calling.setRights v fd rights inheriting) (Calling.setRights v fd rights inheriting) := by
  unfold Calling.setRights
  dsimp only
  split
  · exact fail _
  · exact node_bind fd fun _ _ _ => fail _

lemma writeNodeStatus (v : Version) {i : Nat} (hi : i ∈ t.held) (result : Nat) :
    Same t m (Calling.writeNodeStatus v i result) (Calling.writeNodeStatus v (t.map i) result) := by
  refine files_bind ?_
  obtain ⟨n, n', hn, hn', hc⟩ := t.files.embeds.node hi
  rw [hn, hn']
  cases hc <;> exact onMemory (.writeStatus ..) fun _ => rfl

lemma fileStatus (v : Version) (fd result : Nat) :
    Same t m (Calling.fileStatus v fd result) (Calling.fileStatus v fd result) := by
  refine descriptor_bind fd fun m₁ d d' hd => ?_
  obtain ⟨rfl, hmem⟩ := hd
  cases d with
  | input => exact onMemory (.writeStatus ..) fun _ => rfl
  | output stream => exact onMemory (.writeStatus ..) fun _ => rfl
  | directory i name => exact writeNodeStatus v (hmem _ rfl) result
  | file f => exact writeNodeStatus v (hmem _ rfl) result

lemma pathStatus (v : Version) (dirfd lookup start length result : Nat) :
    Same t m (Calling.pathStatus v dirfd lookup start length result)
      (Calling.pathStatus v dirfd lookup start length result) := by
  unfold Calling.pathStatus
  split
  · exact fail _
  · refine directory_bind dirfd fun m₁ dir hdir => onMemory_bind (.readText ..) fun path m₂ =>
      locate_bind hdir _ _ fun m₃ p hp => ?_
    cases hp with
    | entry hd hs => exact writeNodeStatus v (t.files.embeds.isSealed.closed hd ⟨_, hs⟩) result
    | missing => exact fail _
    | directory hd => exact writeNodeStatus v hd result

lemma setSize (fd size : Nat) : Same t m (Calling.setSize fd size) (Calling.setSize fd size) := by
  refine openFile_bind fd fun m₁ f hf => ?_
  dsimp only
  split
  · exact fail _
  · exact file_bind hf rfl fun m₂ contents => files_bind (setFiles_same (Counterparts.leads_setBytes hf _))

lemma setTimes (fd flags : Nat) : Same t m (Calling.setTimes fd flags) (Calling.setTimes fd flags) := by
  unfold Calling.setTimes
  split
  · exact node_bind fd fun _ _ _ => pure rfl
  · exact fail _

lemma setPathTimes (dirfd lookup start length flags : Nat) :
    Same t m (Calling.setPathTimes dirfd lookup start length flags)
      (Calling.setPathTimes dirfd lookup start length flags) := by
  unfold Calling.setPathTimes
  split
  · exact fail _
  · refine directory_bind dirfd fun m₁ dir hdir => onMemory_bind (.readText ..) fun path m₂ =>
      locate_bind hdir _ _ fun m₃ p hp => ?_
    cases hp with
    | missing => exact fail _
    | entry | directory => exact pure rfl

lemma advise (fd advice : Nat) : Same t m (Calling.advise fd advice) (Calling.advise fd advice) := by
  unfold Calling.advise
  split
  · exact fail _
  · exact openFile_bind fd fun _ _ _ => pure rfl

lemma allocate (fd : Nat) : Same t m (Calling.allocate fd) (Calling.allocate fd) :=
  openFile_bind fd fun _ _ _ => fail _

lemma synchronise (fd : Nat) : Same t m (Calling.synchronise fd) (Calling.synchronise fd) :=
  node_bind fd fun _ _ _ => pure rfl

lemma noSocket (fd : Nat) : Same t m (Calling.noSocket fd) (Calling.noSocket fd) :=
  descriptor_bind fd fun _ _ _ _ => fail _

/-! ### Clocks, chance and waiting -/

/-- A program looks at what surrounds it, and remembers it. -/
lemma look {c : Context} (hnodes : c.nodes ⊆ t.held) (hs : t.context.SameStreams c)
    (f : Surroundings → α) :
    Same t m (do Calling.setContext c; return f (← Calling.system).surroundings)
      (do Calling.setContext (c.rename t.map); return f (← Calling.system).surroundings) := by
  refine (setContext hnodes hs).bind fun t₁ m₁ _ _ ht _ => system_bind ?_
  rw [t₁.surroundings_eq]
  exact pure rfl

lemma now (clock : Clock) : Same t m (Calling.now clock) (Calling.now clock) :=
  context_bind <| look (c := { t.context with looks := t.context.looks + 1 }) t.nodes_subset
    ⟨rfl, rfl, .rfl⟩ fun s => s.clock clock t.context.looks

lemma clockTime (number result : Nat) :
    Same t m (Calling.clockTime number result) (Calling.clockTime number result) := by
  refine onMemory_bind (.clock number) fun clock m₁ => (now clock).bind ?_
  rintro t₁ m₂ n _ - rfl
  exact writeWord ..

lemma draw (length : Nat) : Same t m (Calling.draw length) (Calling.draw length) :=
  context_bind <| look (c := { t.context with drawn := t.context.drawn + length }) t.nodes_subset
    ⟨rfl, rfl, .rfl⟩ fun s => (List.range length).map fun k => s.chance (t.context.drawn + k)

lemma randomBytes (start length : Nat) :
    Same t m (Calling.randomBytes start length) (Calling.randomBytes start length) := by
  unfold Calling.randomBytes
  split
  · exact pure rfl
  · refine onMemory_bind (.checkRange ..) fun _ m₁ => (draw length).bind ?_
    rintro t₁ m₂ bytes _ - rfl
    exact onMemory (.writeBytes ..) fun _ => rfl

lemma timeLeft (number timeout : Nat) (absolute : Bool) :
    Same t m (Calling.timeLeft number timeout absolute) (Calling.timeLeft number timeout absolute) := by
  refine onMemory_bind (.timer number) fun clock m₁ => ?_
  split
  · refine (now clock).bind ?_
    rintro t₁ m₂ n _ - rfl
    exact pure rfl
  · exact pure rfl

lemma eventOf (name : Nat) (wish : Wish) :
    Same t m (Calling.eventOf name wish) (Calling.eventOf name wish) := by
  cases wish with
  | time clock timeout absolute =>
    refine (timeLeft clock timeout absolute).bind ?_
    rintro t₁ m₂ n _ - rfl
    exact pure rfl
  | readable fd =>
    refine descriptor_bind fd fun m₁ d d' hd => ?_
    obtain ⟨rfl, hmem⟩ := hd
    cases d with
    | input => exact pure rfl
    | file f => exact file_bind (hmem _ rfl) rfl fun m₂ contents => pure rfl
    | output | directory => exact fail _
  | writable fd =>
    refine descriptor_bind fd fun m₁ d d' hd => ?_
    obtain ⟨rfl, hmem⟩ := hd
    cases d with
    | output stream => exact pure rfl
    | file f => exact pure rfl
    | input | directory => exact fail _

lemma readEvents (v : Version) (start count : Nat) :
    Same t m (Calling.readEvents v start count) (Calling.readEvents v start count) := by
  induction count generalizing t m start with
  | zero => exact pure rfl
  | succ count ih =>
    refine onMemory_bind (.readWish ..) fun wish m₁ => (eventOf wish.1 wish.2).bind ?_
    rintro t₁ m₂ e _ - rfl
    refine (ih _).bind ?_
    rintro t₂ m₃ es _ - rfl
    exact pure rfl

lemma pollMany (v : Version) (wishes events count result : Nat) :
    Same t m (Calling.pollMany v wishes events count result)
      (Calling.pollMany v wishes events count result) := by
  refine (readEvents v wishes count).bind ?_
  rintro t₁ m₁ es _ - rfl
  exact onMemory_bind (.writeEvents ..) fun _ _ => writeWord ..

lemma poll (v : Version) (wishes events count result : Nat) :
    Same t m (Calling.poll v wishes events count result)
      (Calling.poll v wishes events count result) := by
  unfold Calling.poll
  split
  · exact fail _
  · split
    · refine onMemory_bind (.readWish ..) fun wish m₁ => ?_
      split
      · exact onMemory_bind (.writeEvents ..) fun _ _ => writeWord ..
      · exact pollMany ..
    · exact pollMany ..

end Alike

end Calling

namespace Function

open Calling (Alike Same)

variable {t : Twins} {m : Memory}

/-! ### Calls -/

/-- **Every function of the system interface does the same for twins.** -/
theorem perform_alike (v : Version) (f : Function) (arguments : List Nat) :
    Same t m (f.perform v arguments) (f.perform v arguments) := by
  unfold perform
  split
  · exact .context_bind (.onMemory (.writeTexts ..) fun _ => rfl)
  · exact .context_bind (.onMemory (.writeSizes ..) fun _ => rfl)
  · exact .context_bind (.onMemory (.writeTexts ..) fun _ => rfl)
  · exact .context_bind (.onMemory (.writeSizes ..) fun _ => rfl)
  · exact .onMemory (.clockResolution ..) fun _ => rfl
  · exact .clockTime ..
  · exact .advise ..
  · exact .allocate _
  · exact .close _
  · exact .synchronise _
  · exact .descriptorStatus ..
  · exact .setFlags ..
  · exact .setRights ..
  · exact .fileStatus ..
  · exact .setSize ..
  · exact .setTimes ..
  · exact .readAt ..
  · exact .describeAlias ..
  · exact .directoryAlias ..
  · exact .writeAt ..
  · exact .read ..
  · exact .readDirectory ..
  · exact .renumber ..
  · exact .seek ..
  · exact .synchronise _
  · exact .tell ..
  · exact .write ..
  · exact .createDirectory ..
  · exact .pathStatus ..
  · exact .setPathTimes ..
  · exact .link ..
  · exact .openPath ..
  · exact .readLink ..
  · exact .removeDirectory ..
  · exact .rename ..
  · exact .symlink ..
  · exact .unlinkPath ..
  · exact .poll ..
  · exact .of_local (.exit _) fun _ => rfl
  · exact .onMemory (.raise _) fun _ => rfl
  · exact .randomBytes ..
  · exact .pure rfl
  · split
    · exact .fail _
    · exact .noSocket _
  · split
    · exact .fail _
    · exact .noSocket _
  · exact .noSocket _
  · split
    · exact .fail _
    · exact .noSocket _
  · exact .fail _

/-- So a call has the same results for both, and leaves the same memory. -/
theorem call_twins (t : Twins) (m : Memory) (v : Version) (f : Function) (arguments : List Cell) :
    ∃ t₁ m₁ r, t.Leads t₁ ∧ f.call v arguments (t.caller m) = (r, t₁.caller m₁) ∧
      f.call v arguments (t.twin m) = (r, t₁.twin m₁) := by
  cases perform_alike (t := t) (m := m) v f (arguments.map number) with
  | @ok t₁ m₁ a b h hx hy hq =>
    simp only [Calling.ends] at hx hy
    exact ⟨t₁, m₁, .ok [.i32 0], h, by simp [call, hx], by simp [call, hy]⟩
  | @error t₁ m₁ e h hx hy =>
    simp only [Calling.ends] at hx hy
    cases e with
    | errno e => exact ⟨t₁, m₁, .ok [.i32 (.ofNat e.code)], h, by simp [call, hx], by simp [call, hy]⟩
    | trap message => exact ⟨t₁, m₁, .error (.engine message), h, by simp [call, hx], by simp [call, hy]⟩
    | exit code => exact ⟨t₁, m₁, .error (.exited code), h, by simp [call, hx], by simp [call, hy]⟩

end Function

end Embedder.Wasi
