import Embedder.Proofs.Wasi.Calling

/-!
# Computations that leave the context alone

Most functions of the system interface are put together from steps that read the state of a call, fail, or
change the memory or the system. What they have in common is had from what these steps have in common.

* `Calling.SetsNoContext`: the computations that are put together from such steps;
* `Calling.SetsNoContext.openBelow`, `Calling.SetsNoContext.rename` and the others: the functions that are.
-/

namespace Embedder.Wasi.Calling

variable {α β : Type}

/-- The computation is put together from steps that read, fail, trap or change the memory or the
system. None of them sets the context, and none of them ends as an exit does. -/
inductive SetsNoContext : {α : Type} → Calling α → Prop
  | pure {α : Type} (a : α) : SetsNoContext (Pure.pure a)
  | fail {α : Type} (e : Errno) : SetsNoContext (Calling.fail e : Calling α)
  | get : SetsNoContext (MonadState.get : Calling CallState)
  | bind {α β : Type} {x : Calling α} {f : α → Calling β} (hx : SetsNoContext x)
      (hf : ∀ a, SetsNoContext (f a)) : SetsNoContext (x >>= f)
  | onMemory {α : Type} {x : Calling α} (h : x.OnMemory) : SetsNoContext x
  | setFiles (fs : FileSystem) : SetsNoContext (Calling.setFiles fs)
  | modifyGet {α : Type} {f : CallState → α × CallState} (hm : ∀ s, (f s).2.memory = s.memory)
      (hc : ∀ s, (f s).2.context = s.context) : SetsNoContext (MonadState.modifyGet f)

namespace SetsNoContext

/-! ### Parts of the state -/

lemma lift (r : Except FileError α) : SetsNoContext (Calling.lift r) := by
  cases r with
  | ok a => exact .pure a
  | error e => exact .fail _

lemma context : SetsNoContext Calling.context := .bind .get fun _ => .pure _

lemma system : SetsNoContext Calling.system := .bind .get fun _ => .pure _

lemma files : SetsNoContext Calling.files := .bind .system fun _ => .pure _

lemma descriptor (fd : Nat) : SetsNoContext (Calling.descriptor fd) := by
  refine .bind .context fun c => ?_
  cases c.descriptor? fd with
  | some d => exact .pure d
  | none => exact .fail _

lemma directory (fd : Nat) : SetsNoContext (Calling.directory fd) := by
  refine .bind (.descriptor fd) fun d => ?_
  cases d with
  | directory dir name => exact .pure dir
  | _ => exact .fail _

lemma openFile (fd : Nat) : SetsNoContext (Calling.openFile fd) := by
  refine .bind (.descriptor fd) fun d => ?_
  cases d with
  | file f => exact .pure f
  | _ => exact .fail _

lemma node (fd : Nat) : SetsNoContext (Calling.node fd) := by
  refine .bind (.descriptor fd) fun d => ?_
  cases d with
  | file f => exact .pure f.node
  | directory dir name => exact .pure dir
  | _ => exact .fail _

lemma file (f : OpenFile) : SetsNoContext (Calling.file f) := .bind .files fun _ => .pure _

lemma readText (start length : Nat) : SetsNoContext (Calling.readText start length) :=
  .onMemory (.readText ..)

lemma writeWord (size start n : Nat) : SetsNoContext (Calling.writeWord size start n) :=
  .onMemory (.writeWord ..)

/-! ### Streams and files -/

lemma writeChunks (stream : OutputStream) (start length : Nat) :
    SetsNoContext (Calling.writeChunks stream start length) := by
  induction length using Nat.strongRecOn generalizing start with
  | ind length ih =>
    unfold Calling.writeChunks
    split
    · exact .pure _
    · have hless : length - min length chunkSize < length := by
        simp only [chunkSize]
        omega
      refine .bind (.onMemory (.readBytes ..)) fun bytes =>
        .bind (.modifyGet (fun _ => rfl) fun _ => rfl) fun taken => ?_
      split
      · exact ih _ hless _
      · exact .fail _

lemma seekable (fd : Nat) : SetsNoContext (Calling.seekable fd) := by
  refine .bind (.descriptor fd) fun d => ?_
  cases d with
  | file f => exact .pure f
  | _ => exact .fail _

lemma tell (fd result : Nat) : SetsNoContext (Calling.tell fd result) :=
  .bind (.seekable fd) fun _ => .writeWord ..

lemma readAt (fd list count position result : Nat) :
    SetsNoContext (Calling.readAt fd list count position result) := by
  refine .bind (.descriptor fd) fun d => ?_
  cases d with
  | file f =>
    refine .bind (.onMemory (.firstBuffer ..)) fun b => ?_
    cases b with
    | none => exact .writeWord ..
    | some b =>
      simp only
      split
      · exact .fail _
      · split
        · exact .fail _
        · exact .bind (.file f) fun _ => .bind (.onMemory (.writeBytes ..)) fun _ => .writeWord ..
  | _ => exact .fail _

lemma writeAt (fd list count position result : Nat) :
    SetsNoContext (Calling.writeAt fd list count position result) := by
  refine .bind (.descriptor fd) fun d => ?_
  cases d with
  | file f =>
    refine .bind (.onMemory (.firstBuffer ..)) fun b => ?_
    cases b with
    | none => exact .writeWord ..
    | some b =>
      refine .bind (.onMemory (.readBytes ..)) fun bytes => ?_
      split
      · exact .fail _
      · split
        · exact .fail _
        · exact .bind (.file f) fun _ => .bind .files fun _ => .bind (.setFiles _) fun _ => .writeWord ..
  | _ => exact .fail _

/-! ### Paths -/

lemma locate (dir : Nat) (follow : Bool) (path : String) :
    SetsNoContext (Calling.locate dir follow path) := .bind .files fun _ => .lift _

lemma createEntry (dir : Nat) (name : String) (n : Node) :
    SetsNoContext (Calling.createEntry dir name n) := by
  refine .bind .files fun fs => ?_
  split
  · exact .bind (.setFiles _) fun _ => .pure _
  · exact .fail _

lemma openPresent (r : OpenRequest) (node : Nat) : SetsNoContext (Calling.openPresent r node) := by
  refine .bind .files fun fs => ?_
  split
  · exact .fail _
  · split
    · split
      · exact .fail _
      · exact .pure _
    · split
      · exact .fail _
      · split
        · exact .bind (.setFiles _) fun _ => .pure _
        · exact .pure _
    · exact .fail _
    · exact .fail _

lemma createMissing (r : OpenRequest) (dir : Nat) (name : String) :
    SetsNoContext (Calling.createMissing r dir name) := by
  unfold Calling.createMissing
  split
  · exact .bind (.createEntry ..) fun _ => .pure _
  · exact .fail _

lemma openBelow (r : OpenRequest) (dir : Nat) (path : String) :
    SetsNoContext (Calling.openBelow r dir path) := by
  unfold Calling.openBelow
  split
  · exact .fail _
  · split
    · exact .bind (.locate ..) fun _ => .fail _
    · refine .bind (.locate ..) fun place => ?_
      cases place with
      | entry parent name node => exact .openPresent r node
      | directory node => exact .openPresent r node
      | missing dir name => exact .createMissing r dir name

lemma describeAlias (fd result : Nat) : SetsNoContext (Calling.describeAlias fd result) := by
  refine .bind (.descriptor fd) fun d => ?_
  split
  · exact .bind (.onMemory (.writeBytes ..)) fun _ => .writeWord ..
  · exact .fail _

lemma directoryAlias (fd start room : Nat) :
    SetsNoContext (Calling.directoryAlias fd start room) := by
  refine .bind (.descriptor fd) fun d => ?_
  split
  · split
    · exact .fail _
    · exact .onMemory (.writeBytes ..)
  · exact .fail _

/-! ### Names -/

lemma createDirectory (dirfd start length : Nat) :
    SetsNoContext (Calling.createDirectory dirfd start length) := by
  refine .bind (.directory dirfd) fun dir => .bind (.readText ..) fun path =>
    .bind (.locate ..) fun place => ?_
  cases place with
  | missing parent name => exact .bind (.createEntry ..) fun _ => .pure _
  | _ => exact .fail _

lemma symlink (targetStart targetLength dirfd start length : Nat) :
    SetsNoContext (Calling.symlink targetStart targetLength dirfd start length) := by
  refine .bind (.directory dirfd) fun dir => .bind (.readText ..) fun target =>
    .bind (.readText ..) fun path => ?_
  split
  · exact .fail _
  · refine .bind (.locate ..) fun place => ?_
    split
    · exact .fail _
    · split
      · exact .fail _
      · cases place with
        | missing parent name => exact .bind (.createEntry ..) fun _ => .pure _
        | _ => exact .fail _

lemma link (dirfd lookup start length newDirfd newStart newLength : Nat) :
    SetsNoContext (Calling.link dirfd lookup start length newDirfd newStart newLength) := by
  unfold Calling.link
  split
  · exact .fail _
  · refine .bind (.directory dirfd) fun dir => .bind (.directory newDirfd) fun newDir =>
      .bind (.readText ..) fun path => .bind (.readText ..) fun newPath => ?_
    split
    · exact .fail _
    · refine .bind (.locate ..) fun place => .bind (.locate ..) fun newPlace =>
        .bind .files fun fs => ?_
      split
      · exact .fail _
      · exact .fail _
      · exact .fail _
      · split
        · exact .fail _
        · split
          · exact .fail _
          · exact .setFiles _

lemma unlinkPath (dirfd start length : Nat) :
    SetsNoContext (Calling.unlinkPath dirfd start length) := by
  refine .bind (.directory dirfd) fun dir => .bind (.readText ..) fun path =>
    .bind (.locate ..) fun place => ?_
  cases place with
  | entry parent name i =>
    refine .bind .files fun fs => ?_
    split
    · exact .fail _
    · exact .setFiles _
  | _ => exact .fail _

lemma removeDirectory (dirfd start length : Nat) :
    SetsNoContext (Calling.removeDirectory dirfd start length) := by
  refine .bind (.directory dirfd) fun dir => .bind (.readText ..) fun path =>
    .bind (.locate ..) fun place => ?_
  cases place with
  | entry parent name i =>
    refine .bind .files fun fs => ?_
    split
    · exact .fail _
    · split
      · exact .setFiles _
      · exact .fail _
  | _ => exact .fail _

lemma replace (dir : Nat) (name : String) (i newDir : Nat) (newName : String) (j : Nat) :
    SetsNoContext (Calling.replace dir name i newDir newName j) := by
  refine .bind .files fun fs => ?_
  split
  · exact .fail _
  · split
    · exact .pure _
    · split
      · exact .fail _
      · split
        · exact .fail _
        · split
          · exact .setFiles _
          · exact .fail _

lemma checkMove (i newDir : Nat) (slash : Bool) : SetsNoContext (Calling.checkMove i newDir slash) := by
  refine .bind .files fun fs => ?_
  split
  · split
    · exact .fail _
    · exact .pure _
  · split
    · exact .fail _
    · exact .pure _

lemma rename (dirfd start length newDirfd newStart newLength : Nat) :
    SetsNoContext (Calling.rename dirfd start length newDirfd newStart newLength) := by
  refine .bind (.directory dirfd) fun dir => .bind (.directory newDirfd) fun newDir =>
    .bind (.readText ..) fun path => .bind (.readText ..) fun newPath =>
    .bind (.locate ..) fun place => .bind (.locate ..) fun newPlace => ?_
  split
  · exact .fail _
  · exact .fail _
  · exact .fail _
  · refine .bind (.checkMove ..) fun _ => .bind .files fun fs => ?_
    split
    · exact .fail _
    · exact .setFiles _
  · exact .bind (.checkMove ..) fun _ => .replace ..

lemma readDirectory (fd start room cookie result : Nat) :
    SetsNoContext (Calling.readDirectory fd start room cookie result) :=
  .bind (.directory fd) fun _ => .bind .files fun _ => .bind (.onMemory (.writePieces ..)) fun _ =>
    .writeWord ..

lemma readLink (dirfd start length target room result : Nat) :
    SetsNoContext (Calling.readLink dirfd start length target room result) := by
  refine .bind (.directory dirfd) fun dir => .bind (.readText ..) fun path =>
    .bind (.locate ..) fun place => ?_
  cases place with
  | entry parent name i =>
    refine .bind .files fun fs => ?_
    split
    · split
      · exact .fail _
      · exact .bind (.onMemory (.writeBytes ..)) fun _ => .writeWord ..
    · exact .fail _
  | _ => exact .fail _

/-! ### The status of files and descriptors -/

lemma descriptorStatus (v : Version) (fd result : Nat) :
    SetsNoContext (Calling.descriptorStatus v fd result) := by
  refine .bind (.descriptor fd) fun d => ?_
  rcases d with _ | _ | ⟨_, _ | _⟩ | _ <;> exact .onMemory (.writeDescriptorStatus ..)

lemma setRights (v : Version) (fd rights inheriting : Nat) :
    SetsNoContext (Calling.setRights v fd rights inheriting) := by
  unfold Calling.setRights
  simp only
  split
  · exact .fail _
  · exact .bind (.node fd) fun _ => .fail _

lemma writeNodeStatus (v : Version) (i result : Nat) :
    SetsNoContext (Calling.writeNodeStatus v i result) := by
  refine .bind .files fun fs => ?_
  split
  · exact .onMemory (.writeStatus ..)
  · exact .fail _

lemma fileStatus (v : Version) (fd result : Nat) :
    SetsNoContext (Calling.fileStatus v fd result) := by
  refine .bind (.descriptor fd) fun d => ?_
  cases d with
  | directory i name => exact .writeNodeStatus ..
  | file f => exact .writeNodeStatus ..
  | _ => exact .onMemory (.writeStatus ..)

lemma pathStatus (v : Version) (dirfd lookup start length result : Nat) :
    SetsNoContext (Calling.pathStatus v dirfd lookup start length result) := by
  unfold Calling.pathStatus
  split
  · exact .fail _
  · refine .bind (.directory dirfd) fun dir => .bind (.readText ..) fun path =>
      .bind (.locate ..) fun place => ?_
    split
    · exact .writeNodeStatus ..
    · exact .fail _

lemma setSize (fd size : Nat) : SetsNoContext (Calling.setSize fd size) := by
  refine .bind (.openFile fd) fun f => ?_
  split
  · exact .fail _
  · exact .bind (.file f) fun _ => .bind .files fun _ => .setFiles _

lemma setTimes (fd flags : Nat) : SetsNoContext (Calling.setTimes fd flags) := by
  unfold Calling.setTimes
  split
  · exact .bind (.node fd) fun _ => .pure _
  · exact .fail _

lemma setPathTimes (dirfd lookup start length flags : Nat) :
    SetsNoContext (Calling.setPathTimes dirfd lookup start length flags) := by
  unfold Calling.setPathTimes
  split
  · exact .fail _
  · refine .bind (.directory dirfd) fun dir => .bind (.readText ..) fun path =>
      .bind (.locate ..) fun place => ?_
    split
    · exact .pure _
    · exact .fail _

lemma advise (fd advice : Nat) : SetsNoContext (Calling.advise fd advice) := by
  unfold Calling.advise
  split
  · exact .fail _
  · exact .bind (.openFile fd) fun _ => .pure _

lemma allocate (fd : Nat) : SetsNoContext (Calling.allocate fd) :=
  .bind (.openFile fd) fun _ => .fail _

lemma synchronise (fd : Nat) : SetsNoContext (Calling.synchronise fd) :=
  .bind (.node fd) fun _ => .pure _

lemma noSocket (fd : Nat) : SetsNoContext (Calling.noSocket fd) :=
  .bind (.descriptor fd) fun _ => .fail _

end SetsNoContext

end Embedder.Wasi.Calling
