import Embedder.Proofs.Wasi.Steps

/-!
# Plain computations on a caller

All functions of the system interface but the one that exits are put together from the same few
steps. What each step has in common, all these functions have in common.

* `Calling.Plain`: the computations that are put together from these steps, also from those that set the
  context;
* `Function.perform_plain`: every function but the one that exits is one of them;
* `Calling.Plain.ends_ne_exit`, `Function.call_eq_exited`: only that function exits, and with which
  statuses.
-/

namespace Embedder.Wasi

namespace Calling

variable {α β : Type}

/-- The computation is put together from steps that read, fail, trap or change one part of the state.
None of them ends as an exit does. -/
inductive Plain : {α : Type} → Calling α → Prop
  | pure {α : Type} (a : α) : Plain (Pure.pure a)
  | fail {α : Type} (e : Errno) : Plain (Calling.fail e : Calling α)
  | trap {α : Type} (message : String) : Plain (Calling.trap message : Calling α)
  | get : Plain (MonadState.get : Calling CallState)
  | bind {α β : Type} {x : Calling α} {f : α → Calling β} (hx : Plain x) (hf : ∀ a, Plain (f a)) :
      Plain (x >>= f)
  | setContext (c : Context) : Plain (Calling.setContext c)
  | setFiles (fs : FileSystem) : Plain (Calling.setFiles fs)
  | storeBytes (start : Nat) (bytes : List UInt8) :
      Plain (modify fun s : CallState => { s with memory := s.memory.write start bytes })
  | modifyGet {α : Type} {f : CallState → α × CallState} (hm : ∀ s, (f s).2.memory = s.memory) :
      Plain (MonadState.modifyGet f)

namespace Plain

/-- What works on the memory only is plain. -/
lemma onMemory {x : Calling α} (h : x.OnMemory) : Plain x := by
  induction h with
  | pure a => exact .pure a
  | fail e => exact .fail e
  | trap message => exact .trap message
  | bind _ _ ihx ihf => exact .bind ihx ihf
  | get _ _ ih => exact .bind .get ih
  | storeBytes start bytes => exact .storeBytes ..

/-- So is what only sets no context. -/
lemma of_steps {x : Calling α} (h : x.SetsNoContext) : Plain x := by
  induction h with
  | pure a => exact .pure a
  | fail e => exact .fail e
  | get => exact .get
  | bind _ _ ihx ihf => exact .bind ihx ihf
  | onMemory h => exact .onMemory h
  | setFiles fs => exact .setFiles fs
  | modifyGet hm _ => exact .modifyGet hm

lemma descriptor_bind {fd : Nat} {k : Descriptor → Calling β} (hk : ∀ d, Plain (k d)) :
    Plain (Calling.descriptor fd >>= k) := .bind (.of_steps (.descriptor fd)) hk

lemma writeWord (size start n : Nat) : Plain (Calling.writeWord size start n) :=
  .onMemory (.writeWord ..)

lemma setDescriptor (fd : Nat) (d : Option Descriptor) :
    Plain (Calling.setDescriptor fd d) := .bind (.of_steps .context) fun _ => .setContext _

/-! ### Streams and files -/

lemma writeFile (fd : Nat) (f : OpenFile) (bytes : List UInt8) :
    Plain (Calling.writeFile fd f bytes) := by
  unfold Calling.writeFile
  split
  · exact .bind (.of_steps (.file f)) fun _ => .bind (.of_steps .files) fun _ =>
      .bind (.setFiles _) fun _ => .setDescriptor ..
  · exact .fail _

lemma write (fd list count result : Nat) : Plain (Calling.write fd list count result) := by
  refine .descriptor_bind fun d => ?_
  cases d with
  | output stream =>
    refine .bind (.onMemory (.firstBuffer ..)) fun b => ?_
    cases b with
    | none => exact .writeWord ..
    | some b => exact .bind (.of_steps (.writeChunks ..)) fun _ => .writeWord ..
  | file f =>
    refine .bind (.onMemory (.firstBuffer ..)) fun b => ?_
    cases b with
    | none => exact .writeWord ..
    | some b =>
      exact .bind (.onMemory (.readBytes ..)) fun _ => .bind (.writeFile ..) fun _ => .writeWord ..
  | input => exact .fail _
  | directory node name => exact .fail _

lemma takeInput (room : Nat) : Plain (Calling.takeInput room) := by
  refine .modifyGet fun s => ?_
  cases s.context.input <;> rfl

lemma readInput (room : Nat) : Plain (Calling.readInput room) := by
  refine .bind .get fun s => ?_
  split
  · exact .pure _
  · split
    · exact .fail _
    · exact .takeInput _

lemma readFile (fd : Nat) (f : OpenFile) (start length : Nat) :
    Plain (Calling.readFile fd f start length) := by
  refine .bind (.onMemory (.readBytes ..)) fun _ => ?_
  split
  · exact .bind (.of_steps (.file f)) fun _ => .bind (.onMemory (.writeBytes ..)) fun _ =>
      .bind (.setDescriptor ..) fun _ => .pure _
  · exact .fail _

lemma read (fd list count result : Nat) : Plain (Calling.read fd list count result) := by
  refine .descriptor_bind fun d => ?_
  cases d with
  | input =>
    exact .bind (.onMemory (.firstBuffer ..)) fun _ => .bind (.readInput _) fun _ =>
      .bind (.onMemory (.writeBytes ..)) fun _ => .writeWord ..
  | file f =>
    refine .bind (.onMemory (.firstBuffer ..)) fun b => ?_
    cases b with
    | none => exact .writeWord ..
    | some b => exact .bind (.readFile ..) fun _ => .writeWord ..
  | output stream => exact .fail _
  | directory node name => exact .fail _

lemma moveTo (fd result : Nat) (f : OpenFile) (place : Option Nat) : Plain
    (match place with
      | none => Calling.fail .invalid
      | some position => do
        Calling.setDescriptor fd (some (.file { f with position }))
        Calling.writeWord 8 result position) := by
  cases place with
  | none => exact .fail _
  | some position => exact .bind (.setDescriptor ..) fun _ => .writeWord ..

lemma seek (v : Version) (fd offset whence result : Nat) :
    Plain (Calling.seek v fd offset whence result) := by
  unfold Calling.seek
  split
  · exact .fail _
  · rename_i origin _
    refine .bind (.of_steps (.seekable fd)) fun f => ?_
    cases origin with
    | start => exact moveTo fd result f _
    | current => exact moveTo fd result f _
    | «end» => exact .bind (.of_steps (.file f)) fun _ => moveTo fd result f _

/-! ### Descriptors -/

lemma close (fd : Nat) : Plain (Calling.close fd) := .descriptor_bind fun _ => .setDescriptor ..

lemma renumber (fd newFd : Nat) : Plain (Calling.renumber fd newFd) := by
  refine .descriptor_bind fun d => ?_
  split
  · exact .pure _
  · exact .bind (.of_steps .context) fun _ => .setContext _

lemma setFlags (fd flags : Nat) : Plain (Calling.setFlags fd flags) := by
  unfold Calling.setFlags
  simp only
  split
  · exact .fail _
  · refine .bind (.of_steps (.openFile fd)) fun f => ?_
    split
    · exact .fail _
    · exact .setDescriptor ..

lemma insert (d : Descriptor) : Plain (Calling.insert d) := by
  refine .bind (.of_steps .context) fun c => ?_
  split
  · exact .bind (.setContext _) fun _ => .pure _
  · exact .fail _

lemma openPath (v : Version)
    (dirfd lookup start length oflags rights inheriting fdflags result : Nat) :
    Plain
      (Calling.openPath v dirfd lookup start length oflags rights inheriting fdflags result) := by
  unfold Calling.openPath
  simp only
  split
  · exact .fail _
  · refine .bind (.onMemory (.readText ..)) fun path => .descriptor_bind fun d => ?_
    cases d with
    | directory dir name =>
      simp only
      split
      · exact .fail _
      · exact .bind (.of_steps (.openBelow ..)) fun _ => .bind (.insert _) fun _ => .writeWord ..
    | file f => exact .fail _
    | input => exact .fail _
    | output stream => exact .fail _

/-! ### Clocks and chance -/

lemma now (clock : Clock) : Plain (Calling.now clock) :=
  .bind (.of_steps .context) fun _ => .bind (.setContext _) fun _ => .bind (.of_steps .system) fun _ =>
    .pure _

lemma clockTime (number result : Nat) : Plain (Calling.clockTime number result) :=
  .bind (.onMemory (.clock number)) fun _ => .bind (.now _) fun _ => .writeWord ..

lemma draw (length : Nat) : Plain (Calling.draw length) :=
  .bind (.of_steps .context) fun _ => .bind (.setContext _) fun _ => .bind (.of_steps .system) fun _ =>
    .pure _

lemma randomBytes (start length : Nat) : Plain (Calling.randomBytes start length) := by
  unfold Calling.randomBytes
  split
  · exact .pure _
  · exact .bind (.onMemory (.checkRange ..)) fun _ => .bind (.draw _) fun _ =>
      .onMemory (.writeBytes ..)

lemma timeLeft (number timeout : Nat) (absolute : Bool) :
    Plain (Calling.timeLeft number timeout absolute) := by
  refine .bind (.onMemory (.timer number)) fun clock => ?_
  split
  · exact .bind (.now clock) fun _ => .pure _
  · exact .pure _

lemma eventOf (name : Nat) (wish : Wish) : Plain (Calling.eventOf name wish) := by
  cases wish with
  | time clock timeout absolute => exact .bind (.timeLeft ..) fun _ => .pure _
  | readable fd =>
    refine .descriptor_bind fun d => ?_
    cases d with
    | input => exact .pure _
    | file f => exact .bind (.of_steps (.file f)) fun _ => .pure _
    | _ => exact .fail _
  | writable fd =>
    refine .descriptor_bind fun d => ?_
    cases d with
    | output stream => exact .pure _
    | file f => exact .pure _
    | _ => exact .fail _

lemma readEvents (v : Version) (start count : Nat) : Plain (Calling.readEvents v start count) := by
  induction count generalizing start with
  | zero => exact .pure _
  | succ count ih =>
    exact .bind (.onMemory (.readWish ..)) fun _ => .bind (.eventOf ..) fun _ =>
      .bind (ih _) fun _ => .pure _

lemma pollMany (v : Version) (wishes events count result : Nat) :
    Plain (Calling.pollMany v wishes events count result) :=
  .bind (.readEvents ..) fun _ => .bind (.onMemory (.writeEvents ..)) fun _ => .writeWord ..

lemma poll (v : Version) (wishes events count result : Nat) :
    Plain (Calling.poll v wishes events count result) := by
  unfold Calling.poll
  split
  · exact .fail _
  · split
    · refine .bind (.onMemory (.readWish ..)) fun wish => ?_
      split
      · exact .bind (.onMemory (.writeEvents ..)) fun _ => .writeWord ..
      · exact .pollMany ..
    · exact .pollMany ..

end Plain

/-! ### Exits -/

/-- A plain computation does not exit. -/
theorem Plain.ends_ne_exit {x : Calling α} (h : x.Plain) (s : CallState) (code : Nat) :
    (x.ends s).1 ≠ .error (.exit code) := by
  induction h generalizing s with
  | bind hx hf ihx ihf =>
    have hs := ihx s
    rw [ends_bind]
    split
    · rename_i a s' _
      exact ihf a s'
    · rename_i e s' he
      rw [he] at hs
      simpa using hs
  | _ => simp [Calling.fail, Calling.trap, Calling.setContext, Calling.setFiles]

end Calling

namespace Function

/-! ### Functions -/

/-- Every function but the one that exits is plain. -/
theorem perform_plain {f : Function} (hf : f ≠ .procExit) (v : Version) (arguments : List Nat) :
    (f.perform v arguments).Plain := by
  unfold perform
  split
  · exact .bind (.of_steps .context) fun _ => .onMemory (.writeTexts ..)
  · exact .bind (.of_steps .context) fun _ => .onMemory (.writeSizes ..)
  · exact .bind (.of_steps .context) fun _ => .onMemory (.writeTexts ..)
  · exact .bind (.of_steps .context) fun _ => .onMemory (.writeSizes ..)
  · exact .onMemory (.clockResolution ..)
  · exact .clockTime ..
  · exact .of_steps (.advise ..)
  · exact .of_steps (.allocate ..)
  · exact .close _
  · exact .of_steps (.synchronise ..)
  · exact .of_steps (.descriptorStatus ..)
  · exact .setFlags ..
  · exact .of_steps (.setRights ..)
  · exact .of_steps (.fileStatus ..)
  · exact .of_steps (.setSize ..)
  · exact .of_steps (.setTimes ..)
  · exact .of_steps (.readAt ..)
  · exact .of_steps (.describeAlias ..)
  · exact .of_steps (.directoryAlias ..)
  · exact .of_steps (.writeAt ..)
  · exact .read ..
  · exact .of_steps (.readDirectory ..)
  · exact .renumber ..
  · exact .seek ..
  · exact .of_steps (.synchronise ..)
  · exact .of_steps (.tell ..)
  · exact .write ..
  · exact .of_steps (.createDirectory ..)
  · exact .of_steps (.pathStatus ..)
  · exact .of_steps (.setPathTimes ..)
  · exact .of_steps (.link ..)
  · exact .openPath ..
  · exact .of_steps (.readLink ..)
  · exact .of_steps (.removeDirectory ..)
  · exact .of_steps (.rename ..)
  · exact .of_steps (.symlink ..)
  · exact .of_steps (.unlinkPath ..)
  · exact .poll ..
  · exact absurd rfl hf
  · exact .onMemory (.raise _)
  · exact .randomBytes ..
  · exact .pure _
  · split
    · exact .fail _
    · exact .of_steps (.noSocket _)
  · split
    · exact .fail _
    · exact .of_steps (.noSocket _)
  · exact .of_steps (.noSocket _)
  · split
    · exact .fail _
    · exact .of_steps (.noSocket _)
  · exact .fail _

/-- What the caller gets of the way a computation ends. -/
def answer : Except Ending Unit → Except Execution.Stop (List Cell)
  | .ok () => .ok [.i32 0]
  | .error (.errno e) => .ok [.i32 (.ofNat e.code)]
  | .error (.trap message) => .error (.engine message)
  | .error (.exit code) => .error (.exited code)

lemma call_eq (v : Version) (f : Function) (cells : List Cell) (s : CallState) :
    f.call v cells s =
      (answer ((f.perform v (cells.map number)).ends s).1,
        ((f.perform v (cells.map number)).ends s).2) := by
  unfold call Calling.ends
  obtain ⟨r, s'⟩ := (f.perform v (cells.map number)).run.run s
  rcases r with (_ | _ | _) | _ <;> rfl

lemma call_of_ends {v : Version} {f : Function} {cells : List Cell} {s s' : CallState}
    {r : Except Ending Unit} (h : (f.perform v (cells.map number)).ends s = (r, s')) :
    f.call v cells s = (answer r, s') := by
  rw [call_eq, h]

lemma answer_eq_exited_iff {r : Except Ending Unit} {code : Nat} :
    answer r = .error (.exited code) ↔ r = .error (.exit code) := by
  rcases r with (_ | _ | _) | _ <;> simp [answer]

/-- What a program reads that exits with a status which it must not. -/
def statusMessage : String := "exit with invalid exit status outside of [0..126)"

/-- The function that exits does so with the statuses below 126, and fails with the others. -/
theorem call_exit (v : Version) (x : Cell) (s : CallState) :
    procExit.call v [x] s =
      (.error (if number x < Calling.statusLimit then .exited (number x) else .engine statusMessage),
        s) := by
  have hends : (procExit.perform v [number x]).ends s = (Calling.exit (number x)).ends s := rfl
  rw [call_eq, List.map_cons, List.map_nil, hends, Calling.exit]
  split
  · rfl
  · rfl

/-- **Only one function exits**, and only with a status below 126. -/
theorem call_eq_exited {v : Version} {f : Function} {cells : List Cell} {s : CallState} {code : Nat}
    (h : (f.call v cells s).1 = .error (.exited code)) :
    f = .procExit ∧ ∃ x, cells = [x] ∧ number x = code ∧ code < Calling.statusLimit := by
  have hends : ((f.perform v (cells.map number)).ends s).1 = .error (.exit code) := by
    rw [call_eq] at h
    exact answer_eq_exited_iff.1 h
  have hf : f = .procExit := Decidable.byContradiction fun hne =>
    (perform_plain hne v _).ends_ne_exit s code hends
  subst hf
  match cells with
  | [] => cases hends
  | _ :: _ :: _ => cases hends
  | [x] =>
    rw [call_exit] at h
    split at h
    · rename_i hx
      cases h
      exact ⟨rfl, x, rfl, rfl, hx⟩
    · cases h

end Function

end Embedder.Wasi
