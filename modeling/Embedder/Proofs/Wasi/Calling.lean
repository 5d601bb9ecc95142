import Embedder.Wasi.Function.Call
import Mathlib.Tactic.Lemma

/-!
# How a computation on a caller ends

* `Calling.ends`: the value or the ending of a computation, and the state that it leaves;
* `Calling.ends_bind`: one computation after another;
* `Calling.OnMemory`: the computations that work on the memory of the caller only.
-/

namespace Embedder.Wasi

namespace Calling

variable {α β : Type}

/-- What a computation comes to from a state. -/
def ends (x : Calling α) (s : CallState) : Except Ending α × CallState := x.run.run s

@[simp] lemma ends_pure (a : α) (s : CallState) : (pure a : Calling α).ends s = (.ok a, s) := rfl

@[simp] lemma ends_throw (e : Ending) (s : CallState) :
    (throw e : Calling α).ends s = (.error e, s) := rfl

@[simp] lemma ends_get (s : CallState) : (get : Calling CallState).ends s = (.ok s, s) := rfl

@[simp] lemma ends_modify (f : CallState → CallState) (s : CallState) :
    (modify f : Calling PUnit).ends s = (.ok ⟨⟩, f s) := rfl

@[simp] lemma ends_modifyGet (f : CallState → α × CallState) (s : CallState) :
    (modifyGet f : Calling α).ends s = (.ok (f s).1, (f s).2) := rfl

/-- A computation that does not end before its time hands its value on. -/
lemma ends_bind (x : Calling α) (f : α → Calling β) (s : CallState) :
    (x >>= f).ends s =
      match x.ends s with
      | (.ok a, s) => (f a).ends s
      | (.error e, s) => (.error e, s) := by
  change (ExceptT.bind x f).run.run s = _
  simp only [ends, ExceptT.bind, ExceptT.run, ExceptT.mk, bind, StateT.bind, StateT.run]
  cases x s with
  | mk r s' => cases r <;> rfl

lemma ends_bind_of_ok {x : Calling α} {a : α} {s s' : CallState} (h : x.ends s = (.ok a, s'))
    (f : α → Calling β) : (x >>= f).ends s = (f a).ends s' := by
  rw [ends_bind, h]

/-! ### Computations on the memory -/

/-- The computation is put together from steps that work on the caller's memory only. It may fail or
trap, but it does not exit. -/
inductive OnMemory : {α : Type} → Calling α → Prop
  | pure {α : Type} (a : α) : OnMemory (Pure.pure a)
  | fail {α : Type} (e : Errno) : OnMemory (Calling.fail e : Calling α)
  | trap {α : Type} (message : String) : OnMemory (Calling.trap message : Calling α)
  | bind {α β : Type} {x : Calling α} {f : α → Calling β} (hx : OnMemory x)
      (hf : ∀ a, OnMemory (f a)) : OnMemory (x >>= f)
  | get {α : Type} {k : CallState → Calling α} (hk : ∀ s, OnMemory (k s))
      (hm : ∀ s s' : CallState, s.memory = s'.memory → k s = k s') :
      OnMemory (MonadState.get >>= k)
  | storeBytes (start : Nat) (bytes : List UInt8) :
      OnMemory (modify fun s : CallState => { s with memory := s.memory.write start bytes })

namespace OnMemory

lemma readBytes (start length : Nat) : OnMemory (Calling.readBytes start length) := by
  refine .get (fun s => ?_) fun s s' h => by rw [h]
  cases s.memory.read? start length with
  | some bytes => exact .pure bytes
  | none => exact .trap _

lemma writeBytes (start : Nat) (bytes : List UInt8) : OnMemory (Calling.writeBytes start bytes) := by
  unfold Calling.writeBytes
  split
  · exact .pure _
  · refine .get (fun s => ?_) fun s s' h => by rw [h]
    split
    · exact .storeBytes ..
    · exact .trap _

lemma checkRange (start length : Nat) : OnMemory (Calling.checkRange start length) := by
  refine .get (fun s => ?_) fun s s' h => by rw [h]
  split
  · exact .pure _
  · exact .trap _

lemma checkWord (size start : Nat) : OnMemory (Calling.checkWord size start) := by
  refine .get (fun s => ?_) fun s s' h => by rw [h]
  split
  · split
    · exact .pure _
    · exact .trap _
  · exact .trap _

lemma readWord (size start : Nat) : OnMemory (Calling.readWord size start) :=
  .bind (.checkWord ..) fun _ => .bind (.readBytes ..) fun _ => .pure _

lemma writeWord (size start n : Nat) : OnMemory (Calling.writeWord size start n) :=
  .bind (.checkWord ..) fun _ => .writeBytes ..

lemma writeFields (start : Nat) (fields : List Field) :
    OnMemory (Calling.writeFields start fields) := by
  induction fields with
  | nil => exact .pure _
  | cons f rest ih => exact .bind (.writeWord ..) fun _ => ih

lemma readText (start length : Nat) : OnMemory (Calling.readText start length) := by
  refine .bind (.readBytes ..) fun bytes => ?_
  split
  · exact .pure _
  · exact .fail _

lemma firstBuffer (list count : Nat) : OnMemory (Calling.firstBuffer list count) := by
  induction count generalizing list with
  | zero => exact .pure _
  | succ count ih =>
    refine .bind (.readWord ..) fun start => .bind (.readWord ..) fun length => ?_
    split
    · exact ih (list + 8)
    · exact .pure _

/-! Arguments and variables. -/

lemma writePieces (start : Nat) (pieces : List (List UInt8)) :
    OnMemory (Calling.writePieces start pieces) := by
  induction pieces generalizing start with
  | nil => exact .pure _
  | cons piece rest ih => exact .bind (.writeBytes ..) fun _ => ih _

lemma writeTexts (addresses start : Nat) (texts : List (List (List UInt8))) :
    OnMemory (Calling.writeTexts addresses start texts) := by
  induction texts generalizing addresses start with
  | nil => exact .pure _
  | cons pieces rest ih =>
    exact .bind (.writeWord ..) fun _ => .bind (.writePieces ..) fun _ => ih _ _

lemma writeSizes (count size : Nat) (texts : List (List (List UInt8))) :
    OnMemory (Calling.writeSizes count size texts) :=
  .bind (.writeWord ..) fun _ => .writeWord ..

/-! What is told of files, descriptors and events. -/

lemma writeDescriptorStatus (result : Nat) (kind : FileKind) (flags : Nat)
    (rights inheriting : List Right) :
    OnMemory (Calling.writeDescriptorStatus result kind flags rights inheriting) := .writeFields ..

lemma writeStatus (v : Version) (result device : Nat) (kind : FileKind) (names size : Nat) :
    OnMemory (Calling.writeStatus v result device kind names size) := .writeFields ..

lemma readWish (v : Version) (start : Nat) : OnMemory (Calling.readWish v start) := by
  refine .bind (.readWord ..) fun name => .bind (.readWord ..) fun tag => ?_
  split
  · refine .bind (.readWord ..) fun clock => ?_
    split
    · exact .fail _
    · refine .bind (.readWord ..) fun timeout => .bind (.readWord ..) fun _ =>
        .bind (.readWord ..) fun flags => ?_
      split
      · exact .fail _
      · exact .pure _
  · exact .bind (.readWord ..) fun _ => .pure _
  · exact .bind (.readWord ..) fun _ => .pure _
  · exact .fail _

lemma writeEvents (start : Nat) (es : List Event) : OnMemory (Calling.writeEvents start es) := by
  induction es generalizing start with
  | nil => exact .pure _
  | cons e rest ih => exact .bind (.writeFields ..) fun _ => ih _

lemma clock (number : Nat) : OnMemory (Calling.clock number) := by
  unfold Calling.clock
  split
  · exact .pure _
  · exact .pure _
  · exact .fail _
  · exact .fail _
  · exact .fail _

lemma timer (number : Nat) : OnMemory (Calling.timer number) := by
  unfold Calling.timer
  split
  · exact .pure _
  · exact .pure _
  · exact .fail _

lemma clockResolution (number result : Nat) : OnMemory (Calling.clockResolution number result) :=
  .bind (.clock number) fun _ => .writeWord ..

lemma raise (signal : Nat) : OnMemory (Calling.raise signal) := by
  unfold Calling.raise
  split
  · exact .fail _
  · exact .fail _

end OnMemory

end Calling

end Embedder.Wasi
