import Embedder.Proofs.Dictionaries
import Embedder.Proofs.Wasi.Plain
import Embedder.Proofs.Wasi.Twins

/-!
# What stays of a context

A context is made with arguments, variables and pre-opened directories. No function of the system
interface changes the first two. Whether a number stands for a pre-open, and under which name, only changes
if the program asks to close the number or to move a descriptor from it or to it: opening a path takes a
number that nothing has, and what is opened so has no name.

* `Context.Preopens`: a number stands for a directory that was given to the program;
* `Context.Keeps`: the arguments, the variables and the pre-opens stay;
* `Context.descriptor?_of_nextNumber?`: a new descriptor gets a number that nothing has;
* `Calling.Still`, `Calling.Opens`, `Calling.Leaves`: computations that leave the context as it is, that
  also open a path, or that keep this much of it;
* `Function.call_keeps`: every function does, but for the numbers that it is asked to change.
-/

namespace Embedder.Wasi

/-- The descriptor is no directory with a name of its own. -/
def Descriptor.Unnamed (d : Descriptor) : Prop := ∀ node name, d ≠ .directory node (some name)

/-! ### Contexts -/

namespace Context

variable {c c' c'' : Context} {touched : Nat → Prop} {fd n : Nat} {d : Descriptor}

/-- The number stands for a directory that was given to the program under a name. -/
def Preopens (c : Context) (fd : Nat) (name : String) : Prop :=
  ∃ node, c.descriptor? fd = some (.directory node (some name))

/-- The arguments and the variables stay, and but for some numbers so do the pre-opens. -/
structure Keeps (c c' : Context) (touched : Nat → Prop) : Prop where
  arguments_eq : c'.arguments = c.arguments
  vars_eq : c'.vars = c.vars
  preopens_iff : ∀ fd name, ¬ touched fd → (c'.Preopens fd name ↔ c.Preopens fd name)

namespace Keeps

lemma refl (c : Context) : c.Keeps c touched := ⟨rfl, rfl, fun _ _ _ => .rfl⟩

lemma trans (h : c.Keeps c' touched) (h' : c'.Keeps c'' touched) : c.Keeps c'' touched :=
  ⟨h'.arguments_eq.trans h.arguments_eq, h'.vars_eq.trans h.vars_eq, fun fd name hfd =>
    (h'.preopens_iff fd name hfd).trans (h.preopens_iff fd name hfd)⟩

/-- A context with the same arguments, variables and descriptors. -/
lemma of_descriptors (ha : c'.arguments = c.arguments) (hv : c'.vars = c.vars)
    (hd : c'.descriptors = c.descriptors) : c.Keeps c' touched := by
  refine ⟨ha, hv, fun fd name _ => ?_⟩
  unfold Preopens descriptor?
  rw [hd]

end Keeps

lemma descriptor?_set (o : Option Descriptor) :
    (c.set fd o).descriptor? n = if n = fd then o else c.descriptor? n := by
  unfold set descriptor?
  rw [Dictionary.find?_insert]
  by_cases hn : fd = n
  · simp [hn]
  · simp [hn, Ne.symm hn]

lemma preopens_set_of_ne {o : Option Descriptor} {name : String} (h : n ≠ fd) :
    (c.set fd o).Preopens n name ↔ c.Preopens n name := by
  unfold Preopens
  rw [descriptor?_set, if_neg h]

lemma Keeps.set_touched (o : Option Descriptor) (h : touched fd) : c.Keeps (c.set fd o) touched :=
  ⟨rfl, rfl, fun _ _ hn => preopens_set_of_ne fun heq => hn (heq ▸ h)⟩

/-- A descriptor without a name stands where no pre-open did. -/
lemma Keeps.set (hold : ∀ name, ¬ c.Preopens fd name) (hd : d.Unnamed) :
    c.Keeps (c.set fd (some d)) touched := by
  refine ⟨rfl, rfl, fun n name _ => ?_⟩
  by_cases hn : n = fd
  · subst hn
    refine iff_of_false ?_ (hold name)
    rintro ⟨node, hnode⟩
    rw [descriptor?_set, if_pos rfl] at hnode
    exact hd node name (Option.some.inj hnode)
  · exact preopens_set_of_ne hn

/-! New numbers. -/

lemma find?_eq_none (h : fd ∉ c.descriptors.keys) : c.descriptors.find? fd = none := by
  rwa [Dictionary.mem_keys_iff, Option.isSome_iff_ne_none, not_not] at h

/-- **A new descriptor gets a number that nothing has**: one that was closed or that never stood for
anything. -/
theorem descriptor?_of_nextNumber? (h : c.nextNumber? = some fd) : c.descriptor? fd = none := by
  unfold nextNumber? at h
  simp only at h
  split at h
  · rename_i closed hmin
    cases h
    have hclosed := (List.mem_filter.1 (List.min?_mem hmin)).2
    rw [descriptor?, eq_of_beq hclosed]
    rfl
  · split at h
    · rename_i hmax
      cases h
      have hkeys : c.descriptors.keys = [] := List.max?_eq_none_iff.1 hmax
      rw [descriptor?, find?_eq_none (by simp [hkeys])]
      rfl
    · have hnew := List.find?_some h
      rw [descriptor?, find?_eq_none (by simpa using hnew)]
      rfl

lemma Keeps.insert? (hd : d.Unnamed) (h : c.insert? d = some (n, c')) : c.Keeps c' touched := by
  obtain ⟨m, hm, hc⟩ := Option.map_eq_some_iff.1 h
  cases hc
  refine .set (fun name hname => ?_) hd
  obtain ⟨node, hnode⟩ := hname
  rw [descriptor?_of_nextNumber? hm] at hnode
  cases hnode

end Context

/-! ### Computations -/

namespace Calling

variable {α β : Type} {x : Calling α} {c : Context} {touched : Nat → Prop}

/-- The computation leaves the context as it is. -/
structure Still (x : Calling α) : Prop where
  context_eq : ∀ s, (x.ends s).2.context = s.context

/-- Begun with a context, the computation keeps the arguments, the variables and the pre-opens. -/
structure Leaves (c : Context) (touched : Nat → Prop) (x : Calling α) : Prop where
  keeps : ∀ s, s.context = c → c.Keeps (x.ends s).2.context touched

/-- The computation leaves the context as it is and gives a descriptor without a name. -/
structure Opens (x : Calling Descriptor) : Prop where
  still : Still x
  unnamed : ∀ s d, (x.ends s).1 = .ok d → d.Unnamed

namespace Still

lemma of_local (h : Local x) : Still x := by
  obtain ⟨f, hf⟩ := h
  constructor
  intro s
  rw [hf]

lemma bind {k : α → Calling β} (hx : Still x) (hk : ∀ a, Still (k a)) : Still (x >>= k) := by
  constructor
  intro s
  have hs := hx.context_eq s
  rw [ends_bind]
  generalize x.ends s = r at hs
  obtain ⟨result, s'⟩ := r
  cases result with
  | ok a => exact ((hk a).context_eq s').trans hs
  | error e => exact hs

lemma of_steps (h : x.SetsNoContext) : Still x := by
  induction h with
  | pure a => exact ⟨fun _ => rfl⟩
  | fail e => exact ⟨fun _ => rfl⟩
  | get => exact ⟨fun _ => rfl⟩
  | bind _ _ ihx ihf => exact .bind ihx ihf
  | onMemory h => exact .of_local (.onMemory h)
  | setFiles fs => exact ⟨fun _ => rfl⟩
  | modifyGet _ hc => exact ⟨hc⟩

end Still

namespace Opens

lemma pure {d : Descriptor} (h : d.Unnamed) : Opens (Pure.pure d) := by
  refine ⟨.of_steps (.pure d), fun s d' hd => ?_⟩
  cases hd
  exact h

lemma fail (e : Errno) : Opens (Calling.fail e) := ⟨.of_steps (.fail e), fun _ _ h => nomatch h⟩

lemma bind {k : α → Calling Descriptor} (hx : x.SetsNoContext) (hk : ∀ a, Opens (k a)) :
    Opens (x >>= k) := by
  refine ⟨.bind (.of_steps hx) fun a => (hk a).still, fun s d hd => ?_⟩
  rw [ends_bind] at hd
  generalize x.ends s = r at hd
  obtain ⟨result, s'⟩ := r
  cases result with
  | ok a => exact (hk a).unnamed s' d hd
  | error e => cases hd

lemma openPresent (r : OpenRequest) (node : Nat) : Opens (Calling.openPresent r node) := by
  refine .bind .files fun fs => ?_
  split
  · exact .fail _
  · split
    · split
      · exact .fail _
      · exact .pure fun _ _ => nofun
    · split
      · exact .fail _
      · split
        · exact .bind (.setFiles _) fun _ => .pure fun _ _ => nofun
        · exact .pure fun _ _ => nofun
    · exact .fail _
    · exact .fail _

lemma createMissing (r : OpenRequest) (dir : Nat) (name : String) :
    Opens (Calling.createMissing r dir name) := by
  unfold Calling.createMissing
  split
  · exact .bind (.createEntry ..) fun _ => .pure fun _ _ => nofun
  · exact .fail _

/-- What a path leads to has no name of its own. -/
lemma openBelow (r : OpenRequest) (dir : Nat) (path : String) :
    Opens (Calling.openBelow r dir path) := by
  unfold Calling.openBelow
  split
  · exact .fail _
  · split
    · exact .bind (.locate ..) fun _ => .fail _
    · refine .bind (.locate ..) fun place => ?_
      cases place with
      | entry parent name node => exact .openPresent r node
      | directory node => exact .openPresent r node
      | missing dir name => exact .createMissing r dir name

end Opens

namespace Leaves

lemma of_still (h : Still x) : Leaves c touched x := by
  constructor
  rintro s rfl
  rw [h.context_eq s]
  exact .refl _

lemma of_steps (h : x.SetsNoContext) : Leaves c touched x := of_still (.of_steps h)

lemma onMemory (h : x.OnMemory) : Leaves c touched x := of_steps (.onMemory h)

/-- The rest begins with a context that keeps as much. -/
lemma bind {k : α → Calling β} (hx : Leaves c touched x) (hk : ∀ a c', Leaves c' touched (k a)) :
    Leaves c touched (x >>= k) := by
  constructor
  intro s hs
  have hleaves := hx.keeps s hs
  rw [ends_bind]
  generalize x.ends s = r at hleaves
  obtain ⟨result, s'⟩ := r
  cases result with
  | ok a => exact hleaves.trans ((hk a _).keeps s' rfl)
  | error e => exact hleaves

/-- The rest begins with the same context. -/
lemma still_bind {k : α → Calling β} (hx : x.SetsNoContext) (hk : ∀ a, Leaves c touched (k a)) :
    Leaves c touched (x >>= k) := by
  constructor
  intro s hs
  have hstill := (Still.of_steps hx).context_eq s
  rw [ends_bind]
  generalize x.ends s = r at hstill
  obtain ⟨result, s'⟩ := r
  cases result with
  | ok a => exact (hk a).keeps s' (hstill.trans hs)
  | error e => exact hs ▸ hstill ▸ .refl _

lemma opens_bind {x : Calling Descriptor} {k : Descriptor → Calling β} (hx : Opens x)
    (hk : ∀ d, d.Unnamed → Leaves c touched (k d)) : Leaves c touched (x >>= k) := by
  constructor
  intro s hs
  have hstill := hx.still.context_eq s
  have hunnamed := hx.unnamed s
  rw [ends_bind]
  generalize x.ends s = r at hstill hunnamed
  obtain ⟨result, s'⟩ := r
  cases result with
  | ok d => exact (hk d (hunnamed d rfl)).keeps s' (hstill.trans hs)
  | error e => exact hs ▸ hstill ▸ .refl _

lemma context_bind {k : Context → Calling β} (hk : Leaves c touched (k c)) :
    Leaves c touched (Calling.context >>= k) := by
  constructor
  rintro s rfl
  exact hk.keeps s rfl

lemma descriptor_bind {fd : Nat} {k : Descriptor → Calling β}
    (hk : ∀ d, c.descriptor? fd = some d → Leaves c touched (k d)) :
    Leaves c touched (Calling.descriptor fd >>= k) := by
  unfold Calling.descriptor
  rw [bind_assoc]
  refine context_bind ?_
  cases hd : c.descriptor? fd with
  | some d => exact hk d hd
  | none => exact ⟨fun s hs => hs ▸ .refl _⟩

lemma setContext {c' : Context} (h : c.Keeps c' touched) :
    Leaves c touched (Calling.setContext c') := ⟨fun _ _ => h⟩

lemma setFile {fd : Nat} {f : OpenFile} (hf : c.descriptor? fd = some (.file f)) (f' : OpenFile) :
    Leaves c touched (Calling.setDescriptor fd (some (.file f'))) := by
  refine context_bind (setContext (.set (fun name hname => ?_) fun _ _ => nofun))
  obtain ⟨node, hnode⟩ := hname
  cases hf.symm.trans hnode

/-! ### The functions that change contexts -/

lemma writeFile {fd : Nat} {f : OpenFile} (hf : c.descriptor? fd = some (.file f))
    (bytes : List UInt8) : Leaves c touched (Calling.writeFile fd f bytes) := by
  unfold Calling.writeFile
  split
  · exact still_bind (.file f) fun _ => still_bind .files fun _ => still_bind (.setFiles _) fun _ =>
      setFile hf _
  · exact of_steps (.fail _)

lemma write (fd list count result : Nat) : Leaves c touched (Calling.write fd list count result) := by
  refine descriptor_bind fun d hd => ?_
  cases d with
  | output stream =>
    refine of_steps (.bind (.onMemory (.firstBuffer ..)) fun b => ?_)
    cases b with
    | none => exact .writeWord ..
    | some b => exact .bind (.writeChunks ..) fun _ => .writeWord ..
  | file f =>
    refine still_bind (.onMemory (.firstBuffer ..)) fun b => ?_
    cases b with
    | none => exact of_steps (.writeWord ..)
    | some b =>
      exact still_bind (.onMemory (.readBytes ..)) fun _ =>
        (writeFile hd _).bind fun _ _ => of_steps (.writeWord ..)
  | input => exact of_steps (.fail _)
  | directory node name => exact of_steps (.fail _)

lemma takeInput (room : Nat) : Leaves c touched (Calling.takeInput room) := by
  constructor
  rintro s rfl
  unfold Calling.takeInput
  rw [ends_modifyGet]
  split
  · exact .refl _
  · exact .of_descriptors rfl rfl rfl

lemma readInput (room : Nat) : Leaves c touched (Calling.readInput room) := by
  refine still_bind .get fun s => ?_
  split
  · exact of_steps (.pure _)
  · split
    · exact of_steps (.fail _)
    · exact takeInput _

lemma readFile {fd : Nat} {f : OpenFile} (hf : c.descriptor? fd = some (.file f))
    (start length : Nat) : Leaves c touched (Calling.readFile fd f start length) := by
  refine still_bind (.onMemory (.readBytes ..)) fun _ => ?_
  split
  · exact still_bind (.file f) fun _ => still_bind (.onMemory (.writeBytes ..)) fun _ =>
      (setFile hf _).bind fun _ _ => of_steps (.pure _)
  · exact of_steps (.fail _)

lemma read (fd list count result : Nat) : Leaves c touched (Calling.read fd list count result) := by
  refine descriptor_bind fun d hd => ?_
  cases d with
  | input =>
    exact still_bind (.onMemory (.firstBuffer ..)) fun _ => (readInput _).bind fun _ _ =>
      of_steps (.bind (.onMemory (.writeBytes ..)) fun _ => .writeWord ..)
  | file f =>
    refine still_bind (.onMemory (.firstBuffer ..)) fun b => ?_
    cases b with
    | none => exact of_steps (.writeWord ..)
    | some b => exact (readFile hd _ _).bind fun _ _ => of_steps (.writeWord ..)
  | output stream => exact of_steps (.fail _)
  | directory node name => exact of_steps (.fail _)

lemma moveTo {fd : Nat} {f : OpenFile} (hf : c.descriptor? fd = some (.file f)) (result : Nat)
    (place : Option Nat) : Leaves c touched
      (match place with
        | none => Calling.fail .invalid
        | some position => do
          Calling.setDescriptor fd (some (.file { f with position }))
          Calling.writeWord 8 result position) := by
  cases place with
  | none => exact of_steps (.fail _)
  | some position => exact (setFile hf _).bind fun _ _ => of_steps (.writeWord ..)

lemma seekable_bind {fd : Nat} {k : OpenFile → Calling β}
    (hk : ∀ f, c.descriptor? fd = some (.file f) → Leaves c touched (k f)) :
    Leaves c touched (Calling.seekable fd >>= k) := by
  unfold Calling.seekable
  rw [bind_assoc]
  refine descriptor_bind fun d hd => ?_
  cases d with
  | file f => exact hk f hd
  | _ => exact ⟨fun s hs => hs ▸ .refl _⟩

lemma seek (v : Version) (fd offset whence result : Nat) :
    Leaves c touched (Calling.seek v fd offset whence result) := by
  unfold Calling.seek
  split
  · exact of_steps (.fail _)
  · rename_i origin _
    refine seekable_bind fun f hf => ?_
    cases origin with
    | start => exact moveTo hf result _
    | current => exact moveTo hf result _
    | «end» => exact still_bind (.file f) fun _ => moveTo hf result _

lemma setFlags (fd flags : Nat) : Leaves c touched (Calling.setFlags fd flags) := by
  unfold Calling.setFlags Calling.openFile
  simp only
  split
  · exact of_steps (.fail _)
  · rw [bind_assoc]
    refine descriptor_bind fun d hd => ?_
    cases d with
    | file f =>
      simp only [pure_bind]
      split
      · exact of_steps (.fail _)
      · exact setFile hd _
    | _ => exact ⟨fun s hs => hs ▸ .refl _⟩

lemma insert {d : Descriptor} (hd : d.Unnamed) : Leaves c touched (Calling.insert d) := by
  refine context_bind ?_
  split
  · rename_i h
    exact (setContext (.insert? hd h)).bind fun _ _ => of_steps (.pure _)
  · exact of_steps (.fail _)

lemma openPath (v : Version)
    (dirfd lookup start length oflags rights inheriting fdflags result : Nat) : Leaves c touched
      (Calling.openPath v dirfd lookup start length oflags rights inheriting fdflags result) := by
  unfold Calling.openPath
  simp only
  split
  · exact of_steps (.fail _)
  · refine still_bind (.readText ..) fun path => still_bind (.descriptor dirfd) fun d => ?_
    cases d with
    | directory dir name =>
      simp only
      split
      · exact of_steps (.fail _)
      · exact opens_bind (.openBelow ..) fun d hd => (insert hd).bind fun _ _ =>
          of_steps (.writeWord ..)
    | file f => exact of_steps (.fail _)
    | input => exact of_steps (.fail _)
    | output stream => exact of_steps (.fail _)

lemma close (fd : Nat) : Leaves c (· = fd) (Calling.close fd) :=
  descriptor_bind fun _ _ => context_bind (setContext (.set_touched none rfl))

lemma renumber (fd newFd : Nat) : Leaves c (fun n => n = fd ∨ n = newFd) (Calling.renumber fd newFd) := by
  refine descriptor_bind fun d _ => ?_
  split
  · exact of_steps (.pure _)
  · refine context_bind (setContext ?_)
    exact .trans (.set_touched none (.inl rfl)) (.set_touched (some d) (.inr rfl))

/-! Clocks and chance. -/

lemma now (clock : Clock) : Leaves c touched (Calling.now clock) := by
  refine context_bind (bind (setContext ?_) fun _ _ => of_steps (.bind .system fun _ => .pure _))
  exact .of_descriptors rfl rfl rfl

lemma clockTime (number result : Nat) : Leaves c touched (Calling.clockTime number result) :=
  still_bind (.onMemory (.clock number)) fun _ => (now _).bind fun _ _ => of_steps (.writeWord ..)

lemma draw (length : Nat) : Leaves c touched (Calling.draw length) := by
  refine context_bind (bind (setContext ?_) fun _ _ => of_steps (.bind .system fun _ => .pure _))
  exact .of_descriptors rfl rfl rfl

lemma randomBytes (start length : Nat) : Leaves c touched (Calling.randomBytes start length) := by
  unfold Calling.randomBytes
  split
  · exact of_steps (.pure _)
  · exact still_bind (.onMemory (.checkRange ..)) fun _ => (draw _).bind fun _ _ =>
      onMemory (.writeBytes ..)

lemma timeLeft (number timeout : Nat) (absolute : Bool) :
    Leaves c touched (Calling.timeLeft number timeout absolute) := by
  refine still_bind (.onMemory (.timer number)) fun clock => ?_
  split
  · exact (now clock).bind fun _ _ => of_steps (.pure _)
  · exact of_steps (.pure _)

lemma eventOf (name : Nat) (wish : Wish) : Leaves c touched (Calling.eventOf name wish) := by
  cases wish with
  | time clock timeout absolute => exact (timeLeft ..).bind fun _ _ => of_steps (.pure _)
  | readable fd =>
    refine of_steps (.bind (.descriptor fd) fun d => ?_)
    cases d with
    | input => exact .pure _
    | file f => exact .bind (.file f) fun _ => .pure _
    | _ => exact .fail _
  | writable fd =>
    refine of_steps (.bind (.descriptor fd) fun d => ?_)
    cases d with
    | output stream => exact .pure _
    | file f => exact .pure _
    | _ => exact .fail _

lemma readEvents (v : Version) (start count : Nat) :
    Leaves c touched (Calling.readEvents v start count) := by
  induction count generalizing c start with
  | zero => exact of_steps (.pure _)
  | succ count ih =>
    exact still_bind (.onMemory (.readWish ..)) fun _ => (eventOf ..).bind fun _ _ =>
      (ih _).bind fun _ _ => of_steps (.pure _)

lemma pollMany (v : Version) (wishes events count result : Nat) :
    Leaves c touched (Calling.pollMany v wishes events count result) :=
  (readEvents ..).bind fun _ _ => of_steps (.bind (.onMemory (.writeEvents ..)) fun _ => .writeWord ..)

lemma poll (v : Version) (wishes events count result : Nat) :
    Leaves c touched (Calling.poll v wishes events count result) := by
  unfold Calling.poll
  split
  · exact of_steps (.fail _)
  · split
    · refine still_bind (.onMemory (.readWish ..)) fun wish => ?_
      split
      · exact of_steps (.bind (.onMemory (.writeEvents ..)) fun _ => .writeWord ..)
      · exact pollMany ..
    · exact pollMany ..

end Leaves

end Calling

/-! ### Functions -/

namespace Function

/-- A call asks to close the number, or to move a descriptor from it or to it. -/
def Touches (f : Function) (arguments : List Nat) (fd : Nat) : Prop :=
  f = .fdClose ∧ arguments = [fd] ∨
    f = .fdRenumber ∧ ∃ other, arguments = [fd, other] ∨ arguments = [other, fd]

lemma touches_fdClose (fd : Nat) : Function.fdClose.Touches [fd] = (· = fd) := by
  funext n
  simp [Touches, eq_comm]

lemma touches_fdRenumber (fd newFd : Nat) :
    Function.fdRenumber.Touches [fd, newFd] = fun n => n = fd ∨ n = newFd := by
  funext n
  simp [Touches, eq_comm, exists_or]

lemma perform_leaves (v : Version) (f : Function) (arguments : List Nat) (c : Context) :
    Calling.Leaves c (f.Touches arguments) (f.perform v arguments) := by
  unfold perform
  split
  · exact .of_steps (.bind .context fun _ => .onMemory (.writeTexts ..))
  · exact .of_steps (.bind .context fun _ => .onMemory (.writeSizes ..))
  · exact .of_steps (.bind .context fun _ => .onMemory (.writeTexts ..))
  · exact .of_steps (.bind .context fun _ => .onMemory (.writeSizes ..))
  · exact .onMemory (.clockResolution ..)
  · exact .clockTime ..
  · exact .of_steps (.advise ..)
  · exact .of_steps (.allocate ..)
  · rw [touches_fdClose]
    exact .close _
  · exact .of_steps (.synchronise ..)
  · exact .of_steps (.descriptorStatus ..)
  · exact .setFlags ..
  · exact .of_steps (.setRights ..)
  · exact .of_steps (.fileStatus ..)
  · exact .of_steps (.setSize ..)
  · exact .of_steps (.setTimes ..)
  · exact .of_steps (.readAt ..)
  · exact .of_steps (.describeAlias ..)
  · exact .of_steps (.directoryAlias ..)
  · exact .of_steps (.writeAt ..)
  · exact .read ..
  · exact .of_steps (.readDirectory ..)
  · rw [touches_fdRenumber]
    exact .renumber ..
  · exact .seek ..
  · exact .of_steps (.synchronise ..)
  · exact .of_steps (.tell ..)
  · exact .write ..
  · exact .of_steps (.createDirectory ..)
  · exact .of_steps (.pathStatus ..)
  · exact .of_steps (.setPathTimes ..)
  · exact .of_steps (.link ..)
  · exact .openPath ..
  · exact .of_steps (.readLink ..)
  · exact .of_steps (.removeDirectory ..)
  · exact .of_steps (.rename ..)
  · exact .of_steps (.symlink ..)
  · exact .of_steps (.unlinkPath ..)
  · exact .poll ..
  · exact .of_still (.of_local (.exit _))
  · exact .onMemory (.raise _)
  · exact .randomBytes ..
  · exact .of_steps (.pure _)
  · split
    · exact .of_steps (.fail _)
    · exact .of_steps (.noSocket _)
  · split
    · exact .of_steps (.fail _)
    · exact .of_steps (.noSocket _)
  · exact .of_steps (.noSocket _)
  · split
    · exact .of_steps (.fail _)
    · exact .of_steps (.noSocket _)
  · exact .of_steps (.fail _)

/-- **A call keeps the arguments, the variables and the pre-opens**, but for the numbers that it asks to
change. -/
theorem call_keeps (v : Version) (f : Function) (cells : List Cell) (s : CallState) :
    s.context.Keeps (f.call v cells s).2.context (f.Touches (cells.map number)) := by
  rw [call_eq]
  exact (f.perform_leaves v (cells.map number) s.context).keeps s rfl

end Function

end Embedder.Wasi
