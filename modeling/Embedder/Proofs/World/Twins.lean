import Embedder.Proofs.Wasi.Functions
import Embedder.Proofs.World.Reentrancy

/-!
# An instance in two worlds

What an instance does depends on its own state, on its context and on what the system has for that
context. Where two worlds have the same there, every use of the instance is answered alike.

* `Action.Local`: a function of the host that only looks at its arguments and the memory lent to it;
* `World.Pair`: an instance in two worlds, and `World.Pair.Leads`: what can become of it;
* `World.Pair.hostCall_agrees`, `World.Pair.callWithin`: calls end alike in both;
* `World.Pair.perform`: and so do uses.
-/

namespace Embedder

open Execution (Program Guest Machine HostCall Stop Outcome)

variable {σ α : Type}

/-! ### Functions of the host that look at nothing else -/

/-- The action uses nothing but the memory that is lent to it. It may change the state of the host, but
does not look at it. -/
inductive Action.Local : Action σ α → Prop
  | done (a : α) : Local (.done a)
  | fail (message : String) : Local (.fail message)
  | panic : Local .panic
  | update {change : σ → σ} {next : σ → Action σ α} (hn : ∀ s s', next s = next s')
      (h : ∀ s, Local (next s)) : Local (.update change next)
  | memory {r : MemoryRequest} {next : r.Result → Action σ α} (h : ∀ a, Local (next a)) :
      Local (.memory r next)

def HostFunction.Local (f : HostFunction σ) : Prop := ∀ values, (f.body values).Local

/-- Such are all the functions of the host that an instance imports. -/
def Slot.Local (s : Slot σ) : Prop :=
  ∀ (k : Nat) (f : HostFunction σ), s.imported[k]? = some (.host f) → f.Local

namespace World

open Wasi (Twins)

/-- Such an action ends in the same way wherever it runs, and at most the state of the host changes. -/
lemma run_of_local {a : Action σ α} (ha : a.Local) (memory : Option Nat) (g : Guest) :
    ∃ ended g₁, ∀ (calls : Calls σ) (w : World σ), ∃ host,
      run calls memory a g w = (ended, g₁, { w with host }) := by
  induction ha generalizing g with
  | done a => exact ⟨.done a, g, fun _ w => ⟨w.host, rfl⟩⟩
  | fail message => exact ⟨.failed message, g, fun _ w => ⟨w.host, rfl⟩⟩
  | panic => exact ⟨.panicked, g, fun _ w => ⟨w.host, rfl⟩⟩
  | @update change next hn h ih =>
    rcases isEmpty_or_nonempty σ with hempty | ⟨⟨s⟩⟩
    · exact ⟨.panicked, g, fun _ w => hempty.elim w.host⟩
    · obtain ⟨ended, g₁, hrun⟩ := ih s g
      refine ⟨ended, g₁, fun calls w => ?_⟩
      obtain ⟨host, hhost⟩ := hrun calls { w with host := change w.host }
      refine ⟨host, ?_⟩
      rw [run, hn (change w.host) s]
      exact hhost
  | @memory r next h ih =>
    obtain ⟨ended, g₁, hrun⟩ := ih (request memory r g).1 (request memory r g).2
    exact ⟨ended, g₁, fun calls w => hrun calls w⟩

/-! ### An instance in two worlds -/

/-- An instance of two worlds, whose systems have the same for it. The context of `slot` does not
count. -/
structure Pair (σ : Type) (n : Nat) where
  twins : Twins
  slot : Slot σ
  left : World σ
  right : World σ
  left_slot : left.slots[n]? = some { slot with context := twins.context }
  right_slot : right.slots[n]? = some { slot with context := twins.context.rename twins.map }
  left_system : left.system = twins.left
  right_system : right.system = twins.right

variable {n : Nat}

namespace Pair

variable {p p₁ p₂ : Pair σ n}

/-- What becomes of an instance: it may run, and all other instances of the second world stay as they
are. -/
structure Leads (p p₁ : Pair σ n) : Prop where
  twins : p.twins.Leads p₁.twins
  outline_eq : p₁.slot.outline = p.slot.outline
  size_eq : p₁.right.slots.size = p.right.slots.size
  others : ∀ j, j ≠ n → p₁.right.slots[j]? = p.right.slots[j]?

lemma Leads.refl (p : Pair σ n) : p.Leads p := ⟨.refl _, rfl, rfl, fun _ _ => rfl⟩

lemma Leads.trans (h : p.Leads p₁) (h' : p₁.Leads p₂) : p.Leads p₂ :=
  ⟨h.twins.trans h'.twins, h'.outline_eq.trans h.outline_eq, h'.size_eq.trans h.size_eq,
    fun j hj => (h'.others j hj).trans (h.others j hj)⟩

lemma left_guest? (p : Pair σ n) : p.left.guest? n = p.slot.guest := by
  simp [World.guest?, p.left_slot]

lemma right_guest? (p : Pair σ n) : p.right.guest? n = p.slot.guest := by
  simp [World.guest?, p.right_slot]

/-- The states of the host do not count. -/
def withHosts (p : Pair σ n) (host host' : σ) : Pair σ n :=
  { p with left := { p.left with host }, right := { p.right with host := host' } }

lemma leads_withHosts (host host' : σ) : p.Leads (p.withHosts host host') :=
  ⟨.refl _, rfl, rfl, fun _ _ => rfl⟩

/-- The instance runs, or it rests again. -/
def setGuest (p : Pair σ n) (g : Option Guest) : Pair σ n :=
  { p with
    slot := { p.slot with guest := g }
    left := p.left.setGuest n g
    right := p.right.setGuest n g
    left_slot := by simp [World.setGuest, Array.getElem?_modify, p.left_slot]
    right_slot := by simp [World.setGuest, Array.getElem?_modify, p.right_slot] }

/-- The systems change, and the context with them. -/
def withTwins (p : Pair σ n) (t : Twins) : Pair σ n :=
  { p with
    twins := t
    left := { p.left with system := t.left }.setContext n t.context
    right := { p.right with system := t.right }.setContext n (t.context.rename t.map)
    left_slot := by simp [World.setContext, Array.getElem?_modify, p.left_slot]
    right_slot := by simp [World.setContext, Array.getElem?_modify, p.right_slot]
    left_system := rfl
    right_system := rfl }

lemma leads_withTwins {t : Twins} (h : p.twins.Leads t) : p.Leads (p.withTwins t) :=
  ⟨h, rfl, by simp [withTwins, World.setContext], fun j hj => by
    simp [withTwins, World.setContext, Array.getElem?_modify, Ne.symm hj]⟩

/-- The two worlds of an instance to which the pair leads. -/
def Reaches (p : Pair σ n) (w w' : World σ) : Prop :=
  ∃ p₁, p.Leads p₁ ∧ p₁.left = w ∧ p₁.right = w'

lemma reaches_self (p : Pair σ n) : p.Reaches p.left p.right := ⟨p, .refl p, rfl, rfl⟩

lemma Reaches.trans {w w' : World σ} (h : p.Leads p₁) (h' : p₁.Reaches w w') : p.Reaches w w' := by
  obtain ⟨p₂, h₂, rfl, rfl⟩ := h'
  exact ⟨p₂, h.trans h₂, rfl, rfl⟩

/-- An instance of a world, twice. -/
def self (w : World σ) {s : Slot σ} (hs : w.slots[n]? = some s) (hw : w.system.files.WellFormed)
    {S : Set Nat} (hS : FileSystem.Sealed S w.system.files) (hc : s.context.nodes ⊆ S) :
    Pair σ n where
  twins := .self s.context w.system hw hS hc
  slot := s
  left := w
  right := w
  left_slot := hs
  right_slot := hs.trans (congrArg (fun c => some { s with context := c }) s.context.rename_id.symm)
  left_system := rfl
  right_system := rfl

/-- What the system has for the instance does not change. -/
structure Spares (p : Pair σ n) (S : Set Nat) (w : World σ) : Prop where
  slot : w.slots[n]? = p.right.slots[n]?
  files : FileSystem.Evolves S p.right.system.files w.system.files
  apart : ∀ i ∈ p.twins.held, p.twins.map i ∉ S
  wellFormed : w.system.files.WellFormed
  pipes : ∀ k, p.twins.context.UsesPipe k → w.system.pipes[k]? = p.right.system.pipes[k]?
  input : p.twins.context.input = .inherited → w.system.input = p.right.system.input
  surroundings : w.system.surroundings = p.right.system.surroundings

/-- The second world changes where the instance has nothing. -/
def withRight (p : Pair σ n) (w : World σ) {S : Set Nat} (h : p.Spares S w) : Pair σ n :=
  { p with
    twins :=
      { p.twins with
        files := p.twins.files.withRight h.wellFormed
          (by rw [← p.twins.right_files, ← p.right_system]; exact h.files) h.apart
        right := w.system
        right_files := rfl
        pipe_eq := fun k hk => by rw [h.pipes k hk, p.right_system, p.twins.pipe_eq k hk]
        input_eq := fun hi => by rw [h.input hi, p.right_system, p.twins.input_eq hi]
        surroundings_eq := by rw [h.surroundings, p.right_system, p.twins.surroundings_eq] }
    right := w
    right_slot := h.slot.trans p.right_slot
    right_system := rfl }

/-! ### Calls to the host -/

variable {calls calls' : Calls σ}

lemma callHost_agrees (p : Pair σ n) {f : HostFunction σ} (hf : f.Local) (memory : Option Nat)
    (arguments : List Cell) (g : Guest) :
    (callHost calls memory f arguments g p.left).Agrees p.Reaches
      (callHost calls' memory f arguments g p.right) := by
  unfold callHost
  cases arguments.mapM Cell.toValue? with
  | none => exact ⟨rfl, rfl, p.reaches_self⟩
  | some values =>
    simp only
    split
    · exact ⟨rfl, rfl, p.reaches_self⟩
    · obtain ⟨ended, g₁, hrun⟩ := run_of_local (hf values) (if f.usesMemory then memory else none) g
      obtain ⟨host, hleft⟩ := hrun calls p.left
      obtain ⟨host', hright⟩ := hrun calls' p.right
      rw [hleft, hright]
      have hreach : p.Reaches { p.left with host } { p.right with host := host' } :=
        ⟨p.withHosts host host', leads_withHosts host host', rfl, rfl⟩
      cases ended <;> exact ⟨rfl, rfl, hreach⟩

lemma callGenerated_agrees (p : Pair σ n) (memory : Option Nat)
    (v : Wasi.Version) (f : Wasi.Function) (arguments : List Cell) (g : Guest) :
    (callGenerated n p.twins.context memory v f arguments g p.left).Agrees p.Reaches
      (callGenerated n (p.twins.context.rename p.twins.map) memory v f arguments g p.right) := by
  unfold callGenerated
  cases memory.bind fun i => (g.memories[i]?).map fun m => (i, m) with
  | none => exact ⟨rfl, rfl, p.reaches_self⟩
  | some im =>
    obtain ⟨t, m, r, ht, hleft, hright⟩ := f.call_twins p.twins im.2 v arguments
    rw [p.left_system, p.right_system]
    simp only [Twins.caller, Twins.twin] at hleft hright
    simp only [hleft, hright]
    exact ⟨rfl, rfl, p.withTwins t, leads_withTwins ht, rfl, rfl⟩

lemma Leads.guest_eq_none_iff (h : p.Leads p₁) : p.slot.guest = none ↔ p₁.slot.guest = none := by
  have hrest : p₁.slot.guest.isSome = p.slot.guest.isSome := congrArg Outline.atRest h.outline_eq
  rw [← Option.isNone_iff_eq_none, ← Option.isNone_iff_eq_none, ← Option.not_isSome,
    ← Option.not_isSome, hrest]

lemma Leads.local (h : p.Leads p₁) (hs : p.slot.Local) : p₁.slot.Local := by
  intro k f hf
  have himported : p₁.slot.imported = p.slot.imported := congrArg Outline.imported h.outline_eq
  exact hs k f (himported ▸ hf)

lemma hostCall_agrees (p : Pair σ n) (hs : p.slot.Local) (direct : Bool)
    (k : Nat) (arguments : List Cell) (g : Guest) :
    (hostCall calls n direct k arguments g p.left).Agrees p.Reaches
      (hostCall calls' n direct k arguments g p.right) := by
  unfold hostCall
  rw [p.left_slot, p.right_slot]
  simp only [Option.bind_some]
  cases hf : p.slot.imported[k]? with
  | none => exact ⟨rfl, rfl, p.reaches_self⟩
  | some imported =>
    cases imported with
    | host f => exact p.callHost_agrees (hs k f hf) ..
    | generated v f => exact p.callGenerated_agrees ..

/-- Code of the instance runs alike in both worlds. -/
theorem invoke_agrees (p : Pair σ n) (hs : p.slot.Local)
    (program : Program) (function : Nat) (arguments : List Cell) (g : Guest) :
    (Execution.invoke program (hostCall calls n false) function arguments g p.left).Agrees p.Reaches
      (Execution.invoke program (hostCall calls' n false) function arguments g p.right) := by
  refine Execution.run_agrees (fun k arguments g w w' hw => ?_) _ _ g p.reaches_self
  obtain ⟨p₁, h, rfl, rfl⟩ := hw
  obtain ⟨hresult, hguest, hworld⟩ := p₁.hostCall_agrees (h.local hs) false k arguments g
  exact ⟨hresult, hguest, .trans h hworld⟩

/-! ### Calls to the instance -/

lemma enter_agrees (p : Pair σ n) (hs : p.slot.Local) {f : Address}
    (hf : f.owner = n) (program : Program) (arguments : List Value) (g : Guest) :
    (enter calls f program arguments g p.left).Agrees p.Reaches
      (enter calls' f program arguments g p.right) := by
  subst hf
  unfold enter
  dsimp only
  split
  · split
    · exact p.hostCall_agrees hs ..
    · exact p.invoke_agrees hs ..
  · exact ⟨rfl, rfl, p.reaches_self⟩

/-- The instance is taken from its rest, runs, and rests again. -/
lemma Leads.rest {g g' : Guest} (hg : p.slot.guest = some g) (h : (p.setGuest none).Leads p₁) :
    p.Leads (p₁.setGuest (some g')) where
  twins := h.twins
  outline_eq := by
    have hout : p₁.slot.outline = { p.slot.outline with atRest := false } := h.outline_eq
    have hrest : p.slot.outline.atRest = true := by simp [Slot.outline, hg]
    change { p₁.slot.outline with atRest := true } = _
    rw [hout, ← hrest]
  size_eq := by
    have hsize : p₁.right.slots.size = (p.right.setGuest n none).slots.size := h.size_eq
    simp [setGuest, World.setGuest, hsize]
  others j hj := by
    have hslot : p₁.right.slots[j]? = (p.right.setGuest n none).slots[j]? := h.others j hj
    simp [setGuest, World.setGuest, Array.getElem?_modify, Ne.symm hj, hslot]

/-- A call is answered alike, whatever the depths, if only an instance at rest can be called. -/
theorem callWithin (p : Pair σ n) (hs : p.slot.Local) {f : Address}
    (hf : f.owner = n) (arguments : List Value) {d d' : Nat} (hd : p.slot.guest ≠ none → 0 < d)
    (hd' : p.slot.guest ≠ none → 0 < d') :
    ∃ answer p₁, p.Leads p₁ ∧ World.callWithin d f arguments p.left = (answer, p₁.left) ∧
      World.callWithin d' f arguments p.right = (answer, p₁.right) := by
  subst hf
  cases hg : p.slot.guest with
  | none =>
    refine ⟨.busy, p, .refl p, callWithin_none d arguments ?_, callWithin_none d' arguments ?_⟩
    · rw [p.left_guest?, hg]
    · rw [p.right_guest?, hg]
  | some g =>
    obtain ⟨d, rfl⟩ : ∃ k, d = k + 1 := ⟨d - 1, by have := hd (by simp [hg]); omega⟩
    obtain ⟨d', rfl⟩ : ∃ k, d' = k + 1 := ⟨d' - 1, by have := hd' (by simp [hg]); omega⟩
    have ho : (enter (World.callWithin d) f p.slot.program arguments g
        (p.left.setGuest f.owner none)).Agrees (p.setGuest none).Reaches
          (enter (World.callWithin d') f p.slot.program arguments g
            (p.right.setGuest f.owner none)) :=
      (p.setGuest none).enter_agrees hs rfl ..
    rw [callWithin_some d arguments p.left_slot hg, callWithin_some d' arguments p.right_slot hg]
    dsimp only
    generalize enter (World.callWithin d) f p.slot.program arguments g
      (p.left.setGuest f.owner none) = o at ho ⊢
    generalize enter (World.callWithin d') f p.slot.program arguments g
      (p.right.setGuest f.owner none) = o' at ho ⊢
    obtain ⟨hresult, hguest, p₁, h, hleft, hright⟩ := ho
    refine ⟨answerOf o.result, p₁.setGuest (some o.guest), .rest hg h, ?_, ?_⟩
    · rw [← hleft]
      rfl
    · rw [hresult, hguest, ← hright]
      rfl

/-! ### Uses -/

lemma pos_of_guest {w : World σ} {g : Option Guest} (hg : w.guest? n = g) (h : g ≠ none) :
    0 < w.resting := by
  obtain ⟨g', rfl⟩ := Option.ne_none_iff_exists'.1 h
  have := resting_setGuest_none w n hg
  omega

/-- An operation on the instance. -/
lemma operate (p : Pair σ n) (o : Operation) :
    ∃ answer p₁, p.Leads p₁ ∧ p.left.operate n o = (answer, p₁.left) ∧
      p.right.operate n o = (answer, p₁.right) := by
  cases hg : p.slot.guest with
  | none =>
    refine ⟨none, p, .refl p, ?_, ?_⟩
    · simp [World.operate, p.left_guest?, hg]
    · simp [World.operate, p.right_guest?, hg]
  | some g =>
    refine ⟨some (o.perform g).1, (p.setGuest none).setGuest (some (o.perform g).2),
      Leads.rest hg (.refl _), ?_, ?_⟩
    · rw [operate_of_guest? _ _ (p.left_guest?.trans hg), ← setGuest_setGuest _ _ none]
      rfl
    · rw [operate_of_guest? _ _ (p.right_guest?.trans hg), ← setGuest_setGuest _ _ none]
      rfl

/-- An action that asks nobody else ends alike. -/
theorem run (p : Pair σ n) (hs : p.slot.Local) {a : Action σ α} {r : α}
    (ha : a.Asks n r) {d d' : Nat} (hd : p.slot.guest ≠ none → 0 < d)
    (hd' : p.slot.guest ≠ none → 0 < d') (g : Guest) :
    ∃ ended p₁, p.Leads p₁ ∧ World.run (World.callWithin d) none a g p.left = (ended, g, p₁.left) ∧
      World.run (World.callWithin d') none a g p.right = (ended, g, p₁.right) := by
  induction ha generalizing p with
  | done h => exact ⟨_, p, .refl p, rfl, rfl⟩
  | @operate o next hn hsome ih =>
    obtain ⟨answer, p₁, h, hleft, hright⟩ := p.operate o
    simp only [World.run, hleft, hright]
    cases answer with
    | none =>
      rw [hn]
      exact ⟨.done r, p₁, h, rfl, rfl⟩
    | some x =>
      have hrest := h.guest_eq_none_iff
      obtain ⟨ended, p₂, h₂, hrun⟩ := ih x p₁ (h.local hs) (fun hg => hd (mt hrest.1 hg))
        fun hg => hd' (mt hrest.1 hg)
      exact ⟨ended, p₂, h.trans h₂, hrun⟩
  | @call f arguments next hf hn hsome ih =>
    obtain ⟨answer, p₁, h, hleft, hright⟩ := p.callWithin hs hf arguments hd hd'
    simp only [World.run, hleft, hright]
    cases answer with
    | busy =>
      rw [hn]
      exact ⟨.done r, p₁, h, rfl, rfl⟩
    | panicked => exact ⟨.panicked, p₁, h, rfl, rfl⟩
    | ended result =>
      have hrest := h.guest_eq_none_iff
      obtain ⟨ended, p₂, h₂, hrun⟩ := ih result p₁ (h.local hs) (fun hg => hd (mt hrest.1 hg))
        fun hg => hd' (mt hrest.1 hg)
      exact ⟨ended, p₂, h.trans h₂, hrun⟩

/-- **A use of the instance is answered alike in both worlds.** -/
theorem perform (p : Pair σ n) (hs : p.slot.Local) {u : Use}
    (hu : u.owner = n) :
    ∃ ended p₁, p.Leads p₁ ∧ p.left.perform u.action = (ended, p₁.left) ∧
      p.right.perform u.action = (ended, p₁.right) := by
  subst hu
  obtain ⟨ended, p₁, h, hleft, hright⟩ := p.run hs u.asks (pos_of_guest p.left_guest?)
    (pos_of_guest p.right_guest?) ⟨#[], #[], #[], #[], #[]⟩
  exact ⟨ended, p₁, h, by simp only [World.perform, hleft], by simp only [World.perform, hright]⟩

end Pair

end World

end Embedder
