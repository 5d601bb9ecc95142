import Embedder.Export.Global
import Embedder.Export.View
import Embedder.Proofs.World.Moment
import Embedder.Proofs.World.Relay

/-!
# Re-entrancy

A host reaches an instance through what it holds of its exports. Anything that needs the state of an
instance gets no answer while an operation on that instance is in progress. What code does meanwhile is
followed instruction by instruction, and it ends with a trap where one has no meaning here
(`Execution.Machine`).

* `Use`: what a host can do with an export, with its answers;
* `Use.Ready`: it passes the checks that need no instance;
* `Action.Asks`: an action that asks a single instance, and gives up with a certain answer exactly if
  it gets none;
* `Moment.reentrant_exactly_while_running`: which uses are refused at which moments, and what
  becomes of the others.
-/

namespace Embedder

open Execution (Guest Stop)

variable {σ α β : Type}

/-! ### Uses of exports -/

/-- What a host can do with an export of an instance. -/
inductive Use where
  | call (h : Handle FunctionType) (arguments : List Value)
  | memorySize (h : Handle MemoryType)
  | memoryByteSize (h : Handle MemoryType)
  | memoryGrow (h : Handle MemoryType) (delta : Nat)
  | memoryRead (h : Handle MemoryType) (start length : Nat)
  | memoryWrite (h : Handle MemoryType) (start : Nat) (bytes : List UInt8)
  | viewLength (v : View)
  | viewIsEmpty (v : View)
  | viewGet (v : View) (index : Nat)
  | viewSet (v : View) (index : Nat) (n : Int)
  | viewToList (v : View)
  | globalGet (h : Handle GlobalType)
  | globalSet (h : Handle GlobalType) (v : Value)
  | tableSize (h : Handle TableType)

namespace Use

abbrev Answer : Use → Type
  | .call _ _ => Except CallError (List Value)
  | .memorySize _ | .memoryByteSize _ | .memoryGrow _ _ | .viewLength _ => Except MemoryError Nat
  | .memoryRead _ _ _ => Except MemoryError (List UInt8)
  | .memoryWrite _ _ _ | .viewSet _ _ _ => Except MemoryError Unit
  | .viewIsEmpty _ => Except MemoryError Bool
  | .viewGet _ _ => Except MemoryError Int
  | .viewToList _ => Except MemoryError (List Int)
  | .globalGet _ => Except GlobalError Value
  | .globalSet _ _ => Except GlobalError Unit
  | .tableSize _ => Option Nat

def action : (u : Use) → Action σ u.Answer
  | .call h arguments => h.call arguments
  | .memorySize h => h.size
  | .memoryByteSize h => h.byteSize
  | .memoryGrow h delta => h.grow delta
  | .memoryRead h start length => h.read start length
  | .memoryWrite h start bytes => h.write start bytes
  | .viewLength v => v.length
  | .viewIsEmpty v => v.isEmpty
  | .viewGet v index => v.get index
  | .viewSet v index n => v.set index n
  | .viewToList v => v.toList
  | .globalGet h => h.get
  | .globalSet h v => h.set v
  | .tableSize h => h.elementCount

/-- The answer that tells of a running instance. -/
def reentrant : (u : Use) → u.Answer
  | .call _ _ => .error .reentrant
  | .memorySize _ | .memoryByteSize _ | .memoryGrow _ _ | .viewLength _ => .error .reentrant
  | .memoryRead _ _ _ => .error .reentrant
  | .memoryWrite _ _ _ | .viewSet _ _ _ => .error .reentrant
  | .viewIsEmpty _ => .error .reentrant
  | .viewGet _ _ => .error .reentrant
  | .viewToList _ => .error .reentrant
  | .globalGet _ => .error .reentrant
  | .globalSet _ _ => .error .reentrant
  | .tableSize _ => none

/-- The instance whose export is used. -/
def owner : Use → Nat
  | .call h _ => h.address.owner
  | .memorySize h | .memoryByteSize h | .memoryGrow h _ | .memoryRead h _ _ | .memoryWrite h _ _ =>
    h.address.owner
  | .viewLength v | .viewIsEmpty v | .viewGet v _ | .viewSet v _ _ | .viewToList v =>
    v.memory.address.owner
  | .globalGet h | .globalSet h _ => h.address.owner
  | .tableSize h => h.address.owner

/-- The use passes the checks that need no instance: the signature of a call, the mutability and
the type of a global, and that an index of a view stands for an address. -/
def Ready : Use → Prop
  | .call h arguments => h.type.fault? arguments = none
  | .globalSet h v => h.type.mutable = true ∧ v.type = h.type.value
  | .viewGet v index | .viewSet v index _ => index * v.element.width + v.offset < View.addressLimit
  | _ => True

end Use

/-! ### Actions that ask one instance -/

/-- The action asks nobody but the instance `owner`, and it ends with `r` exactly if it gets no
answer. -/
inductive Action.Asks (owner : Nat) (r : α) : Action σ α → Prop
  | done {a : α} (h : a ≠ r) : Asks owner r (.done a)
  | operate {o : Operation} {next : Option o.Result → Action σ α} (hn : next none = .done r)
      (hs : ∀ a, Asks owner r (next (some a))) : Asks owner r (.operate owner o next)
  | call {f : Address} {arguments : List Value}
      {next : Option (Except Stop (List Cell)) → Action σ α} (hf : f.owner = owner)
      (hn : next none = .done r) (hs : ∀ a, Asks owner r (next (some a))) :
      Asks owner r (.call f arguments next)

/-- Going on with the answer of such an action asks the same instance, if nothing else is asked. -/
lemma Action.Asks.bind {owner : Nat} {a : Action σ α} {r : α} {f : α → Action σ β} {r' : β}
    (ha : a.Asks owner r) (hr : f r = .done r') (hf : ∀ x, x ≠ r → (f x).Asks owner r') :
    (a.bind f).Asks owner r' := by
  induction ha with
  | done h => exact hf _ h
  | operate hn hs ih => exact .operate (by rw [hn]; exact hr) ih
  | call ho hn hs ih => exact .call ho (by rw [hn]; exact hr) ih

/-- So does turning its answer into another one. -/
lemma Action.Asks.map {ε : Type} {owner : Nat} {a : Action σ (Except ε α)} {e : ε}
    (ha : a.Asks owner (.error e)) (f : α → β) :
    (a.bind fun x => .done (x.map f)).Asks owner (.error e) := by
  refine ha.bind rfl fun x hx => ?_
  cases x with
  | error e' => exact .done fun he => hx (congrArg _ (Except.error.inj he))
  | ok y => exact .done (nomatch ·)

lemma CallError.results_ne_reentrant (t : FunctionType) (a : Except Stop (List Cell)) :
    CallError.results t (some a) ≠ .error .reentrant := by
  cases a with
  | error s => cases s <;> simp [CallError.results, CallError.ofStop]
  | ok cells =>
    simp only [CallError.results]
    split <;> simp

lemma View.lt_addressLimit_iff (v : View) (index : Nat) :
    index * v.element.width + v.offset < addressLimit ↔ ∃ start, v.address index = .ok start := by
  unfold address
  simp only
  split <;> simp_all

namespace Use

variable (h : Handle MemoryType)

lemma asks_size : (h.size : Action σ _).Asks h.address.owner (.error .reentrant) :=
  .operate rfl fun n => .done (by simp)

lemma asks_byteSize : (h.byteSize : Action σ _).Asks h.address.owner (.error .reentrant) :=
  (asks_size h).map _

lemma asks_read (start length : Nat) :
    (h.read start length : Action σ _).Asks h.address.owner (.error .reentrant) := by
  refine .operate rfl fun a => ?_
  cases a <;> exact .done (by simp)

lemma asks_write (start : Nat) (bytes : List UInt8) :
    (h.write start bytes : Action σ _).Asks h.address.owner (.error .reentrant) := by
  refine .operate rfl fun a => ?_
  cases a <;> exact .done (by simp)

lemma asks_length (v : View) :
    (v.length : Action σ _).Asks v.memory.address.owner (.error .reentrant) :=
  (asks_byteSize v.memory).map _

/-- The check of an index does not look like a running instance. -/
lemma address_ne_reentrant {β : Type} {v : View} {index : Nat} {e : MemoryError}
    (h : v.address index = .error e) : (.error e : Except MemoryError β) ≠ .error .reentrant := by
  unfold View.address at h
  simp only at h
  split at h <;> cases h
  simp

/-- A use asks the instance whose export it is. -/
theorem asks (u : Use) : (u.action : Action σ u.Answer).Asks u.owner u.reentrant := by
  cases u with
  | call h arguments =>
    simp only [action, Handle.call]
    cases h.type.fault? arguments with
    | some f => exact .done (by simp [reentrant])
    | none => exact .call rfl rfl fun a => .done (CallError.results_ne_reentrant h.type a)
  | memorySize h => exact asks_size h
  | memoryByteSize h => exact asks_byteSize h
  | memoryGrow h delta =>
    refine .operate rfl fun a => ?_
    cases a <;> exact .done (by simp [reentrant])
  | memoryRead h start length => exact asks_read h start length
  | memoryWrite h start bytes => exact asks_write h start bytes
  | viewLength v => exact asks_length v
  | viewIsEmpty v => exact (asks_length v).map _
  | viewGet v index =>
    simp only [action, View.get]
    cases ha : v.address index with
    | error e => exact .done (address_ne_reentrant ha)
    | ok start => exact (asks_read v.memory start v.element.width).map _
  | viewSet v index n =>
    simp only [action, View.set]
    cases ha : v.address index with
    | error e => exact .done (address_ne_reentrant ha)
    | ok start => exact asks_write v.memory start (v.element.encode n)
  | viewToList v =>
    refine (asks_byteSize v.memory).bind rfl fun x hx => ?_
    cases x with
    | error e => exact .done fun he => hx (congrArg _ (Except.error.inj he))
    | ok size =>
      simp only
      split
      · exact .done (by simp [reentrant])
      · exact (asks_read v.memory v.offset (size - v.offset)).map _
  | globalGet h =>
    refine .operate rfl fun cell => ?_
    simp only
    cases cell.toValue? <;> exact .done (by simp [reentrant])
  | globalSet h v =>
    simp only [action, Handle.set]
    split
    · split
      · exact .operate rfl fun a => .done (by simp [reentrant])
      · exact .done (by simp [reentrant])
    · exact .done (by simp [reentrant])
  | tableSize h => exact .operate rfl fun n => .done (by simp [reentrant])

/-- A use that is ready needs its instance; one that is not is answered without it. -/
theorem ready_iff (u : Use) : u.Ready ↔ ∀ a, (u.action : Action σ u.Answer) ≠ .done a := by
  cases u with
  | call h arguments =>
    simp only [Ready, action, Handle.call]
    cases h.type.fault? arguments <;> simp
  | globalSet h v =>
    simp only [Ready, action, Handle.set]
    split
    · rename_i hm
      split <;> simp_all
    · simp_all
  | viewGet v index =>
    simp only [Ready, action, View.get]
    rw [View.lt_addressLimit_iff]
    cases v.address index with
    | error e => simp
    | ok start => exact ⟨fun _ a => (nomatch ·), fun _ => ⟨start, rfl⟩⟩
  | viewSet v index n =>
    simp only [Ready, action, View.set]
    rw [View.lt_addressLimit_iff]
    cases v.address index with
    | error e => simp
    | ok start => exact ⟨fun _ a => (nomatch ·), fun _ => ⟨start, rfl⟩⟩
  | _ => exact ⟨fun _ a => (nomatch ·), fun _ => trivial⟩

end Use

/-! ### How such an action ends -/

namespace Action

open World (run Calls Steady)

variable {owner : Nat} {r : α} {a : Action σ α} {calls : Calls σ}

/-- While the instance is running the action gives up, and nothing has changed. -/
lemma Asks.run_of_running (ha : a.Asks owner r) (hd : ∀ x, a ≠ .done x) {w : World σ}
    (hw : w.guest? owner = none)
    (hc : ∀ f arguments, f.owner = owner → calls f arguments w = (.busy, w))
    (memory : Option Nat) (g : Guest) : run calls memory a g w = (.done r, g, w) := by
  cases ha with
  | done h => exact absurd rfl (hd _)
  | operate hn hs => simp [run, World.operate, hw, hn]
  | call hf hn hs => simp [run, hc _ _ hf, hn]

/-- While the instance is at rest the action does not give up. -/
lemma Asks.run_of_atRest (ha : a.Asks owner r) (hs : Steady calls) {w : World σ}
    (hw : (w.guest? owner).isSome = true)
    (hc : ∀ f arguments v, f.owner = owner → v.outline = w.outline →
      (calls f arguments v).1 ≠ .busy)
    (memory : Option Nat) (g : Guest) : (run calls memory a g w).1 ≠ .done r := by
  induction ha generalizing w with
  | done h => simpa [run] using h
  | @operate o next hn hsome ih =>
    obtain ⟨g₀, hg⟩ := Option.isSome_iff_exists.1 hw
    have hout := World.outline_operate w owner o
    have hsome' : (w.operate owner o).1 = some (o.perform g₀).1 := by simp [World.operate, hg]
    simp only [run, hsome']
    refine ih _ ?_ fun f arguments v hv hvout => hc f arguments v hv (hvout.trans hout)
    rwa [World.isSome_guest?_congr _ owner hout]
  | @call f arguments next hf hn hsome ih =>
    have hne := hc f arguments w hf rfl
    have hout := hs f arguments w
    unfold run
    generalize calls f arguments w = answered at hne hout
    obtain ⟨answer, w'⟩ := answered
    cases answer with
    | busy => exact absurd rfl hne
    | panicked => simp
    | ended result =>
      refine ih result ?_ fun f arguments v hv hvout => hc f arguments v hv (hvout.trans hout)
      rwa [World.isSome_guest?_congr _ owner hout]

/-- The action uses no memory of a caller. -/
lemma Asks.run_eq (ha : a.Asks owner r) (memory : Option Nat) (g g' : Guest) (w : World σ) :
    run calls memory a g w =
      ((run calls none a g' w).1, g, (run calls none a g' w).2.2) := by
  induction ha generalizing w with
  | done h => rfl
  | @operate o next hn hs ih =>
    simp only [run]
    cases w.operate owner o with
    | mk answer w' =>
      cases answer with
      | none => simp [hn, run]
      | some x => exact ih x w'
  | @call f arguments next hf hn hs ih =>
    simp only [run]
    cases calls f arguments w with
    | mk answer w' =>
      cases answer with
      | busy => simp [hn, run]
      | panicked => rfl
      | ended result => exact ih result w'

end Action

/-- Running an action that goes on with the answer of another one. -/
theorem World.run_bind (calls : World.Calls σ) (memory : Option Nat) (a : Action σ α)
    (f : α → Action σ β) (g : Guest) (w : World σ) :
    World.run calls memory (a >>= f) g w =
      match World.run calls memory a g w with
      | (.done x, g, w) => World.run calls memory (f x) g w
      | (.failed message, g, w) => (.failed message, g, w)
      | (.panicked, g, w) => (.panicked, g, w) := by
  change World.run calls memory (a.bind f) g w = _
  induction a generalizing g w with
  | done x => rfl
  | fail message => rfl
  | panic => rfl
  | update change next ih => exact ih _ g _
  | memory r next ih => exact ih _ _ w
  | operate owner o next ih => exact ih _ g _
  | call h arguments next ih =>
    simp only [Action.bind, World.run]
    cases calls h arguments w with
    | mk answer w' =>
      cases answer with
      | busy => exact ih none g w'
      | panicked => rfl
      | ended r => exact ih (some r) g w'

namespace Moment

open World (callWithin)

/-! ### Uses at a moment -/

variable {t : Moment σ α} {u : Use}

lemma Sound.ends_of_running (ht : t.Sound) (hu : u.Ready) (hsize : u.owner < t.world.slots.size)
    (h : u.owner ∈ t.running) :
    (t.turn u.action).ends = (.done u.reentrant, t.guest, t.world) := by
  have hnone := (ht.running_iff _ hsize).2 h
  refine u.asks.run_of_running (u.ready_iff.1 hu) hnone (fun f arguments hf => ?_) t.memory t.guest
  exact World.callWithin_none _ arguments (by rwa [hf])

lemma Sound.ends_of_not_running (ht : t.Sound) (hsize : u.owner < t.world.slots.size)
    (h : u.owner ∉ t.running) : (t.turn u.action).ends.1 ≠ .done u.reentrant := by
  have hsome : (t.world.guest? u.owner).isSome = true :=
    Option.isSome_iff_ne_none.2 (mt (ht.running_iff _ hsize).1 h)
  refine u.asks.run_of_atRest (World.outline_callWithin _) hsome (fun f arguments v hf hv => ?_) _ _
  refine World.callWithin_ne_busy arguments ?_ ?_
  · rw [World.resting_congr _ hv]
    exact ht.resting_le
  · rw [hf, ← Option.isSome_iff_ne_none, World.isSome_guest?_congr _ _ hv]
    exact hsome

/-- What is not refused goes as it would at the outermost level. -/
lemma Sound.ends_eq_perform (ht : t.Sound) (u : Use) :
    (t.turn u.action).ends =
      ((t.world.perform u.action).1, t.guest, (t.world.perform u.action).2) := by
  unfold ends turn World.perform
  rw [u.asks.run_eq t.memory t.guest ⟨#[], #[], #[], #[], #[]⟩ t.world,
    World.run_callWithin_congr none u.action _ t.world ht.resting_le (Nat.le_refl _)]

/-- **Re-entrancy is detected exactly.** At every moment of whatever the host does, a use that is
ready is refused as re-entrant if and only if an operation on its instance is in progress. Then
nothing has changed, and the action that tried it goes on with that answer. A use of any other
instance goes as it would at the outermost level. When an outermost action has ended, in whatever
way, no use is refused. -/
theorem reentrant_exactly_while_running {w : World σ} (hw : World.Reached w) :
    (∀ {α : Type} (t : Moment σ α), t.Occurs w → ∀ u : Use, u.Ready →
      u.owner < t.world.slots.size →
      ((t.turn u.action).ends.1 = .done u.reentrant ↔ u.owner ∈ t.running) ∧
      (u.owner ∈ t.running →
        (t.turn u.action).ends = (.done u.reentrant, t.guest, t.world) ∧
        ∀ {β : Type} (next : u.Answer → Action σ β),
          (t.turn (u.action >>= next)).ends = (t.turn (next u.reentrant)).ends) ∧
      (u.owner ∉ t.running →
        (t.turn u.action).ends =
          ((t.world.perform u.action).1, t.guest, (t.world.perform u.action).2))) ∧
    ∀ {α : Type} (a : Action σ α) (u : Use), u.Ready → u.owner < w.slots.size →
      ((w.perform a).2.perform u.action).1 ≠ .done u.reentrant := by
  constructor
  · intro α t ht u hu hsize
    have hsound := ht.sound hw.atRest
    refine ⟨⟨fun h => ?_, fun h => ?_⟩, fun h => ?_, fun _ => hsound.ends_eq_perform u⟩
    · by_contra hno
      exact hsound.ends_of_not_running hsize hno h
    · rw [hsound.ends_of_running hu hsize h]
    · have hends := hsound.ends_of_running hu hsize h
      refine ⟨hends, fun next => ?_⟩
      unfold ends turn at hends ⊢
      rw [World.run_bind, hends]
  · intro α a u hu hsize
    have hreached : World.Reached (w.perform a).2 := hw.leads (.single (.perform w a))
    have hsound := (Occurs.perform (w := (w.perform a).2) (u.action (σ := σ))).sound hreached.atRest
    have hsize : u.owner < (w.perform a).2.slots.size := by
      rwa [World.size_congr _ (World.outline_perform w a)]
    exact hsound.ends_of_not_running hsize (by simp)

/-- A function of the host that calls itself through the first instance. -/
def selfCaller : HostFunction Unit :=
  ⟨⟨[], []⟩, false, fun _ => do
    let _ ← Handle.call ⟨⟨0, 0⟩, ⟨[], []⟩⟩ []
    return []⟩

/-- The world with the instance through which it does so. -/
def selfWorld : World Unit :=
  ((World.create () (.ofFiles .empty)).instantiate (.relay selfCaller.type (by decide))
    selfCaller.offer).2

lemma slots_selfWorld : selfWorld.slots = #[⟨(Module.relay selfCaller.type (by decide)).program,
    #[.host selfCaller], none, none, .empty, some ⟨#[], #[], #[], #[], #[]⟩⟩] := by
  rw [selfWorld, World.instantiate_relay]
  rfl

/-- A function that an instance has called is refused when it calls that instance. -/
theorem reentrant_self_call :
    ∃ t : Moment Unit (List Value), t.Occurs selfWorld ∧ t.running = [0] ∧
      (t.turn (Use.call ⟨⟨0, 0⟩, ⟨[], []⟩⟩ []).action).ends.1 = .done (.error .reentrant) := by
  have hreached : World.Reached selfWorld := ⟨(), _, .single (.instantiate ..)⟩
  have hresting : selfWorld.resting = 1 := by simp [World.resting, slots_selfWorld]
  have hcall : (⟨[], 1, none, Handle.call ⟨⟨0, 0⟩, ⟨[], []⟩⟩ [], ⟨#[], #[], #[], #[], #[]⟩,
      selfWorld⟩ : Moment Unit _).Occurs selfWorld := hresting ▸ .perform _
  have hinside := hcall.enter (.call (by rw [slots_selfWorld]; rfl) rfl (.direct rfl (by decide))
    (.intro (by simp [World.setGuest, slots_selfWorld]; rfl) rfl rfl rfl))
  have hready : (Use.call ⟨⟨0, 0⟩, ⟨[], []⟩⟩ []).Ready := rfl
  have hsize : 0 < (selfWorld.setGuest 0 none).slots.size := by simp [slots_selfWorld]
  have hiff := ((reentrant_exactly_while_running hreached).1 _ hinside _ hready hsize).1
  exact ⟨_, hinside, rfl, hiff.2 (by simp [Use.owner])⟩

end Moment

end Embedder
