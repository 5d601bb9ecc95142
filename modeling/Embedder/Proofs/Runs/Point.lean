import Embedder.Proofs.World.Phases

/-!
# Runs, step by step

A call may come to a call in turn, and so on. Here what is open is a stack: the deeds of the host, the
instructions of the guest and the ends of calls are single steps, and between any two of them there is
a state of everything that is running and of everything that is not.

* `Turn`, `Waiting`: what goes on, and what waits for the end of a call;
* `World.hostCall_of_no_opening`: a call to the host that begins no action of it;
* `Point`, `Point.next`: where a run stands, and its next step;
* `Point.Runs`: runs of a host whose actions are of a kind;
* `Point.Goes`: where a run goes without the host, and that there is one way to go.
-/

namespace Embedder

open Execution (Program Guest Machine Stop)
open Relation (ReflTransGen)

variable {σ : Type}

namespace World

/-- Calls that are never answered. -/
def mute : Calls σ := fun _ _ w => (.busy, w)

/-- What a function of the host gives to the code that called it. -/
def resultsOf (types : List ValueType) : Ended (List Value) → Except Stop (List Cell)
  | .done values => checkResults types values
  | .failed message => .error (.failed message)
  | .panicked => .error .panicked

/-- The function `k` of the instance is one of the host, with its arguments and the memory lent to it,
if it can begin. -/
def opening? (w : World σ) (owner k : Nat) (cells : List Cell) :
    Option (HostFunction σ × Option Nat × List Value) :=
  match (w.slots[owner]?).bind fun s => (s.imported[k]?).map fun f => (s, f) with
  | some (s, .host f) =>
    match cells.mapM Cell.toValue? with
    | some values =>
      if f.usesMemory && s.boundMemory.isNone then none
      else some (f, if f.usesMemory then s.boundMemory else none, values)
    | none => none
  | _ => none

/-- If no function of the host can begin, the call ends at once and changes nothing, or it is one of
the system interface. -/
lemma hostCall_of_no_opening {w : World σ} {owner k : Nat} {cells : List Cell}
    (h : w.opening? owner k cells = none) :
    (∀ (calls : Calls σ) (direct : Bool) (g : Guest),
      hostCall calls owner direct k cells g w =
        ⟨(hostCall mute owner false k cells g w).result, g, w⟩) ∨
    ∃ s v f, w.slots[owner]? = some s ∧ s.imported[k]? = some (.generated v f) ∧
      ∀ (calls : Calls σ) (direct : Bool) (g : Guest),
        hostCall calls owner direct k cells g w =
          callGenerated owner s.context (if direct then none else s.exportedMemory) v f cells g w := by
  unfold opening? at h
  cases hfound : (w.slots[owner]?).bind fun s => (s.imported[k]?).map fun f => (s, f) with
  | none => exact .inl fun _ _ _ => by simp only [hostCall, hfound]
  | some sf =>
    obtain ⟨s, imported⟩ := sf
    rw [hfound] at h
    cases imported with
    | host f =>
      cases hv : cells.mapM Cell.toValue? with
      | none => exact .inl fun _ _ _ => by simp only [hostCall, hfound, callHost, hv]
      | some values =>
        simp only [hv] at h
        split at h
        · rename_i hm
          exact .inl fun _ _ _ => by simp only [hostCall, hfound, callHost, hv, hm, if_true]
        · cases h
    | generated v f =>
      obtain ⟨s', hs, hf⟩ := Option.bind_eq_some_iff.1 hfound
      obtain ⟨_, hk, heq⟩ := Option.map_eq_some_iff.1 hf
      cases heq
      exact .inr ⟨_, v, f, hs, hk, fun _ _ _ => by simp only [hostCall, hfound]⟩

end World

/-! ### Points -/

/-- What has its turn: the host, between two of its deeds, an action of it or of one of its functions,
code of the guest, or what a call has ended with. -/
inductive Turn (σ : Type) where
  | host
  | action (memory : Option Nat) (a : Action σ (List Value))
  | code (p : Program) (fuel : Nat) (m : Machine)
  | ended (r : Except Stop (List Cell))

/-- What waits for the end of a call: code that has called the host, the results of a function of the
host, an action that has called an instance, or the making of an instance. -/
inductive Waiting (σ : Type) where
  | code (p : Program) (fuel : Nat) (m : Machine)
  | results (types : List ValueType)
  | action (memory : Option Nat) (next : Option (Except Stop (List Cell)) → Action σ (List Value))
  | start (m : Module)

/-- Where a run stands. `running` are the instances with an operation in progress and their states,
the innermost first. -/
structure Point (σ : Type) where
  turn : Turn σ
  waiting : List (Waiting σ)
  running : List (Nat × Guest)
  world : World σ

namespace Point

open World (Ended callHost hostCall request resultsOf mute answerOf CallAnswer)

/-- The host between two of its deeds. -/
def idle (w : World σ) : Point σ := ⟨.host, [], [], w⟩

/-! ### One step -/

/-- The state of the innermost instance that is running; the host itself owns nothing. -/
def innermost : List (Nat × Guest) → Guest
  | [] => ⟨#[], #[], #[], #[], #[]⟩
  | (_, g) :: _ => g

def setInnermost (g : Guest) : List (Nat × Guest) → List (Nat × Guest)
  | [] => []
  | (n, _) :: rest => (n, g) :: rest

/-- An action ends. -/
def finish (e : Ended (List Value)) (running : List (Nat × Guest)) (w : World σ) :
    List (Waiting σ) → Point σ
  | .results types :: ws => ⟨.ended (resultsOf types e), ws, running, w⟩
  | ws => ⟨.host, ws, running, w⟩

/-- The instance `n`, whose state is `g`, calls the function `k` of the host. -/
def callImport (direct : Bool) (k : Nat) (cells : List Cell) (ws : List (Waiting σ)) (n : Nat)
    (g : Guest) (rest : List (Nat × Guest)) (w : World σ) : Point σ :=
  match w.opening? n k cells with
  | some (f, memory, values) =>
    ⟨.action memory (f.body values), .results f.type.results :: ws, (n, g) :: rest, w⟩
  | none =>
    let o := hostCall mute n direct k cells g w
    ⟨.ended o.result, ws, (n, o.guest) :: rest, o.world⟩

/-- A function of the instance `f.owner`, whose state is `g`, is called from outside. -/
def enter (f : Address) (p : Program) (arguments : List Value) (ws : List (Waiting σ)) (g : Guest)
    (rest : List (Nat × Guest)) (w : World σ) : Point σ :=
  let cells := arguments.map Cell.ofValue
  if p.takes f.index cells then
    if f.index < p.imported then callImport true f.index cells ws f.owner g rest w
    else ⟨.code p p.steps (p.entry f.index cells), ws, (f.owner, g) :: rest, w⟩
  else
    let o := World.enter mute f p arguments g w
    ⟨.ended o.result, ws, (f.owner, o.guest) :: rest, o.world⟩

/-- An action takes a step. -/
def act (memory : Option Nat) (ws : List (Waiting σ)) (running : List (Nat × Guest)) (w : World σ) :
    Action σ (List Value) → Point σ
  | .done values => finish (.done values) running w ws
  | .fail message => finish (.failed message) running w ws
  | .panic => finish .panicked running w ws
  | .update change next =>
    let host := change w.host
    ⟨.action memory (next host), ws, running, { w with host }⟩
  | .memory r next =>
    let (a, g) := request memory r (innermost running)
    ⟨.action memory (next a), ws, setInnermost g running, w⟩
  | .operate owner o next =>
    let (a, w) := w.operate owner o
    ⟨.action memory (next a), ws, running, w⟩
  | .call f arguments next =>
    match (w.slots[f.owner]?).bind fun s => s.guest.map fun g => (s.program, g) with
    | none => ⟨.action memory (next none), ws, running, w⟩
    | some (p, g) =>
      enter f p arguments (.action memory next :: ws) g running (w.setGuest f.owner none)

/-- The code of the innermost instance takes a step. -/
def compute (p : Program) (fuel : Nat) (m : Machine) (ws : List (Waiting σ)) (w : World σ) :
    List (Nat × Guest) → Point σ
  | [] => ⟨.host, ws, [], w⟩
  | (n, g) :: rest =>
    match fuel with
    | 0 => ⟨.ended (.error .outOfFuel), ws, (n, g) :: rest, w⟩
    | fuel + 1 =>
      match m.step p g with
      | .next m g => ⟨.code p fuel m, ws, (n, g) :: rest, w⟩
      | .finished results g => ⟨.ended (.ok results), ws, (n, g) :: rest, w⟩
      | .fault f g => ⟨.ended (.error (.fault f)), ws, (n, g) :: rest, w⟩
      | .host k cells m g => callImport false k cells (.code p fuel m :: ws) n g rest w

/-- An action goes on with the answer to a call. -/
def reply (next : Option (Except Stop (List Cell)) → Action σ (List Value)) :
    CallAnswer → Action σ (List Value)
  | .busy => next none
  | .panicked => .panic
  | .ended r => next (some r)

/-- An instance rests for the first time, unless its start function stopped or the host cannot hold
its exports. -/
def made (m : Module) (r : Except Stop (List Cell)) (n : Nat) (g : Guest) (w : World σ) : World σ :=
  match r, m.exportsOf n with
  | .ok _, .ok _ => w.settle n m.boundMemory g
  | _, _ => w.dropSlot

/-- A call has ended, and what waits for it goes on. -/
def resume (r : Except Stop (List Cell)) (w : World σ) :
    List (Waiting σ) → List (Nat × Guest) → Point σ
  | .code p fuel m :: ws, running =>
    match r with
    | .ok results => ⟨.code p fuel (m.resume results), ws, running, w⟩
    | .error s => ⟨.ended (.error s), ws, running, w⟩
  | .action memory next :: ws, (n, g) :: rest =>
    ⟨.action memory (reply next (answerOf r)), ws, rest, w.setGuest n (some g)⟩
  | .start m :: ws, (n, g) :: rest => ⟨.host, ws, rest, made m r n g w⟩
  | ws, running => ⟨.host, ws, running, w⟩

/-- The next step, unless the host has its turn. -/
def next (c : Point σ) : Option (Point σ) :=
  match c.turn with
  | .host => none
  | .action memory a => some (act memory c.waiting c.running c.world a)
  | .code p fuel m => some (compute p fuel m c.waiting c.world c.running)
  | .ended r => some (resume r c.world c.waiting c.running)

/-! ### Runs -/

/-- The host performs an action. -/
def perform (w : World σ) (a : Action σ (List Value)) : Point σ := ⟨.action none a, [], [], w⟩

/-- The host makes an instance whose segments are in place. -/
def launch (w : World σ) (m : Module) (ps : List (Provided σ)) (s : Wasi.Context) (g : Guest) :
    Point σ :=
  let turn : Turn σ :=
    match m.definition.start with
    | none => .ended (.ok [])
    | some f => .code m.program m.engine.patience (m.program.entry f [])
  ⟨turn, [.start m], [(w.slots.size, g)], w.addSlot m ps s⟩

/-- A run goes on, or the host does something: it performs an action of the given kind, it makes an
instance with functions whose bodies are of that kind, or the system changes by itself. -/
inductive Step (P : Action σ (List Value) → Prop) : Point σ → Point σ → Prop
  | next {c c' : Point σ} (h : c.next = some c') : Step P c c'
  | perform (w : World σ) {a : Action σ (List Value)} (ha : P a) : Step P (idle w) (perform w a)
  | launch {w : World σ} {m : Module} {o : ImportObject σ} {s : Wasi.Context}
      {ps : List (Provided σ)} {g : Guest} (hp : w.Prepares m o s ps g)
      (hps : ∀ f, Provided.host f ∈ ps → ∀ values, P (f.body values)) :
      Step P (idle w) (launch w m ps s g)
  | system (w : World σ) (system : Wasi.System) : Step P (idle w) (idle { w with system })

/-- One step after another, of a host whose actions are of a kind. -/
def Runs (P : Action σ (List Value) → Prop) : Point σ → Point σ → Prop := ReflTransGen (Step P)

/-- One step after another, without the host. -/
def Goes : Point σ → Point σ → Prop := ReflTransGen fun c c' => c.next = some c'

variable {c c' c'' : Point σ} {P : Action σ (List Value) → Prop}

lemma Goes.trans (h : Goes c c') (h' : Goes c' c'') : Goes c c'' := ReflTransGen.trans h h'

/-- A step comes first. -/
lemma Goes.of_next (h : c.next = some c') (h' : Goes c' c'') : Goes c c'' := .head h h'

lemma Goes.runs (h : Goes c c') : Runs P c c' := by
  induction h with
  | refl => exact .refl
  | tail _ hn ih => exact ih.tail (.next hn)

lemma Step.mono {Q : Action σ (List Value) → Prop} (hPQ : ∀ a, P a → Q a) (h : Step P c c') :
    Step Q c c' := by
  cases h with
  | next hn => exact .next hn
  | perform w ha => exact .perform w (hPQ _ ha)
  | launch hp hps => exact .launch hp fun f hf values => hPQ _ (hps f hf values)
  | system w system => exact .system w system

lemma Runs.mono {Q : Action σ (List Value) → Prop} (hPQ : ∀ a, P a → Q a) (h : Runs P c c') :
    Runs Q c c' := by
  induction h with
  | refl => exact .refl
  | tail _ hs ih => exact ih.tail (hs.mono hPQ)

lemma Goes.idle_eq {w v : World σ} (h : Goes (idle w) (idle v)) : w = v := by
  cases ReflTransGen.cases_head h with
  | inl h => exact congrArg world h
  | inr h =>
    obtain ⟨_, hn, -⟩ := h
    cases hn

/-- There is one way to go. -/
lemma Goes.of_next_of_idle {w : World σ} (hn : c.next = some c') (h : Goes c (idle w)) :
    Goes c' (idle w) := by
  cases ReflTransGen.cases_head h with
  | inl h =>
    rw [h] at hn
    cases hn
  | inr h =>
    obtain ⟨c₁, hc₁, h⟩ := h
    rw [hn] at hc₁
    cases hc₁
    exact h

end Point

end Embedder
