import Embedder.Wasi.Function.Streams

/-!
Time, chance, and waiting for what comes first.

* `Calling.clockTime`, `Calling.clockResolution`: clocks;
* `Calling.randomBytes`: bytes of chance;
* `Calling.poll`: waits for the first of several events. No time goes by where nobody looks at a clock,
  so what comes first is what has the shortest time to go.
-/

namespace Embedder.Wasi.Calling

/-! ### Clocks and chance -/

/-- The clocks that count computing time do not exist. -/
def clock (number : Nat) : Calling Clock :=
  match number with
  | 0 => pure .wall
  | 1 => pure .steady
  | 2 | 3 => fail .badDescriptor
  | _ => fail .invalid

/-- What a clock shows. -/
def now (clock : Clock) : Calling Nat := do
  let c ← context
  setContext { c with looks := c.looks + 1 }
  return (← system).surroundings.clock clock c.looks

def clockTime (number result : Nat) : Calling Unit := do
  writeWord 8 result (← now (← clock number))

def clockResolution (number result : Nat) : Calling Unit := do
  let _ ← clock number
  writeWord 8 result 1

/-- Bytes of chance. -/
def draw (length : Nat) : Calling (List UInt8) := do
  let c ← context
  setContext { c with drawn := c.drawn + length }
  let chance := (← system).surroundings.chance
  return (List.range length).map fun k => chance (c.drawn + k)

def randomBytes (start length : Nat) : Calling Unit := do
  if length = 0 then pure ()
  else
    checkRange start length
    writeBytes start (← draw length)

/-! ### Events -/

/-- What a program waits for: that a time has come, or that a descriptor can be read or written. -/
inductive Wish where
  | time (clock : Nat) (timeout : Nat) (absolute : Bool)
  | readable (fd : Nat)
  | writable (fd : Nat)
  deriving DecidableEq

/-- What a program is told when the event has come, with the name that it has given to it. `delay` is
the time that there is to go. -/
structure Event where
  name : Nat
  kind : Nat
  delay : Nat
  count : Nat
  hangup : Bool
  deriving DecidableEq

/-- The sizes of a wish, and where the number of its clock stands. The older snapshot has another name
before it. -/
def wishLayout (v : Version) : Nat × Nat :=
  match v.resolve with
  | .snapshot0 => (56, 24)
  | _ => (48, 16)

def readWish (v : Version) (start : Nat) : Calling (Nat × Wish) := do
  let name ← readWord 8 start
  match ← readWord 1 (start + 8) with
  | 0 =>
    let base := start + (wishLayout v).2
    let clock ← readWord 4 base
    if 4 ≤ clock then fail .invalid
    else
      let timeout ← readWord 8 (base + 8)
      let _ ← readWord 8 (base + 16)
      let flags ← readWord 2 (base + 24)
      if 2 ≤ flags then fail .invalid else return (name, .time clock timeout (flags.testBit 0))
  | 1 => return (name, .readable (← readWord 4 (start + 16)))
  | 2 => return (name, .writable (← readWord 4 (start + 16)))
  | _ => fail .invalid

/-- The clocks that can be waited for. -/
def timer (number : Nat) : Calling Clock :=
  match number with
  | 0 => pure .wall
  | 1 => pure .steady
  | _ => fail .invalid

/-- The time to go until a clock shows a time. -/
def timeLeft (number timeout : Nat) (absolute : Bool) : Calling Nat := do
  let clock ← timer number
  if absolute then return timeout - (← now clock) else return timeout

def eventOf (name : Nat) : Wish → Calling Event
  | .time clock timeout absolute => do
    return ⟨name, 0, ← timeLeft clock timeout absolute, 0, false⟩
  | .readable fd => do
    match ← descriptor fd with
    | .input => return ⟨name, 1, 0, 1, false⟩
    | .file f => return ⟨name, 1, 0, 1, decide ((← file f).length ≤ f.position)⟩
    | .output _ | .directory _ _ => fail .badDescriptor
  | .writable fd => do
    match ← descriptor fd with
    | .output _ | .file _ => return ⟨name, 2, 0, 1, false⟩
    | .input | .directory _ _ => fail .badDescriptor

def readEvents (v : Version) (start : Nat) : (count : Nat) → Calling (List Event)
  | 0 => pure []
  | count + 1 => do
    let (name, wish) ← readWish v start
    let e ← eventOf name wish
    return e :: (← readEvents v (start + (wishLayout v).1) count)

/-- The events that come first. -/
def first (es : List Event) : List Event :=
  es.filter fun e => es.all fun other => e.delay ≤ other.delay

def writeEvents (start : Nat) : List Event → Calling Unit
  | [] => pure ()
  | e :: rest => do
    writeFields start [⟨0, 8, e.name⟩, ⟨8, 2, 0⟩, ⟨10, 1, e.kind⟩, ⟨16, 8, e.count⟩,
      ⟨24, 2, if e.hangup then 1 else 0⟩]
    writeEvents (start + 32) rest

/-- Waiting for nothing but a time to pass is sleeping. -/
def pollMany (v : Version) (wishes events count result : Nat) : Calling Unit := do
  let es := first (← readEvents v wishes count)
  writeEvents events es
  writeWord 4 result es.length

def poll (v : Version) (wishes events count result : Nat) : Calling Unit := do
  if count = 0 then fail .invalid
  else if count = 1 then
    match ← readWish v wishes with
    | (name, .time _ _ false) =>
      writeEvents events [⟨name, 0, 0, 1, false⟩]
      writeWord 4 result 1
    | _ => pollMany v wishes events count result
  else pollMany v wishes events count result

end Embedder.Wasi.Calling
