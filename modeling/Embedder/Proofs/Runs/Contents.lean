import Embedder.Proofs.Runs.Typing
import Embedder.Proofs.World.Entities

/-!
# What instances own, step by step

An instance owns what it owns whether it is running or at rest, and a step changes a global only if it
writes to it: an instruction of the instance itself does, or an operation of the host on the instance at
rest.

* `Point.guest?`, `Point.value?`, `Point.content?`: what an instance owns;
* `Machine.write?`, `Point.write?`: the global that a step writes, and what it writes;
* `Point.Typed.value?_next`: a step leaves every other global as it is;
* `Point.Typed.value?_next_of_write`: a global that is written has what was written to it.
-/

namespace Embedder

open Execution (Program Guest Machine Stop)
open Validation (Context)

variable {σ : Type}

/-! ### Instructions -/

namespace Execution.Machine

variable {p : Program} {m : Machine} {g : Guest} {c : Context} {results : List ValueType}

/-- The global that the next instruction writes, and its new value. -/
def write? (m : Machine) : Option (Nat × Cell) :=
  match m.current.code, m.current.stack with
  | .op (.globalSet i) _, x :: _ => some (i, x)
  | _, _ => none

lemma globals_onMemory (o : Op) (stack : List Cell) (g : Guest) :
    (onMemory o stack g).2.globals = g.globals := by
  unfold onMemory
  split
  all_goals
    simp -failIfUnchanged only
    repeat' split
  all_goals rfl

/-- One instruction on tables and globals writes a global. -/
lemma globals_onTable (o : Op) (stack : List Cell) (g : Guest) :
    (onTable o stack g).2.globals =
      match o, stack with
      | .globalSet i, x :: _ => g.globals.setIfInBounds i x
      | _, _ => g.globals := by
  unfold onTable
  split
  all_goals
    simp -failIfUnchanged only
    repeat' split
  all_goals rfl

/-- Its effect on the globals. -/
def written (g : Guest) : Option (Nat × Cell) → Array Cell
  | some (i, x) => g.globals.setIfInBounds i x
  | none => g.globals

lemma globals_stepOp (p : Program) (m : Machine) (g : Guest) (o : Op) (rest : Code)
    (hcode : m.current.code = .op o rest) :
    (stepOp p m g o rest).guest.globals = written g m.write? := by
  have hcontrol : (onControl p { m with current := { m.current with code := rest } } g o).guest.globals =
      g.globals := congrArg Guest.globals (guest_onControl ..)
  have hlocal : (onLocal m g rest o).guest.globals = g.globals :=
    congrArg Guest.globals (guest_onLocal ..)
  have hmemory : (after m rest (onMemory o m.current.stack g)).guest.globals = g.globals := by
    rw [guest_after, globals_onMemory]
  have htable : (after m rest (onTable o m.current.stack g)).guest.globals =
      written g m.write? := by
    rw [guest_after, globals_onTable, write?, hcode]
    cases o <;> first | rfl | cases m.current.stack <;> rfl
  have hstack : (after m rest (onStack o m.current.stack, g)).guest.globals = g.globals := by
    rw [guest_after]
  have hnone : (∀ i, o ≠ .globalSet i) → written g m.write? = g.globals := by
    intro hne
    rw [write?, hcode]
    cases o <;> first | rfl | exact absurd rfl (hne _)
  cases o
  all_goals first
    | exact htable
    | rw [hnone fun _ => (nomatch ·)]
      first | exact hcontrol | exact hlocal | exact hmemory | exact hstack

/-- **A step of code writes a global with one instruction only.** -/
theorem globals_step (p : Program) (m : Machine) (g : Guest) :
    (m.step p g).guest.globals = written g m.write? := by
  have hnone : (∀ i rest, m.current.code ≠ .op (.globalSet i) rest) →
      written g m.write? = g.globals := by
    intro hne
    unfold write?
    split
    · rename_i i rest x s hcode hstack
      exact absurd hcode (hne i rest)
    · rfl
  unfold step
  cases hcode : m.current.code with
  | done =>
    rw [hnone (by simp [hcode])]
    exact congrArg Guest.globals (guest_close ..)
  | op o rest => exact globals_stepOp p m g o rest hcode
  | block type body rest =>
    rw [hnone (by simp [hcode])]
    exact congrArg Guest.globals (guest_enter ..)
  | loop type body rest =>
    rw [hnone (by simp [hcode])]
    exact congrArg Guest.globals (guest_enterLoop ..)
  | ifThen type yes rest =>
    rw [hnone (by simp [hcode])]
    simp only
    split
    · split <;> exact congrArg Guest.globals (guest_enter ..)
    · rfl
  | ifElse type yes no rest =>
    rw [hnone (by simp [hcode])]
    simp only
    split
    · split <;> exact congrArg Guest.globals (guest_enter ..)
    · rfl

/-- Checked code writes mutable globals only, and values of their types. -/
lemma write?_typed {i : Nat} {x : Cell} (hm : m.Typed c [] results)
    (hw : m.write? = some (i, x)) :
    ∃ t, c.globals[i]? = some t ∧ t.mutable = true ∧ x.type = t.value := by
  obtain ⟨given, ⟨harity, labels, inner, hlabels, hcode⟩, hcallers⟩ := hm
  unfold write? at hw
  split at hw
  · rename_i i' rest x' s hi hs
    cases hw
    rw [hi, hs, List.reverse_nil, List.nil_append] at hcode
    obtain ⟨s', hop, -⟩ := Validation.Context.checks_op_iff.1 hcode
    obtain ⟨t, ht, hpop⟩ := Option.bind_eq_some_iff.1 hop
    split at hpop
    · rename_i hmutable
      obtain ⟨rest', htypes, -⟩ := Validation.Stack.pop_known_iff.1 hpop
      exact ⟨t, ht, hmutable, (List.cons.inj htypes).1⟩
    · cases hpop
  · cases hw

end Execution.Machine

/-! ### Operations and calls to the host -/

lemma World.globals_request (memory : Option Nat) (r : MemoryRequest) (g : Guest) :
    (World.request memory r g).2.globals = g.globals := by
  unfold World.request
  split
  all_goals first
    | rfl
    | simp only [Operation.perform]
      first | rfl | split <;> rfl

/-- The global of the instance that an operation writes, and its new value. -/
def Operation.write? (o : Operation) (g : Guest) : Option (Nat × Cell) :=
  match o with
  | .globalSet i v =>
    if (g.globals[i]?).any fun x => x.type == v.type then some (i, .ofValue v) else none
  | _ => none

lemma Operation.globals_perform (o : Operation) (g : Guest) :
    (o.perform g).2.globals = Machine.written g (o.write? g) := by
  cases o with
  | globalSet i v =>
    simp only [perform, write?]
    split <;> rfl
  | memoryGrow i delta | memoryWrite i start bytes =>
    simp only [perform]
    split <;> rfl
  | _ => rfl

/-- The system interface changes memories only. -/
lemma World.globals_callGenerated (n : Nat) (s : Wasi.Context) (memory : Option Nat)
    (v : Wasi.Version) (f : Wasi.Function) (cells : List Cell) (g : Guest) (w : World σ) :
    (callGenerated n s memory v f cells g w).guest.globals = g.globals ∧
      ∀ j, (callGenerated n s memory v f cells g w).world.guest? j = w.guest? j := by
  unfold callGenerated
  split
  · exact ⟨rfl, fun _ => rfl⟩
  · exact ⟨rfl, fun j => guest?_setContext ..⟩

/-- A function that is not one of the host, or cannot begin, changes no global and no other
instance. -/
lemma World.globals_hostCall_mute {w : World σ} {n k : Nat} {cells : List Cell}
    (h : w.opening? n k cells = none) (direct : Bool) (g : Guest) :
    (hostCall mute n direct k cells g w).guest.globals = g.globals ∧
      ∀ j, (hostCall mute n direct k cells g w).world.guest? j = w.guest? j := by
  obtain hcall | ⟨s, v, f, -, -, hcall⟩ := hostCall_of_no_opening h
  · rw [hcall]
    exact ⟨rfl, fun _ => rfl⟩
  · rw [hcall]
    exact globals_callGenerated ..

namespace Point

open World (Ended Calls hostCall callWithin request resultsOf mute answerOf)

/-! ### What an instance owns -/

/-- The state of an instance, running or at rest. -/
def held (running : List (Nat × Guest)) (w : World σ) (n : Nat) : Option Guest :=
  (running.lookup n).or (w.guest? n)

def guest? (c : Point σ) (n : Nat) : Option Guest := held c.running c.world n

/-- What a global holds. -/
def value? (c : Point σ) (x : Address) : Option Cell :=
  (c.guest? x.owner).bind fun g => g.globals[x.index]?

/-- What a memory, a global or a table is. -/
def content? (c : Point σ) (s : Space) (x : Address) : Option Content :=
  (c.guest? x.owner).bind fun g => g.content? s x.index

/-- The globals of an instance. -/
def globals? (running : List (Nat × Guest)) (w : World σ) (n : Nat) : Option (Array Cell) :=
  (held running w n).map Guest.globals

section Held

variable {contexts : Nat → Context} {running rest : List (Nat × Guest)} {w v : World σ} {n k : Nat}
  {g g' : Guest} {ws : List (Waiting σ)} {p : Program}

lemma held_cons_self : held ((n, g) :: rest) w n = some g := by
  simp [held, List.lookup_cons_self]

lemma held_cons_of_ne (h : k ≠ n) : held ((n, g) :: rest) w k = held rest w k := by
  simp [held, List.lookup_cons, beq_false_of_ne h]

lemma held_nil : held [] w n = w.guest? n := rfl

lemma held_of_guest? (h : ∀ n, v.guest? n = w.guest? n) : held running v n = held running w n := by
  rw [held, h, held]

lemma globals?_setInnermost (h : g'.globals = g.globals) (k : Nat) :
    globals? ((n, g') :: rest) w k = globals? ((n, g) :: rest) w k := by
  by_cases hk : k = n
  · subst hk
    rw [globals?, held_cons_self, globals?, held_cons_self, Option.map_some, Option.map_some, h]
  · rw [globals?, held_cons_of_ne hk, globals?, held_cons_of_ne hk]

/-- An instance at rest is not running. -/
lemma Fits.lookup_eq_none (h : Fits contexts running w) (hg : w.guest? n = some g) :
    running.lookup n = none := by
  rw [List.lookup_eq_none_iff]
  intro x hx
  by_contra heq
  have hn : n = x.1 := by simpa using heq
  rw [((h.mem_iff n).1 (List.mem_map.2 ⟨x, hx, hn.symm⟩)).2] at hg
  cases hg

/-- An instance owns the same when it begins to run. -/
lemma Fits.held_push (h : Fits contexts running w) (hg : w.guest? n = some g) (k : Nat) :
    held ((n, g) :: running) (w.setGuest n none) k = held running w k := by
  by_cases hk : k = n
  · subst hk
    rw [held_cons_self, held, h.lookup_eq_none hg, hg]
    rfl
  · rw [held_cons_of_ne hk, held, World.guest?_setGuest, if_neg fun hn => hk hn.1.symm, held]

/-- It owns the same when it is put back. -/
lemma Fits.held_pop (h : Fits contexts ((n, g) :: rest) w) (k : Nat) :
    held rest (w.setGuest n (some g)) k = held ((n, g) :: rest) w k := by
  have hsize := ((h.mem_iff n).1 (by simp)).1
  have hback := World.guest?_setGuest w n (some g) n
  rw [if_pos ⟨rfl, hsize⟩] at hback
  rw [← h.pop.held_push hback k, World.setGuest_setGuest]
  by_cases hk : k = n
  · subst hk
    rw [held_cons_self, held_cons_self]
  · rw [held_cons_of_ne hk, held_cons_of_ne hk, held, held, World.guest?_setGuest,
      if_neg fun hn => hk hn.1.symm]

/-- The instances that were there before own the same when another one has been made or not. -/
lemma held_made (m : Module) (r : Except Stop (List Cell)) (hn : n + 1 = w.slots.size)
    (hk : k < n) : held [] (made m r n g w) k = held [(n, g)] w k := by
  rw [held_cons_of_ne (Nat.ne_of_lt hk), held_nil, held_nil]
  unfold made
  split
  · exact World.guest?_settle w _ g (Nat.ne_of_gt hk)
  · exact World.guest?_dropSlot w (by omega)

lemma held_addSlot {m : Module} {ps : List (Provided σ)} {s : Wasi.Context}
    (hk : k < w.slots.size) :
    held [(w.slots.size, g)] (w.addSlot m ps s) k = held [] w k := by
  rw [held_cons_of_ne (Nat.ne_of_lt hk), held_nil, held_nil, World.guest?_addSlot w m ps s hk]

lemma globals?_of_held {running' : List (Nat × Guest)} (h : held running' v k = held running w k) :
    globals? running' v k = globals? running w k := congrArg (Option.map Guest.globals) h

/-! ### One step -/

lemma globals?_callImport (direct : Bool) (i : Nat) (cells : List Cell) (ws : List (Waiting σ))
    (k : Nat) :
    let c := callImport direct i cells ws n g rest w
    globals? c.running c.world k = globals? ((n, g) :: rest) w k := by
  unfold callImport
  cases ho : w.opening? n i cells with
  | some opened => rfl
  | none =>
    obtain ⟨hglobals, hothers⟩ := World.globals_hostCall_mute ho direct g
    simp only
    rw [globals?_setInnermost hglobals]
    exact globals?_of_held (held_of_guest? hothers)

lemma globals?_enter (f : Address) (p : Program) (arguments : List Value) (ws : List (Waiting σ))
    (k : Nat) :
    let c := enter f p arguments ws g rest w
    globals? c.running c.world k = globals? ((f.owner, g) :: rest) w k := by
  unfold enter
  simp only
  split
  · split
    · exact globals?_callImport ..
    · rfl
  · rename_i htakes
    simp only [World.enter, htakes, Bool.false_eq_true, if_false]

/-- The effect of a write on the globals of the instance `k`. -/
def written (k : Nat) (xs : Array Cell) : Option (Address × Cell) → Array Cell
  | some (x, cell) => if x.owner = k then xs.setIfInBounds x.index cell else xs
  | none => xs

lemma globals?_operate (h : Fits contexts running w) (owner : Nat) (o : Operation) (k : Nat) :
    globals? running (w.operate owner o).2 k = (globals? running w k).map fun xs =>
      written k xs (((w.guest? owner).bind o.write?).map fun x => (⟨owner, x.1⟩, x.2)) := by
  cases hg : w.guest? owner with
  | none =>
    simp only [World.operate, hg, Option.bind_none, Option.map_none, written, Option.map_id']
  | some g =>
    have hsize := World.lt_size_of_guest? w owner hg
    rw [World.operate_of_guest? w owner hg]
    simp only [Option.bind_some, globals?, held, World.guest?_setGuest, hsize, and_true]
    by_cases hk : owner = k
    · subst hk
      simp only [h.lookup_eq_none hg, hg, if_true, Option.none_or, Option.map_some, o.globals_perform]
      cases o.write? g with
      | none => rfl
      | some x => simp only [Machine.written, Option.map_some, written, if_true]
    · simp only [hk, if_false]
      cases o.write? g with
      | none => simp only [Option.map_none, written, Option.map_id']
      | some x => simp only [Option.map_some, written, hk, if_false, Option.map_id']

end Held

/-- The global that the next step writes, and what it writes. -/
def write? (c : Point σ) : Option (Address × Cell) :=
  match c.turn, c.running with
  | .action _ (.operate owner o _), _ =>
    ((c.world.guest? owner).bind o.write?).map fun x => (⟨owner, x.1⟩, x.2)
  | .code _ (_ + 1) m, (n, _) :: _ => m.write?.map fun x => (⟨n, x.1⟩, x.2)
  | _, _ => none

variable {contexts : Nat → Context} {first k : Nat} {c c' : Point σ}

/-- An action writes a global only by an operation. -/
lemma globals?_act {running : List (Nat × Guest)} {w : World σ} (hw : Fits contexts running w)
    (memory : Option Nat) (a : Action σ (List Value)) (ws : List (Waiting σ)) (k : Nat) :
    globals? (act memory ws running w a).running (act memory ws running w a).world k =
      (globals? running w k).map fun xs => written k xs (write? ⟨.action memory a, ws, running, w⟩) := by
  have hfinish : ∀ e : Ended (List Value),
      globals? (finish e running w ws).running (finish e running w ws).world k =
        globals? running w k := by
    intro e
    unfold finish
    split <;> rfl
  cases a with
  | operate owner o next => exact globals?_operate hw owner o k
  | done values | fail message | panic =>
    simp only [write?, written, Option.map_id']
    exact hfinish _
  | update change next =>
    simp only [write?, written, Option.map_id']
    exact globals?_of_held (held_of_guest? fun _ => rfl)
  | memory r next =>
    simp only [write?, written, Option.map_id']
    cases running with
    | nil => rfl
    | cons x rest => exact globals?_setInnermost (World.globals_request ..) k
  | call f arguments next =>
    simp only [write?, written, Option.map_id', act]
    split
    · rfl
    · rename_i p g hentered
      obtain ⟨s, hs, hg⟩ := Option.bind_eq_some_iff.1 hentered
      obtain ⟨g', hg, heq⟩ := Option.map_eq_some_iff.1 hg
      cases heq
      have hguest : w.guest? f.owner = some g := Option.bind_eq_some_iff.2 ⟨s, hs, hg⟩
      rw [globals?_enter]
      exact globals?_of_held (hw.held_push hguest k)

/-- Code writes a global by an instruction of its own. -/
lemma globals?_compute {n : Nat} {g : Guest} {rest : List (Nat × Guest)} {w : World σ} (p : Program)
    (fuel : Nat) (m : Machine) (ws : List (Waiting σ)) (k : Nat) :
    let c := compute p fuel m ws w ((n, g) :: rest)
    globals? c.running c.world k = (globals? ((n, g) :: rest) w k).map fun xs =>
      written k xs (write? ⟨.code p fuel m, ws, (n, g) :: rest, w⟩) := by
  cases fuel with
  | zero =>
    simp only [write?, written, Option.map_id']
    rfl
  | succ fuel =>
    have hstep := Machine.globals_step p m g
    have hafter : ∀ g' : Guest, g'.globals = Machine.written g m.write? →
        globals? ((n, g') :: rest) w k = (globals? ((n, g) :: rest) w k).map fun xs =>
          written k xs (m.write?.map fun x => (⟨n, x.1⟩, x.2)) := by
      intro g' hg'
      by_cases hk : k = n
      · subst hk
        simp only [globals?, held_cons_self, Option.map_some, hg']
        cases m.write? with
        | none => rfl
        | some x => simp only [Machine.written, Option.map_some, written, if_true]
      · simp only [globals?, held_cons_of_ne hk]
        cases m.write? with
        | none => simp only [Option.map_none, written, Option.map_id']
        | some x => simp only [Option.map_some, written, Ne.symm hk, if_false, Option.map_id']
    simp only [compute, write?]
    cases hs : m.step p g with
    | next m' g' | finished cells g' | fault f g' =>
      rw [hs] at hstep
      exact hafter g' hstep
    | host i cells m' g' =>
      rw [hs] at hstep
      simp only
      rw [globals?_callImport]
      exact hafter g' hstep

/-- **A step writes at most one global.** -/
theorem Typed.globals?_next (h : c.Typed contexts first) (hn : c.next = some c') (hk : k < first) :
    globals? c'.running c'.world k =
      (globals? c.running c.world k).map fun xs => written k xs c.write? := by
  obtain ⟨turn, ws, running, w⟩ := c
  obtain ⟨hplaced, hfits⟩ := h
  simp only at hplaced hfits ⊢
  generalize hns : running.map Prod.fst = ns at hplaced
  cases hplaced with
  | host hf => cases hn
  | action memory a hs =>
    cases hn
    exact globals?_act hfits memory a ws k
  | code fuel hp hm hs =>
    obtain ⟨⟨n, g⟩, rest, rfl, rfl, rfl⟩ := List.map_eq_cons_iff.1 hns
    cases hn
    exact globals?_compute _ fuel _ ws k
  | @ended _ _ r _ hr hs =>
    cases hn
    simp only [write?, written, Option.map_id']
    cases hs with
    | code fuel hp hm h => cases r <;> rfl
    | action memory next n types h =>
      obtain ⟨⟨n, g⟩, rest, rfl, rfl, rfl⟩ := List.map_eq_cons_iff.1 hns
      exact globals?_of_held (hfits.held_pop k)
    | start m types hn hf =>
      obtain ⟨⟨n, g⟩, rest, rfl, rfl, hrest⟩ := List.map_eq_cons_iff.1 hns
      obtain rfl := List.map_eq_nil_iff.1 hrest
      exact globals?_of_held (held_made m _ hn (Nat.lt_of_lt_of_le hk hf))

lemma value?_eq (c : Point σ) (x : Address) :
    c.value? x = (globals? c.running c.world x.owner).bind fun xs => xs[x.index]? := by
  rw [value?, guest?, globals?, Option.bind_map]
  rfl

/-- **A step leaves every global as it is that it does not write.** -/
theorem Typed.value?_next (h : c.Typed contexts first) (hn : c.next = some c') {x : Address}
    (hx : x.owner < first) (hw : ∀ cell, c.write? ≠ some (x, cell)) : c'.value? x = c.value? x := by
  rw [value?_eq, h.globals?_next hn hx, value?_eq]
  cases globals? c.running c.world x.owner with
  | none => rfl
  | some xs =>
    simp only [Option.map_some, Option.bind_some]
    cases hwrite : c.write? with
    | none => rfl
    | some y =>
      obtain ⟨⟨n, i⟩, cell⟩ := y
      simp only [written]
      split
      · rename_i hn
        subst hn
        have hi : i ≠ x.index := by
          rintro rfl
          exact hw cell hwrite
        rw [Array.getElem?_setIfInBounds_ne hi]
      · rfl

/-- A global that is written holds what was written. -/
theorem Typed.value?_next_of_write (h : c.Typed contexts first) (hn : c.next = some c')
    {x : Address} {cell old : Cell} (hx : x.owner < first) (hw : c.write? = some (x, cell))
    (hold : c.value? x = some old) : c'.value? x = some cell := by
  rw [value?_eq] at hold ⊢
  rw [h.globals?_next hn hx, hw]
  obtain ⟨xs, hxs, hi⟩ := Option.bind_eq_some_iff.1 hold
  obtain ⟨hlt, -⟩ := Array.getElem?_eq_some_iff.1 hi
  simp [hxs, written, hlt]

end Point

end Embedder
