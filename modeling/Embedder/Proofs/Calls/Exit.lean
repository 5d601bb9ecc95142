import Embedder.Proofs.Memories.Limits
import Embedder.Proofs.Modules.Compiling
import Embedder.Proofs.Typing.World
import Embedder.Proofs.Wasi.Plain

/-!
# Exits

A guest of the system interface ends by calling a function that does not return. The call of the host
that it runs in then answers with the status as an exit. Statuses of 126 and more are refused with a
failure instead, and so is a guest that does not export its memory, as every function of the system
interface asks for it. A call that comes to a vector or atomic instruction ends there with a trap, and an exit
behind it is not reached here.

* `World.hostCall_eq_exited`: only the function that exits ends a call of the host so;
* `Module.exitStop`: how that function ends a call;
* `Moment.ReachesExit`: a call comes to that function, after a number of steps;
* `Moment.ReachesExit.ends_eq`: what the host is then told, and what is left;
* `Moment.exit_exactly_at_procExit`: the host is told of an exit then, and at no other time.
-/

namespace Embedder

open Execution (Program Guest Machine Stop Outcome)
open Elementwise

variable {σ α : Type}

/-! ### What functions of the host end with -/

/-- How the function that exits ends the call of a guest that has a memory or not. -/
def Wasi.Function.exitStop (memory : Option Nat) (status : UInt32) : Stop :=
  if memory = none then noMemory
  else if status.toNat < Calling.statusLimit then .exited status.toNat
  else .engine statusMessage

lemma Wasi.Function.exitStop_ne_panicked (memory : Option Nat) (status : UInt32) :
    exitStop memory status ≠ .panicked := by
  unfold exitStop noMemory
  split
  · simp
  · split <;> simp

namespace World

variable {calls : Calls σ} {w : World σ} {g : Guest}

/-- A function of the system interface that exits is the one that is made for it, and its caller has
a memory. -/
lemma callGenerated_eq_exited {owner : Nat} {c : Wasi.Context} {memory : Option Nat}
    {v : Wasi.Version} {f : Wasi.Function} {cells : List Cell} {code : Nat}
    (h : (callGenerated owner c memory v f cells g w).result = .error (.exited code)) :
    memory ≠ none ∧ f = .procExit ∧ ∃ x, cells = [x] ∧ Wasi.Function.number x = code ∧
      code < Wasi.Calling.statusLimit := by
  unfold callGenerated at h
  split at h
  · cases h
  · rename_i i m hm
    refine ⟨?_, Wasi.Function.call_eq_exited h⟩
    rintro rfl
    cases hm

/-- Only a function of the system interface ends a call with an exit, or fails as the engine does. -/
lemma exists_generated_of_hostCall {owner k : Nat} {direct : Bool} {cells : List Cell} {e : Stop}
    (h : (hostCall calls owner direct k cells g w).result = .error e)
    (he : (∃ code, e = .exited code) ∨ ∃ message, e = .engine message) :
    ∃ s v f, w.slots[owner]? = some s ∧ s.imported[k]? = some (.generated v f) ∧
      (callGenerated owner s.context (if direct then none else s.exportedMemory) v f cells g
        w).result = .error e := by
  unfold hostCall at h
  split at h
  · cases h
    simp at he
  · obtain rfl | ⟨message, rfl⟩ := callHost_eq_error h
    all_goals simp at he
  · rename_i hfound
    obtain ⟨s, hs, hf⟩ := Option.bind_eq_some_iff.1 hfound
    obtain ⟨_, hk, heq⟩ := Option.map_eq_some_iff.1 hf
    cases heq
    exact ⟨_, _, _, hs, hk, h⟩

/-- **Only one imported function ends a call with an exit.** -/
theorem hostCall_eq_exited {owner k : Nat} {direct : Bool} {cells : List Cell} {code : Nat}
    (h : (hostCall calls owner direct k cells g w).result = .error (.exited code)) :
    direct = false ∧ ∃ s v, w.slots[owner]? = some s ∧ s.exportedMemory ≠ none ∧
      s.imported[k]? = some (.generated v .procExit) ∧
      ∃ x, cells = [x] ∧ Wasi.Function.number x = code ∧ code < Wasi.Calling.statusLimit := by
  obtain ⟨s, v, f, hs, hk, hcall⟩ := exists_generated_of_hostCall h (.inl ⟨code, rfl⟩)
  obtain ⟨hmemory, rfl, hx⟩ := callGenerated_eq_exited hcall
  cases direct with
  | true => exact absurd rfl hmemory
  | false => exact ⟨rfl, s, v, hs, hmemory, hk, hx⟩

lemma setContext_self {owner : Nat} {s : Slot σ} (hs : w.slots[owner]? = some s) :
    w.setContext owner s.context = w := by
  unfold setContext
  rw [Elementwise.modify_eq_self fun s' hs' => ?_]
  cases hs.symm.trans hs'
  rfl

/-- The function that exits changes nothing. -/
lemma hostCall_exit {owner k : Nat} {s : Slot σ} {v : Wasi.Version} (hs : w.slots[owner]? = some s)
    (hk : s.imported[k]? = some (.generated v .procExit))
    (hm : ∀ j, s.exportedMemory = some j → ∃ mem, g.memories[j]? = some mem) (status : UInt32) :
    hostCall calls owner false k [.i32 status] g w =
      ⟨.error (Wasi.Function.exitStop s.exportedMemory status), g, w⟩ := by
  have hcall : hostCall calls owner false k [.i32 status] g w =
      callGenerated owner s.context s.exportedMemory v .procExit [.i32 status] g w := by
    simp [hostCall, hs, hk]
  rw [hcall, callGenerated]
  cases hj : s.exportedMemory with
  | none => rfl
  | some j =>
    obtain ⟨mem, hmem⟩ := hm j hj
    have hsame : g.memories.setIfInBounds j mem = g.memories := by
      obtain ⟨hj, rfl⟩ := Array.getElem?_eq_some_iff.1 hmem
      rw [Array.setIfInBounds_def, dif_pos hj, Array.set_getElem_self]
    simp only [Option.bind_some, hmem, Option.map_some, Wasi.Function.call_exit, hsame]
    congr 1
    exact setContext_self hs

end World

/-! ### The end of a call -/

/-- How a call of a function of the module ends that comes to the function that exits. If the host
calls that function itself, then no code calls it that could have a memory. -/
def Module.exitStop (m : Module) (index : Nat) (status : UInt32) : Stop :=
  Wasi.Function.exitStop (if index < m.program.imported then none else m.exportedMemory) status

/-- Only an exit is told as one. -/
lemma CallError.results_eq_exit {type : FunctionType} {r : Except Stop (List Cell)} {code : Nat}
    (h : CallError.results type (some r) = .error (.exit code)) : r = .error (.exited code) := by
  cases r with
  | ok cells =>
    simp only [CallError.results] at h
    split at h <;> cases h
  | error s =>
    cases s with
    | exited code' =>
      cases h
      rfl
    | _ => cases h

lemma Cell.exists_i32 {x : Cell} (h : x.type = .i32) : ∃ n, x = .i32 n := by
  rcases x with (n | n | n | n | n) | _ | _ | _
  · exact ⟨n, rfl⟩
  all_goals cases h

/-- The memory that a module exports is one of its memories. -/
lemma Module.exists_memorySpace (m : Module) {j : Nat} (hj : m.exportedMemory = some j) :
    ∃ t, m.definition.memorySpace[j]? = some t := by
  obtain ⟨e, he, rfl⟩ := Option.map_eq_some_iff.1 hj
  have hspace : e.space = .memory := by
    have := List.find?_some he
    simp only [Bool.and_eq_true, beq_iff_eq] at this
    exact this.2
  obtain ⟨x, -, hx⟩ := exists_mem_of_forall₂ (mapM_eq_some_iff.1 m.exports_eq)
    (List.mem_of_find?_eq_some he)
  obtain ⟨t, ht, -⟩ := Option.map_eq_some_iff.1 hx
  rw [hspace] at ht
  obtain ⟨type, htype, -⟩ := Option.map_eq_some_iff.1 ht
  exact ⟨type, htype⟩

namespace Moment

open World (callWithin hostCall)

variable {t : Moment σ α} {h : Handle FunctionType} {arguments : List Value} {status : UInt32}
  {steps : Nat} {g : Guest} {v : World σ}

/-- The instance of a function is at rest, and the arguments fit, so that a call of it runs. -/
structure CallsAtRest (t : Moment σ α) (h : Handle FunctionType) (arguments : List Value)
    (depth : Nat) (s : Slot σ) (g : Guest) : Prop where
  depth_eq : t.depth = depth + 1
  slot : t.world.slots[h.address.owner]? = some s
  guest : s.guest = some g
  fits : h.type.fault? arguments = none

/-- The call of a function comes to the function that exits with a status, after a number of steps.
The host calls that function itself, or the code of the instance does at whatever depth. `g` and `v`
are the states of the instance and of the world at that point. -/
inductive ReachesExit (t : Moment σ α) (h : Handle FunctionType) (arguments : List Value)
    (status : UInt32) : Nat → Guest → World σ → Prop
  | direct {d : Nat} {s : Slot σ} {g : Guest} {version : Wasi.Version}
      (hc : t.CallsAtRest h arguments d s g)
      (ht : s.program.takes h.address.index (arguments.map Cell.ofValue) = true)
      (hf : h.address.index < s.program.imported)
      (hk : s.imported[h.address.index]? = some (.generated version .procExit))
      (ha : arguments = [.i32 status]) :
      ReachesExit t h arguments status 0 g (t.world.setGuest h.address.owner none)
  | code {d k n : Nat} {s : Slot σ} {g₀ g : Guest} {version : Wasi.Version} {v : World σ}
      (hc : t.CallsAtRest h arguments d s g₀)
      (ht : s.program.takes h.address.index (arguments.map Cell.ofValue) = true)
      (hf : ¬ h.address.index < s.program.imported)
      (hk : s.imported[k]? = some (.generated version .procExit))
      (hr : Execution.CallsHostAfter s.program (hostCall (callWithin d) h.address.owner false) k
        [.i32 status] g v n (s.program.entry h.address.index (arguments.map Cell.ofValue)) g₀
        (t.world.setGuest h.address.owner none)) :
      ReachesExit t h arguments status n g v

/-- What a call answers, and what it leaves. -/
lemma CallsAtRest.ends_eq {d : Nat} {s : Slot σ} (hc : t.CallsAtRest h arguments d s g)
    {o : Outcome (World σ)}
    (ho : World.enter (callWithin d) h.address s.program arguments g
      (t.world.setGuest h.address.owner none) = o) :
    (t.turn (h.call arguments)).ends =
      (match o.result with
        | .error .panicked => .panicked
        | r => .done (CallError.results h.type (some r)),
        t.guest, o.world.setGuest h.address.owner (some o.guest)) := by
  simp only [ends, turn, Handle.call, hc.fits, World.run, hc.depth_eq,
    World.callWithin_some _ arguments hc.slot hc.guest, ho]
  obtain ⟨result, g', w'⟩ := o
  rcases result with stop | cells
  · cases stop <;> rfl
  · rfl

lemma CallsAtRest.ends_of_error {d : Nat} {s : Slot σ} {stop : Stop}
    (hc : t.CallsAtRest h arguments d s g) {o : Outcome (World σ)}
    (ho : World.enter (callWithin d) h.address s.program arguments g
      (t.world.setGuest h.address.owner none) = o)
    (hresult : o.result = .error stop) (hstop : stop ≠ .panicked) :
    (t.turn (h.call arguments)).ends =
      (.done (.error (.ofStop stop)), t.guest, o.world.setGuest h.address.owner (some o.guest)) := by
  rw [hc.ends_eq ho, hresult]
  cases stop <;> first | rfl | exact absurd rfl hstop

/-! ### At every moment -/

section Made

variable {w₀ w₁ w : World σ} {m : Module} {o : ImportObject σ} {i : Instance}

/-- What is called is an instance of the module. -/
lemma CallsAtRest.of_made (hi : w₀.instantiate m o = (.made i, w₁)) (hw : World.Leads w₁ w)
    (ht : t.Occurs w) (hown : h.address.owner = i.number) {d : Nat} {s : Slot σ}
    (hc : t.CallsAtRest h arguments d s g) :
    s.program = m.program ∧ s.exportedMemory = m.exportedMemory := by
  obtain ⟨ps, atRest, -, ho⟩ := ht.outline_of_made hi hw
  rw [World.outline_getElem?, ← hown, hc.slot, Option.map_some, Option.some.injEq] at ho
  exact ⟨congrArg Outline.program ho, congrArg Outline.exportedMemory ho⟩

/-- The memory that an instance exports is there whenever its code runs. -/
lemma CallsAtRest.hasMemory (hi : w₀.instantiate m o = (.made i, w₁)) (hw : World.Leads w₁ w)
    (ht : t.Occurs w) (hown : h.address.owner = i.number) {d : Nat} {s : Slot σ} {g₀ : Guest}
    (hc : t.CallsAtRest h arguments d s g₀) (hgrows : g₀.Grows g) {j : Nat}
    (hj : m.exportedMemory = some j) : g.HasMemory j := by
  have hguest : t.guest? i.number = some g₀ := guest?_of_world (by
    rw [← hown, World.guest?, hc.slot]
    exact hc.guest)
  obtain ⟨type, htype⟩ := m.exists_memorySpace hj
  obtain ⟨mem, hmem, hwithin⟩ := ht.memory_within hi hw hguest htype
  exact Guest.HasMemory.grows ⟨mem, hmem, hwithin.size_le_limit⟩ hgrows

/-- **A call that comes to the function that exits ends there.** The host is told how, and the instance
and the world are left as they were at that point. -/
theorem ReachesExit.ends_eq (hi : w₀.instantiate m o = (.made i, w₁)) (hw : World.Leads w₁ w)
    (ht : t.Occurs w) (hown : h.address.owner = i.number)
    (hr : t.ReachesExit h arguments status steps g v) :
    (steps < m.engine.patience → (t.turn (h.call arguments)).ends =
      (.done (.error (.ofStop (m.exitStop h.address.index status))), t.guest,
        v.setGuest h.address.owner (some g))) ∧
    (m.engine.patience ≤ steps → (t.turn (h.call arguments)).ends.1 =
      .done (.error (.ofStop .outOfFuel))) := by
  have hpanic : m.exitStop h.address.index status ≠ .panicked :=
    Wasi.Function.exitStop_ne_panicked _ status
  cases hr with
  | @direct d s g version hc htakes hf hk ha =>
    obtain ⟨hprogram, -⟩ := hc.of_made hi hw ht hown
    have hstop : m.exitStop h.address.index status = Wasi.Function.noMemory := by
      rw [Module.exitStop, ← hprogram, if_pos hf]
      rfl
    have hslot := World.slots_setGuest_self hc.slot none
    have henter : World.enter (callWithin d) h.address s.program arguments g
        (t.world.setGuest h.address.owner none) =
          ⟨.error Wasi.Function.noMemory, g, t.world.setGuest h.address.owner none⟩ := by
      unfold World.enter
      simp only [htakes, hf, if_true, hostCall, hslot, Option.bind_some, hk, Option.map_some,
        World.callGenerated, Option.bind_none]
    have htwo := m.engine.two_le_patience
    refine ⟨fun _ => ?_, fun hle => absurd hle (by omega)⟩
    exact hc.ends_of_error henter (congrArg _ hstop.symm) hpanic
  | @code d k n s g₀ g version v hc htakes hf hk hr =>
    obtain ⟨hprogram, hexported⟩ := hc.of_made hi hw ht hown
    have hcall := hr.callsHost
    have houtline : v.outline = (t.world.setGuest h.address.owner none).outline :=
      hcall.keeps World.outline (World.outline_hostCall (World.outline_callWithin d) _ false)
    obtain ⟨s', hs', hsame⟩ := World.exists_slot houtline (World.slots_setGuest_self hc.slot none)
    have hgrows := (hcall.grows (World.hostCall_grows (World.callWithin_grows d) _ false)).1
    have hk' : s'.imported[k]? = some (.generated version .procExit) := by
      rw [show s'.imported = s.imported from congrArg Outline.imported hsame, hk]
    have hexported' : s'.exportedMemory = m.exportedMemory :=
      (congrArg Outline.exportedMemory hsame).trans hexported
    have hexit : hostCall (callWithin d) h.address.owner false k [.i32 status] g v =
        ⟨.error (Wasi.Function.exitStop s'.exportedMemory status), g, v⟩ :=
      World.hostCall_exit hs' hk'
        (fun j hj => (hc.hasMemory hi hw ht hown hgrows (hexported' ▸ hj)).exists_memory) status
    have hstop : m.exitStop h.address.index status =
        Wasi.Function.exitStop s'.exportedMemory status := by
      rw [Module.exitStop, ← hprogram, if_neg hf, hexported']
    have henter : World.enter (callWithin d) h.address s.program arguments g₀
        (t.world.setGuest h.address.owner none) =
          Execution.run s.program (hostCall (callWithin d) h.address.owner false) s.program.steps
            (s.program.entry h.address.index (arguments.map Cell.ofValue)) g₀
            (t.world.setGuest h.address.owner none) := by
      unfold World.enter
      simp only [htakes, hf, if_true, if_false, Execution.invoke_eq_run]
    have hsteps : s.program.steps = m.engine.patience := congrArg Execution.Program.steps hprogram
    obtain ⟨hends, hfuel⟩ := hr.run_eq hexit s.program.steps
    rw [← hsteps]
    refine ⟨fun hlt => ?_, fun hle => ?_⟩
    · exact hc.ends_of_error (henter.trans (hends hlt)) (congrArg _ hstop.symm) hpanic
    · rw [hc.ends_of_error henter (hfuel hle) (by simp)]

/-- A call that answers with an exit is one of an instance at rest, which ends with that exit. -/
lemma exists_callsAtRest {code : Nat}
    (he : (t.turn (h.call arguments)).ends.1 = .done (.error (.exit code))) :
    ∃ d s g, t.CallsAtRest h arguments d s g ∧
      (World.enter (callWithin d) h.address s.program arguments g
        (t.world.setGuest h.address.owner none)).result = .error (.exited code) := by
  cases hfault : h.type.fault? arguments with
  | some f =>
    simp only [ends, turn, Handle.call, hfault, World.run] at he
    cases he
  | none =>
    -- A call that is refused because the instance is running or too deep answers so.
    have hbusy : ∀ v, callWithin t.depth h.address arguments t.world ≠ (.busy, v) := by
      intro v hv
      simp only [ends, turn, Handle.call, hfault, World.run, hv] at he
      cases he
    cases hg : t.world.guest? h.address.owner with
    | none => exact absurd (World.callWithin_none _ arguments hg) (hbusy _)
    | some g =>
      obtain ⟨s, hs, hsg⟩ := Option.bind_eq_some_iff.1 hg
      cases hd : t.depth with
      | zero => exact absurd (by rw [hd]; rfl) (hbusy t.world)
      | succ d =>
        have hc : t.CallsAtRest h arguments d s g := ⟨hd, hs, hsg, hfault⟩
        refine ⟨d, s, g, hc, ?_⟩
        rw [hc.ends_eq rfl] at he
        split at he
        · cases he
        · exact CallError.results_eq_exit (World.Ended.done.inj he)

/-- **A call answers with an exit only if it has come to the function that exits.** -/
theorem exists_reachesExit (h₀ : w₀.Reached) (hi : w₀.instantiate m o = (.made i, w₁))
    (hw : World.Leads w₁ w) (ht : t.Occurs w) (hown : h.address.owner = i.number) {code : Nat}
    (he : (t.turn (h.call arguments)).ends.1 = .done (.error (.exit code))) :
    ∃ status steps g v, t.ReachesExit h arguments status steps g v ∧ status.toNat = code ∧
      m.exitStop h.address.index status = .exited code := by
  obtain ⟨d, s, g₀, hc, hexited⟩ := exists_callsAtRest he
  obtain ⟨hprogram, hexported⟩ := hc.of_made hi hw ht hown
  obtain ⟨contexts, htyped⟩ := ht.exists_typed ((h₀.made hi).leads hw)
  unfold World.enter at hexited
  simp only at hexited
  split at hexited
  · rename_i htakes
    split at hexited
    · obtain ⟨hdirect, -⟩ := World.hostCall_eq_exited hexited
      cases hdirect
    · rename_i hf
      rw [Execution.invoke_eq_run] at hexited
      obtain hstop | ⟨_, hstop⟩ | ⟨k, cells, g, v, hcall, hk⟩ := Execution.run_eq_error hexited
      · cases hstop
      · cases hstop
      · obtain ⟨-, s', version, hs', hmemory, himported, x, rfl, rfl, hlt⟩ :=
          World.hostCall_eq_exited hk
        have houtline : v.outline = (t.world.setGuest h.address.owner none).outline :=
          hcall.keeps World.outline (World.outline_hostCall (World.outline_callWithin d) _ false)
        obtain ⟨s'', hs'', hsame⟩ :=
          World.exists_slot houtline (World.slots_setGuest_self hc.slot none)
        cases hs'.symm.trans hs''
        have hk' : s.imported[k]? = some (.generated version .procExit) := by
          rw [← show s'.imported = s.imported from congrArg Outline.imported hsame, himported]
        -- The argument is a number, since the code is typed.
        have hcode := htyped.call hc.slot hc.guest htakes
        obtain ⟨type, htype, hcells, -⟩ := hcode.callsHost hcall
        have hslot := htyped.outline _ s.outline (by rw [World.outline_getElem?, hc.slot]; rfl)
        cases htype.symm.trans (hslot.imported k _ hk')
        obtain ⟨status, rfl⟩ := Cell.exists_i32 (List.singleton_inj.1 hcells)
        obtain ⟨steps, hsteps⟩ := hcall.exists_after
        refine ⟨status, steps, g, v, .code hc htakes hf hk' hsteps, rfl, ?_⟩
        have hexported' : m.exportedMemory ≠ none := by
          rw [← hexported, ← show s'.exportedMemory = s.exportedMemory from
            congrArg Outline.exportedMemory hsame]
          exact hmemory
        rw [Module.exitStop, ← hprogram, if_neg hf, Wasi.Function.exitStop, if_neg hexported']
        exact if_pos hlt
  · cases hexited

/-- The instance is at rest after the call, as all the others are that were so before it. -/
lemma ReachesExit.outline_eq (hr : t.ReachesExit h arguments status steps g v) :
    (v.setGuest h.address.owner (some g)).outline = t.world.outline ∧
      t.world.guest? h.address.owner ≠ none := by
  cases hr with
  | @direct d s g version hc htakes hf hk ha =>
    have hguest : t.world.guest? h.address.owner = some g := by
      rw [World.guest?, hc.slot]
      exact hc.guest
    exact ⟨World.outline_rest _ _ hguest rfl, by rw [hguest]; simp⟩
  | @code d k n s g₀ g version v hc htakes hf hk hr =>
    have hguest : t.world.guest? h.address.owner = some g₀ := by
      rw [World.guest?, hc.slot]
      exact hc.guest
    have houtline : v.outline = (t.world.setGuest h.address.owner none).outline :=
      hr.callsHost.keeps World.outline
        (World.outline_hostCall (World.outline_callWithin d) _ false)
    exact ⟨World.outline_rest _ _ hguest houtline, by rw [hguest]; simp⟩

end Made

/-- **An exit is told exactly of the function that exits.** At every moment at which an exported
function is called, if the call comes to that function of the system interface, at whatever depth in
the guest, it ends there, as long as it is waited for. Nothing more happens to the instance or to the
world, and the instance can be used as before. The host is told of an exit with the status if it is
below 126 and the guest exports its memory, and else of a trap. No other call answers with an exit:
not a trap, not a function of the host that fails in whatever way, and not another error of the
system interface. -/
theorem exit_exactly_at_procExit {w₀ w₁ w : World σ} {m : Module} {o : ImportObject σ} {i : Instance}
    (h₀ : w₀.Reached) (hi : w₀.instantiate m o = (.made i, w₁)) (hw : World.Leads w₁ w)
    {name : String} {h : Handle FunctionType} (hx : i.exports.function name = .ok h)
    {t : Moment σ α} (ht : t.Occurs w) (arguments : List Value) :
    (∀ status steps g v, t.ReachesExit h arguments status steps g v →
      let w' := v.setGuest i.number (some g)
      (steps < m.engine.patience → (t.turn (h.call arguments)).ends =
        (.done (.error (.ofStop (m.exitStop h.address.index status))), t.guest, w')) ∧
      (m.engine.patience ≤ steps →
        (t.turn (h.call arguments)).ends.1 = .done (.error (.trap "out of fuel"))) ∧
      ∀ u : Use, u.owner = i.number →
        (({ t with world := w' } : Moment σ α).turn u.action).ends.1 ≠ .done u.reentrant) ∧
    ∀ code, (t.turn (h.call arguments)).ends.1 = .done (.error (.exit code)) →
      ∃ status steps g v, t.ReachesExit h arguments status steps g v ∧ steps < m.engine.patience ∧
        status.toNat = code ∧ m.exitStop h.address.index status = .exited code := by
  obtain ⟨-, -, -, -, hexports, -⟩ := World.outline_instantiate_made hi
  obtain ⟨hown, -⟩ := m.function_eq_ok hexports hx
  have hsound := ht.sound ((h₀.made hi).leads hw).atRest
  refine ⟨fun status steps g v hr => ?_, fun code he => ?_⟩
  · obtain ⟨hends, hfuel⟩ := hr.ends_eq hi hw ht hown
    rw [hown] at hends
    refine ⟨hends, hfuel, fun u hu => ?_⟩
    obtain ⟨houtline, hrest⟩ := hr.outline_eq
    have hsize : h.address.owner < t.world.slots.size := by
      obtain ⟨g', hg'⟩ := Option.ne_none_iff_exists'.1 hrest
      exact World.lt_size_of_guest? _ _ hg'
    rw [hown] at houtline hrest hsize
    have hsound' : ({ t with world := v.setGuest i.number (some g) } : Moment σ α).Sound :=
      hsound.of_outline houtline rfl rfl
    refine hsound'.ends_of_not_running ?_ ?_
    · rw [hu, World.size_congr _ houtline]
      exact hsize
    · rw [hu]
      exact mt (hsound.running_iff _ hsize).2 hrest
  · obtain ⟨status, steps, g, v, hr, hstatus, hstop⟩ := exists_reachesExit h₀ hi hw ht hown he
    refine ⟨status, steps, g, v, hr, Nat.lt_of_not_le fun hle => ?_, hstatus, hstop⟩
    rw [(hr.ends_eq hi hw ht hown).2 hle] at he
    cases he

end Moment

/-! ### A guest that exits -/

/-- A module whose function exits with the status that it is given. -/
def Module.leaverDefinition : Definition :=
  { Definition.empty with
    types := [⟨[.i32], []⟩]
    imports := [⟨"wasi_snapshot_preview1", "proc_exit", .function 0⟩]
    functions := [0]
    memories := [⟨1, none, false, false⟩]
    exports := [⟨"memory", .memory, 0⟩, ⟨"leave", .function, 1⟩]
    bodies := [⟨[], [.op (.localGet 0), .op (.call 0)]⟩] }

def Module.leaver : Module where
  engine := .standard 0
  binary := Binary.encode leaverDefinition .empty
  definition := leaverDefinition
  code := [.op (.localGet 0) (.op (.call 0) .done)]
  imports := [⟨"wasi_snapshot_preview1", "proc_exit", .function ⟨[.i32], []⟩⟩]
  exports := [⟨"memory", .memory ⟨1, none, false, false⟩⟩, ⟨"leave", .function ⟨[.i32], []⟩⟩]
  customs := []
  name := none
  bodies_eq := by decide
  imports_eq := rfl
  exports_eq := rfl

lemma Module.compile_leaver : compile (.standard 0) leaver.binary = .ok leaver :=
  compile_self (m := leaver) (by decide +kernel) (by decide +kernel) (by decide +kernel)
    rfl rfl

/-- The system interface for a program without arguments, files or streams. -/
def ImportObject.system : ImportObject Unit :=
  .withWasi ⟨⟨"p", [], [], [], .null, .null, .null⟩, .snapshot1, 0⟩

lemma ImportObject.resolve_leaver :
    system.resolve .leaver = .ok [.generated .snapshot1 .procExit] := by
  rw [resolve_eq_ok_iff]
  refine ⟨fun b hb => ?_, .cons ?_ .nil, fun hs => ?_⟩
  · cases hb
    rfl
  · exact .generated (b := ⟨⟨"p", [], [], [], .null, .null, .null⟩, .snapshot1, 0⟩) rfl rfl rfl
      (by decide) rfl
  · cases hs

namespace World

/-- The world with its instance. -/
def leaver : World Unit := ((create () (.ofFiles .empty)).instantiate .leaver .system).2

/-- The state of the instance. -/
def leaverGuest : Guest := ⟨#[.ofType ⟨1, none, false, false⟩], #[], #[], #[], #[]⟩

def leaverSlot : Slot Unit where
  program := Module.leaver.program
  imported := #[.generated .snapshot1 .procExit]
  boundMemory := some 0
  exportedMemory := some 0
  context := ⟨["p"], [], .own [], .null, .null, Wasi.Context.numbered 0 Wasi.Context.streams, 0, 0⟩
  guest := some leaverGuest

/-- The function of the instance. -/
def leave : Handle FunctionType := ⟨⟨0, 1⟩, ⟨[.i32], []⟩⟩

lemma instantiate_leaver :
    (create () (.ofFiles .empty)).instantiate .leaver .system =
      (.made ⟨0, .leaver, ⟨[⟨"memory", .memory ⟨⟨0, 0⟩, ⟨1, none, false, false⟩⟩⟩,
        ⟨"leave", .function leave⟩]⟩⟩, .leaver) := by
  have hi := instantiate_eq_made (w := create () (.ofFiles .empty)) (m := .leaver) rfl
    ImportObject.resolve_leaver rfl rfl rfl
  rw [leaver, hi]
  rfl

lemma slots_leaver : leaver.slots = #[leaverSlot] := by
  rw [leaver, instantiate_eq_made rfl ImportObject.resolve_leaver rfl rfl rfl]
  rfl

end World

namespace Moment

/-- The host has its turn in that world. -/
def beforeLeaving : Moment Unit Unit := ⟨[], 1, none, .done (), ⟨#[], #[], #[], #[], #[]⟩, .leaver⟩

lemma occurs_beforeLeaving : beforeLeaving.Occurs .leaver := by
  have hresting : World.leaver.resting = 1 := by
    simp [World.resting, World.slots_leaver, World.leaverSlot]
  have h := Occurs.perform (w := World.leaver) (.done ())
  rwa [hresting] at h

/-- Two steps of the guest come before the one that exits. -/
lemma reachesExit_leave (status : UInt32) :
    beforeLeaving.ReachesExit World.leave [.i32 status] status 2 World.leaverGuest
      (World.leaver.setGuest 0 none) := by
  have hslot : World.leaver.slots[0]? = some World.leaverSlot := by
    rw [World.slots_leaver]
    rfl
  exact .code (k := 0) ⟨rfl, hslot, rfl, rfl⟩ rfl (by decide) rfl (.next rfl (.next rfl (.now rfl)))

/-- The status 7 reaches the host. -/
theorem leave_with_seven :
    Module.compile (.standard 0) Module.leaver.binary = .ok .leaver ∧
      beforeLeaving.ReachesExit World.leave [.i32 7] 7 2 World.leaverGuest
        (World.leaver.setGuest 0 none) ∧
      (beforeLeaving.turn (World.leave.call [.i32 7])).ends.1 = .done (.error (.exit 7)) := by
  have hreached : World.Reached (.create () (.ofFiles .empty) : World Unit) := ⟨(), _, .refl⟩
  have hname : (⟨[⟨"memory", .memory ⟨⟨0, 0⟩, ⟨1, none, false, false⟩⟩⟩,
      ⟨"leave", .function World.leave⟩]⟩ : Exports).function "leave" = .ok World.leave := rfl
  obtain ⟨hexit, -⟩ := exit_exactly_at_procExit hreached World.instantiate_leaver .refl hname
    occurs_beforeLeaving [.i32 7]
  obtain ⟨hends, -⟩ := hexit 7 2 _ _ (reachesExit_leave 7)
  exact ⟨Module.compile_leaver, reachesExit_leave 7, congrArg Prod.fst (hends (by decide))⟩

/-- The status 200 does not: the guest comes to the function that exits, and the host is told of a
trap. -/
theorem leave_with_two_hundred :
    Module.compile (.standard 0) Module.leaver.binary = .ok .leaver ∧
      beforeLeaving.ReachesExit World.leave [.i32 200] 200 2 World.leaverGuest
        (World.leaver.setGuest 0 none) ∧
      (beforeLeaving.turn (World.leave.call [.i32 200])).ends.1 =
        .done (.error (.trap "exit with invalid exit status outside of [0..126)")) := by
  obtain ⟨hends, -⟩ := (reachesExit_leave 200).ends_eq World.instantiate_leaver .refl
    occurs_beforeLeaving rfl
  exact ⟨Module.compile_leaver, reachesExit_leave 200, congrArg Prod.fst (hends (by decide))⟩

end Moment

end Embedder
