import Embedder.Proofs.Calls.Signatures
import Embedder.Proofs.Typing.Initial
import Embedder.Proofs.Typing.Run
import Embedder.Proofs.World.Moment

/-!
# Worlds keep types

Every instance has a context of its own. Whatever a host does, with whatever functions of its own,
what an instance owns keeps the types of that context.

* `World.Typed`: the instances have the types of their contexts;
* `World.run_typed`, `World.callWithin_typed`, `World.perform_typed`: actions and calls keep them;
* `World.instantiate_typed`: a new instance has a context too;
* `World.Reached.exists_typed`, `Moment.Occurs.exists_typed`, `Moment.Runs.exists_typed`: so there are
  contexts at every moment, and for all code that runs.
-/

namespace Embedder

open Execution (Program Guest Machine HostCall Stop Outcome)
open Validation (Context)
open Elementwise (rel_of_forall₂)

variable {σ α : Type} {c : Context} {g : Guest}

/-! ### Operations and requests -/

lemma Operation.perform_typed (o : Operation) (hg : g.Typed c) : (o.perform g).2.Typed c := by
  cases o with
  | memoryGrow i delta =>
    unfold perform
    simp only
    split
    · exact hg.changeMemory _ _
    · exact hg
  | memoryWrite i start bytes =>
    unfold perform
    simp only
    split
    · exact hg.changeMemory _ _
    · exact hg
  | globalSet i v =>
    unfold perform
    simp only
    split
    · rename_i hset
      obtain ⟨x, hx, hv⟩ := (Option.any_eq_true _ _).1 hset
      refine hg.setGlobal fun t ht => ?_
      exact (eq_of_beq hv).symm.trans (hg.global hx ht)
    · exact hg
  | _ => exact hg

lemma World.request_typed (memory : Option Nat) (r : MemoryRequest) (hg : g.Typed c) :
    (request memory r g).2.Typed c := by
  unfold request
  split
  · exact hg
  · exact hg
  · exact Operation.perform_typed _ hg
  · exact hg
  · exact Operation.perform_typed _ hg
  · exact hg

/-! ### The system interface -/

/-- The function that ends a program does not return, not even with the number of an error. -/
lemma Wasi.Function.call_procExit (v : Version) (x : Cell) (s : CallState) (cells : List Cell) :
    (procExit.call v [x] s).1 ≠ .ok cells := by
  have hperform : procExit.perform v [number x] = Calling.exit (number x) := rfl
  have hexit : ∃ e, (Calling.exit (number x)).run.run s = (.error e, s) ∧ ∀ n, e ≠ .errno n := by
    unfold Calling.exit
    split
    · exact ⟨_, rfl, fun _ => (nomatch ·)⟩
    · exact ⟨_, rfl, fun _ => (nomatch ·)⟩
  obtain ⟨e, he, hne⟩ := hexit
  unfold call
  rw [List.map_cons, List.map_nil, hperform, he]
  cases e with
  | errno n => exact absurd rfl (hne n)
  | trap message => exact (nomatch ·)
  | exit code => exact (nomatch ·)

/-- A function of the system interface gives results of its type. -/
theorem Wasi.Function.type_call {v : Version} {f : Function} {arguments cells : List Cell}
    {s : CallState} (ha : arguments.map Cell.type = f.params)
    (h : (f.call v arguments s).1 = .ok cells) : cells.map Cell.type = f.results := by
  by_cases hf : f = .procExit
  · subst hf
    obtain ⟨x, rfl⟩ : ∃ x, arguments = [x] := by
      have hlength := congrArg List.length ha
      rw [List.length_map] at hlength
      exact List.length_eq_one_iff.1 hlength
    exact absurd h (call_procExit v x s cells)
  · have hresults : f.results = [.i32] := by
      cases f <;> first | rfl | exact absurd rfl hf
    rw [hresults]
    unfold call at h
    split at h <;> cases h <;> rfl

/-! ### Worlds -/

/-- The program and the imported functions of an instance have the types of a context. -/
structure Outline.Typed (c : Context) (o : Outline σ) : Prop where
  program : o.program.Checked c
  imported : ∀ (k : Nat) (f : Imported σ), o.imported[k]? = some f → c.functions[k]? = some f.type

namespace World

variable {contexts : Nat → Context} {w : World σ} {calls : Calls σ}

/-- Every instance has a context, and what it owns has the types of that context while it is at
rest. -/
structure Typed (contexts : Nat → Context) (w : World σ) : Prop where
  outline : ∀ (n : Nat) (o : Outline σ), w.outline[n]? = some o → o.Typed (contexts n)
  guest : ∀ (n : Nat) (g : Guest), w.guest? n = some g → g.Typed (contexts n)

/-- Calls that keep types. -/
def KeepTypes (contexts : Nat → Context) (calls : Calls σ) : Prop :=
  ∀ f arguments w, w.Typed contexts → (calls f arguments w).2.Typed contexts

lemma Typed.of_eq {v : World σ} (hw : w.Typed contexts) (ho : v.outline = w.outline)
    (hg : ∀ n, v.guest? n = w.guest? n) : v.Typed contexts :=
  ⟨fun n o h => hw.outline n o (ho ▸ h), fun n g h => hw.guest n g (hg n ▸ h)⟩

lemma Typed.setGuest (hw : w.Typed contexts) {n : Nat} {guest : Option Guest}
    (hg : ∀ g, guest = some g → g.Typed (contexts n)) : (w.setGuest n guest).Typed contexts := by
  refine ⟨fun i o h => ?_, fun i g h => ?_⟩
  · rw [outline_setGuest, Array.getElem?_modify] at h
    split at h
    · obtain ⟨o', ho', rfl⟩ := Option.map_eq_some_iff.1 h
      have ho := hw.outline i o' ho'
      exact ⟨ho.program, ho.imported⟩
    · exact hw.outline i o h
  · rw [guest?_setGuest] at h
    split at h
    · rename_i hi
      exact hi.1 ▸ hg g h
    · exact hw.guest i g h

lemma Typed.setGuest_none (hw : w.Typed contexts) (n : Nat) :
    (w.setGuest n none).Typed contexts := hw.setGuest fun _ h => nomatch h

lemma Typed.operate (hw : w.Typed contexts) (n : Nat) (o : Operation) :
    (w.operate n o).2.Typed contexts := by
  unfold World.operate
  cases hg : w.guest? n with
  | none => exact hw
  | some g =>
    refine (hw.setGuest_none n).setGuest fun g' h => ?_
    cases h
    exact o.perform_typed (hw.guest n g hg)

lemma invariant_typed (hc : KeepTypes contexts calls) (c : Context) :
    Invariant calls fun g v => g.Typed c ∧ v.Typed contexts where
  host _ h := ⟨h.1, h.2.of_eq rfl fun _ => rfl⟩
  request memory r h := ⟨request_typed memory r h.1, h.2⟩
  operate n o h := ⟨h.1, h.2.operate n o⟩
  calls f arguments h := ⟨h.1, hc f arguments _ h.2⟩

/-- An action keeps the types of the instance that calls it and of all others. -/
theorem run_typed (hc : KeepTypes contexts calls) (memory : Option Nat) (a : Action σ α)
    (hg : g.Typed c) (hw : w.Typed contexts) :
    (run calls memory a g w).2.1.Typed c ∧ (run calls memory a g w).2.2.Typed contexts :=
  (invariant_typed hc c).run memory a ⟨hg, hw⟩

/-! ### Functions of the host -/

lemma callHost_typed (hc : KeepTypes contexts calls) (memory : Option Nat) (f : HostFunction σ)
    (arguments : List Cell) (hg : g.Typed c) (hw : w.Typed contexts) :
    (callHost calls memory f arguments g w).Typed c (Typed contexts) f.type.results := by
  obtain ⟨hguest, hworld⟩ := (invariant_typed hc c).callHost memory f arguments ⟨hg, hw⟩
  exact ⟨hworld, hguest, fun _ => callHost_eq_ok⟩

lemma callGenerated_typed (owner : Nat) (s : Wasi.Context) (memory : Option Nat) (v : Wasi.Version)
    (f : Wasi.Function) {arguments : List Cell} (ha : arguments.map Cell.type = f.params)
    (hg : g.Typed c) (hw : w.Typed contexts) :
    (callGenerated owner s memory v f arguments g w).Typed c (Typed contexts) f.results := by
  unfold callGenerated
  split
  · exact ⟨hw, hg, fun _ h => nomatch h⟩
  · refine ⟨hw.of_eq (by simp) fun n => ?_, hg.of_eq rfl rfl rfl, fun cells h => ?_⟩
    · exact guest?_setContext ..
    · exact Wasi.Function.type_call ha h

/-- The functions that an instance imports do with arguments of their types what functions of their
types do. -/
lemma hostCall_keeps (hc : KeepTypes contexts calls) (p : Program) (owner : Nat) (direct : Bool) :
    HostCall.Keeps (contexts owner) p (Typed contexts) (hostCall calls owner direct) := by
  intro k t arguments g w ht hk ha hg hw
  unfold hostCall
  cases hs : w.slots[owner]? with
  | none => exact ⟨hw, hg, fun _ h => nomatch h⟩
  | some s =>
    cases hf : s.imported[k]? with
    | none =>
      simp only [Option.bind_some, hf, Option.map_none]
      exact ⟨hw, hg, fun _ h => nomatch h⟩
    | some f =>
      have hslot := hw.outline owner s.outline (by rw [outline_getElem?, hs]; rfl)
      obtain rfl := Option.some.inj ((hslot.imported k f hf).symm.trans ht)
      simp only [Option.bind_some, hf, Option.map_some]
      cases f with
      | host f => exact callHost_typed hc _ f arguments hg hw
      | generated v f => exact callGenerated_typed owner _ _ v f ha hg hw

/-! ### Calls to instances -/

lemma enter_typed (hc : KeepTypes contexts calls) {f : Address} {p : Program}
    (arguments : List Value) (hp : p.Checked (contexts f.owner)) (hg : g.Typed (contexts f.owner))
    (hw : w.Typed contexts) :
    (enter calls f p arguments g w).guest.Typed (contexts f.owner) ∧
      (enter calls f p arguments g w).world.Typed contexts ∧
      ∀ cells, (enter calls f p arguments g w).result = .ok cells →
        ∃ t, p.functions[f.index]? = some t ∧ cells.map Cell.type = t.results := by
  unfold enter
  simp only
  split
  · rename_i htakes
    obtain ⟨t, ht, ha⟩ := (Option.any_eq_true _ _).1 htakes
    have htype := ht
    rw [hp.functions] at htype
    have ha := eq_of_beq ha
    split
    · rename_i hk
      have ho := hostCall_keeps hc p f.owner true f.index t _ g w htype hk ha hg hw
      exact ⟨ho.guest, ho.world, fun cells h => ⟨t, ht, ho.result cells h⟩⟩
    · have ho := Execution.invoke_typed hp (hostCall_keeps hc p f.owner false) htype ha hg hw
      exact ⟨ho.guest, ho.world, fun cells h => ⟨t, ht, ho.result cells h⟩⟩
  · exact ⟨hg, hw, fun _ h => nomatch h⟩

/-- **Calls to instances keep types**, whatever the functions of the host do on the way. -/
theorem callWithin_typed (depth : Nat) : KeepTypes contexts (callWithin depth : Calls σ) := by
  induction depth with
  | zero => exact fun _ _ _ hw => hw
  | succ depth ih =>
    intro f arguments w hw
    cases hguest : w.guest? f.owner with
    | none =>
      rw [callWithin_none _ arguments hguest]
      exact hw
    | some g =>
      have hg := hw.guest f.owner g hguest
      obtain ⟨s, hs, hsg⟩ := Option.bind_eq_some_iff.1 hguest
      have hslot := hw.outline f.owner s.outline (by rw [outline_getElem?, hs]; rfl)
      rw [callWithin_some depth arguments hs hsg]
      have ho := enter_typed ih arguments hslot.program hg (hw.setGuest_none f.owner)
      refine ho.2.1.setGuest fun g' h => ?_
      cases h
      exact ho.1

/-- An action of the host itself has no caller, so it stands for one that owns nothing. -/
theorem perform_typed (hw : w.Typed contexts) (a : Action σ α) :
    (w.perform a).2.Typed contexts := by
  have hnothing : (⟨#[], #[], #[], #[], #[]⟩ : Guest).Typed
      ⟨[], [], [], [], [], [], none, [], #[], [], []⟩ := ⟨rfl, by simp, by simp⟩
  exact (run_typed (callWithin_typed _) none a hnothing hw).2

/-! ### Instances -/

lemma typed_create (host : σ) (system : Wasi.System) : (create host system).Typed contexts :=
  ⟨fun n o h => by simp [create, outline] at h, fun n g h => by simp [create, guest?] at h⟩

/-- Only the contexts of the instances that there are matter. -/
lemma Typed.congr {contexts' : Nat → Context} (hw : w.Typed contexts)
    (h : ∀ n < w.slots.size, contexts' n = contexts n) : w.Typed contexts' := by
  refine ⟨fun n o ho => ?_, fun n g hg => ?_⟩
  · have hn := (Array.getElem?_eq_some_iff.1 ho).1
    rw [h n (by simpa using hn)]
    exact hw.outline n o ho
  · rw [h n (lt_size_of_guest? w n hg)]
    exact hw.guest n g hg

section Launch

variable {m : Module} {o : ImportObject σ} {ps : List (Provided σ)} {s : Wasi.Context}

/-- An instance that is added fits the context of its module. -/
lemma addSlot_typed (hw : w.Typed contexts) (hps : o.resolve m = .ok ps)
    (hd : m.definition.Describes (contexts w.slots.size)) :
    (w.addSlot m ps s).Typed contexts := by
  refine ⟨fun n out h => ?_, fun n g h => ?_⟩
  · rw [outline_addSlot, Array.getElem?_push] at h
    split at h
    · rename_i hn
      rw [size_outline] at hn
      cases h
      refine ⟨hn ▸ m.program_checked hd, fun k f hf => ?_⟩
      simp only [List.getElem?_toArray] at hf
      have hall := ImportObject.forall₂_functions o hps
      have hk : k < m.definition.functionImports.length :=
        hall.length_eq ▸ (List.getElem?_eq_some_iff.1 hf).1
      have hi := List.getElem?_eq_getElem hk
      rw [hn, hd.functions_getElem?, m.functionType?_of_import hi]
      exact (rel_of_forall₂ hall hi hf).type_eq
    · exact hw.outline n out h
  · simp only [guest?, addSlot, Array.getElem?_push] at h
    split at h
    · cases h
    · exact hw.guest n g h

lemma start_typed (hw : w.Typed contexts) {n : Nat} (hd : m.definition.Describes (contexts n))
    (hg : g.Typed (contexts n)) :
    (w.start m n g).2.1.Typed (contexts n) ∧ (w.start m n g).2.2.Typed contexts := by
  unfold start
  cases hf : m.definition.start with
  | none => exact ⟨hg, hw⟩
  | some f =>
    have hnone : ([] : List Cell).map Cell.type = [] := rfl
    have ho := Execution.invoke_typed (m.program_checked hd)
      (hostCall_keeps (callWithin_typed w.resting) m.program n false) (hd.startFunction hf) hnone hg
      hw
    exact ⟨ho.guest, ho.world⟩

lemma dropSlot_typed (hw : w.Typed contexts) : w.dropSlot.Typed contexts := by
  refine ⟨fun n o h => ?_, fun n g h => ?_⟩
  · rw [outline_dropSlot, Array.getElem?_pop] at h
    split at h
    · exact hw.outline n o h
    · cases h
  · simp only [guest?, dropSlot, Array.getElem?_pop] at h
    split at h
    · exact hw.guest n g h
    · cases h

lemma settle_typed (hw : w.Typed contexts) {n : Nat} (memory : Option Nat)
    (hg : g.Typed (contexts n)) : (w.settle n memory g).Typed contexts := by
  refine ⟨fun i o h => ?_, fun i g' h => ?_⟩
  · rw [outline_settle, Array.getElem?_modify] at h
    split at h
    · obtain ⟨o', ho', rfl⟩ := Option.map_eq_some_iff.1 h
      have ho := hw.outline i o' ho'
      exact ⟨ho.program, ho.imported⟩
    · exact hw.outline i o h
  · simp only [guest?, settle, Array.getElem?_modify] at h
    split at h
    · rename_i hi
      subst hi
      cases hs : w.slots[n]? with
      | none =>
        rw [hs] at h
        cases h
      | some s =>
        rw [hs] at h
        cases h
        exact hg
    · exact hw.guest i g' h

lemma launch_typed (hw : w.Typed contexts) (hps : o.resolve m = .ok ps)
    (hd : m.definition.Describes (contexts w.slots.size)) (hg : g.Typed (contexts w.slots.size)) :
    (w.launch m ps s g).2.Typed contexts := by
  have hstart := start_typed (addSlot_typed (s := s) hw hps hd) hd hg
  cases hl : w.launch m ps s g with
  | mk r w' =>
    obtain ⟨result, g₁, w₁, hs, hcases⟩ := launch_cases hl
    rw [hs] at hstart
    rcases hcases with ⟨_, -, -, rfl⟩ | ⟨_, -, -, -, rfl⟩ | ⟨_, -, -, -, rfl⟩
    · exact dropSlot_typed hstart.2
    · exact dropSlot_typed hstart.2
    · exact settle_typed hstart.2 _ hstart.1

end Launch

/-- There is a context for one more instance. -/
lemma Typed.extend (hw : w.Typed contexts) (m : Module) :
    ∃ contexts', m.definition.Describes (contexts' w.slots.size) ∧ w.Typed contexts' := by
  obtain ⟨c, hd⟩ := m.exists_describes
  refine ⟨Function.update contexts w.slots.size c, by rwa [Function.update_self], ?_⟩
  exact hw.congr fun n hn => Function.update_of_ne (Nat.ne_of_lt hn) c contexts

/-- **A new instance has a context of its own**, and the others keep their types. -/
theorem instantiate_typed (hw : w.Typed contexts) (m : Module) (o : ImportObject σ) :
    ∃ contexts', (w.instantiate m o).2.Typed contexts' := by
  obtain ⟨contexts', hd, hw'⟩ := hw.extend m
  refine ⟨contexts', ?_⟩
  obtain ⟨r, -, hfailed⟩ | ⟨c, ps, g, -, hps, hg, hlaunch⟩ := instantiate_cases w m o
  · rw [hfailed]
    exact hw'
  · rw [hlaunch]
    exact launch_typed hw' hps hd (Guest.populate_typed hd (o.supplied_typed hps) hg)

/-- **Whatever happens to a world, its instances keep their types.** -/
theorem Reached.exists_typed (h : Reached w) : ∃ contexts, w.Typed contexts := by
  obtain ⟨host, system, h⟩ := h
  induction h with
  | refl =>
    exact ⟨fun _ => ⟨[], [], [], [], [], [], none, [], #[], [], []⟩, typed_create host system⟩
  | tail _ he ih =>
    obtain ⟨contexts, hw⟩ := ih
    cases he with
    | perform _ a => exact ⟨contexts, perform_typed hw a⟩
    | system _ s => exact ⟨contexts, hw.of_eq rfl fun _ => rfl⟩
    | instantiate _ m o => exact instantiate_typed hw m o

/-! ### Code that begins to run -/

/-- The code of the instance `n` has the types of its context, and so has everything else. -/
structure CodeTyped (contexts : Nat → Context) (n : Nat) (p : Program) (m : Machine) (g : Guest)
    (w : World σ) : Prop where
  program : p.Checked (contexts n)
  machine : ∃ results, m.Typed (contexts n) [] results
  guest : g.Typed (contexts n)
  world : w.Typed contexts

/-- Such code calls the host with arguments of the right types only. -/
lemma CodeTyped.callsHost {n d : Nat} {p : Program} {m : Machine}
    (h : CodeTyped contexts n p m g w) {k : Nat} {cells : List Cell} {g' : Guest} {w' : World σ}
    (hc : Execution.CallsHost p (hostCall (callWithin d) n false) k cells g' w' m g w) :
    ∃ t, (contexts n).functions[k]? = some t ∧ cells.map Cell.type = t.params ∧
      w'.Typed contexts := by
  obtain ⟨results, hm⟩ := h.machine
  obtain ⟨t, ht, -, ha, -, hw'⟩ :=
    hc.typed h.program (hostCall_keeps (callWithin_typed d) p n false) hm h.guest h.world
  exact ⟨t, ht, ha, hw'⟩

lemma Typed.call (hw : w.Typed contexts) {f : Address} {arguments : List Value} {s : Slot σ}
    (hs : w.slots[f.owner]? = some s) (hg : s.guest = some g)
    (ht : s.program.takes f.index (arguments.map Cell.ofValue)) :
    CodeTyped contexts f.owner s.program
      (s.program.entry f.index (arguments.map Cell.ofValue)) g (w.setGuest f.owner none) := by
  have hp : s.program.Checked (contexts f.owner) :=
    (hw.outline f.owner s.outline (by rw [outline_getElem?, hs]; rfl)).program
  obtain ⟨t, htype, ha⟩ := (Option.any_eq_true _ _).1 ht
  rw [hp.functions] at htype
  refine ⟨hp, ⟨_, Program.entry_typed hp htype (eq_of_beq ha)⟩, ?_, ?_⟩
  · exact hw.guest f.owner g (by simp [guest?, hs, hg])
  · exact hw.setGuest_none f.owner

lemma Typed.start (hw : w.Typed contexts) {m : Module} {o : ImportObject σ}
    {ps : List (Provided σ)} (s : Wasi.Context) {f : Nat} (hps : o.resolve m = .ok ps)
    (hg : Guest.populate m.definition (Provided.supplied ps) = .ok g)
    (hf : m.definition.start = some f) :
    ∃ contexts', CodeTyped contexts' w.slots.size m.program (m.program.entry f []) g
      (w.addSlot m ps s) := by
  obtain ⟨contexts', hd, hw'⟩ := hw.extend m
  have hp := m.program_checked hd
  have hnone : ([] : List Cell).map Cell.type = [] := rfl
  exact ⟨contexts', hp, ⟨_, Program.entry_typed hp (hd.startFunction hf) hnone⟩,
    Guest.populate_typed hd (o.supplied_typed hps) hg, addSlot_typed hw' hps hd⟩

end World

/-! ### Moments -/

namespace Moment

open World (callWithin hostCall callWithin_typed)

variable {w : World σ}

lemma Step.exists_typed {t t' : Moment σ α} (h : Step t t')
    (ht : ∃ contexts, t.world.Typed contexts) : ∃ contexts, t'.world.Typed contexts := by
  obtain ⟨contexts, ht⟩ := ht
  refine ⟨contexts, ?_⟩
  cases h with
  | update change next => exact ht.of_eq rfl fun _ => rfl
  | memory r next => exact ht
  | operate owner o next => exact ht.operate owner o
  | @refused _ d _ _ v _ f arguments _ hc =>
    have hv := callWithin_typed d f arguments v ht
    rwa [hc] at hv
  | @returned _ d _ _ v _ f arguments _ _ hc =>
    have hv := callWithin_typed d f arguments v ht
    rwa [hc] at hv

/-- **At every moment the instances have their types.** -/
theorem Occurs.exists_typed (hw : w.Reached) {t : Moment σ α} (h : t.Occurs w) :
    ∃ contexts, t.world.Typed contexts := by
  induction h with
  | perform a => exact hw.exists_typed
  | @start m o ps c g g' w' f k cells t hs hps hg hf hc ht =>
    obtain ⟨contexts, hw⟩ := hw.exists_typed
    obtain ⟨contexts', hcode⟩ := hw.start c hps hg hf
    obtain ⟨_, -, -, hw'⟩ := hcode.callsHost hc
    cases ht
    exact ⟨contexts', hw'⟩
  | step _ hs ih => exact hs.exists_typed ih
  | enter _ he ih =>
    obtain ⟨contexts, ht⟩ := ih
    obtain ⟨hs, hg, hc, hb⟩ := he
    cases hb
    cases hc with
    | direct hd hf => exact ⟨contexts, ht.setGuest_none _⟩
    | code hd hf hc =>
      obtain ⟨_, -, -, hw'⟩ := (ht.call hs hg hd).callsHost hc
      exact ⟨contexts, hw'⟩

/-- **Code has the types of its instance** whenever it begins to run. -/
theorem Runs.exists_typed (hw : w.Reached) {n d : Nat} {p : Program} {m : Machine} {g : Guest}
    {v : World σ} (h : Runs w n d p m g v) : ∃ contexts, World.CodeTyped contexts n p m g v := by
  cases h with
  | call h hs hg ht hf =>
    obtain ⟨contexts, hv⟩ := h.exists_typed hw
    exact ⟨contexts, hv.call hs hg ht⟩
  | start hs hps hg hf =>
    obtain ⟨contexts, hw⟩ := hw.exists_typed
    exact hw.start _ hps hg hf

end Moment

end Embedder
