import Embedder.Proofs.Runs.Point
import Embedder.Proofs.Typing.World
import Embedder.Proofs.World.Growth

/-!
# Types at every step

At every step of a run the instances that are running are those which are not at rest, what waits for
the end of a call gets results of the types that it waits for, and every instance owns what its module
declares.

* `Point.Fits`: the instances that are running and those at rest;
* `Point.Stacked`, `Point.Placed`: what waits, and what has its turn;
* `Point.Typed.next`, `Point.Typed.runs`: what a step and a run preserve.
-/

namespace Embedder

open Execution (Program Guest Machine Stop)
open Validation (Context)

variable {σ : Type}

namespace World

variable {w : World σ} {contexts : Nat → Context}

lemma mute_keepTypes : KeepTypes contexts (mute : Calls σ) := fun _ _ _ hw => hw

lemma steady_mute : Steady (mute : Calls σ) := fun _ _ _ => rfl

/-- A function of the host gives results of its own types or none. -/
lemma resultsOf_eq_ok {types : List ValueType} {e : Ended (List Value)} {cells : List Cell}
    (h : resultsOf types e = .ok cells) : cells.map Cell.type = types := by
  cases e with
  | done values =>
    obtain ⟨htypes, rfl⟩ := checkResults_eq_ok_iff.1 h
    rw [← htypes, Cell.map_type_ofValue]
  | failed message => cases h
  | panicked => cases h

/-- A function that begins is one that the instance imports. -/
lemma opening?_eq_some {owner k : Nat} {cells : List Cell} {f : HostFunction σ}
    {memory : Option Nat} {values : List Value}
    (h : w.opening? owner k cells = some (f, memory, values)) :
    ∃ s, w.slots[owner]? = some s ∧ s.imported[k]? = some (.host f) := by
  unfold opening? at h
  split at h
  · rename_i s f' hs
    obtain ⟨s', hs', hf⟩ := Option.bind_eq_some_iff.1 hs
    obtain ⟨f'', hf'', heq⟩ := Option.map_eq_some_iff.1 hf
    cases heq
    split at h
    · split at h
      · cases h
      · cases h
        exact ⟨s, hs', hf''⟩
    · cases h
  · cases h

lemma guest?_settle_self (w : World σ) (memory : Option Nat) (g : Guest) {n : Nat}
    (hn : n < w.slots.size) : (w.settle n memory g).guest? n = some g := by
  unfold guest? settle
  rw [Array.getElem?_modify, if_pos rfl, Array.getElem?_eq_getElem hn]
  rfl

/-- There is a context for one more instance, and the others keep theirs. -/
lemma Typed.extend_others (hw : w.Typed contexts) (m : Module) :
    ∃ contexts', (∀ n, n ≠ w.slots.size → contexts' n = contexts n) ∧
      m.definition.Describes (contexts' w.slots.size) ∧ w.Typed contexts' := by
  obtain ⟨c, hd⟩ := m.exists_describes
  have hothers : ∀ n, n ≠ w.slots.size →
      Function.update contexts w.slots.size c n = contexts n :=
    fun n hn => Function.update_of_ne hn c contexts
  exact ⟨_, hothers, by rwa [Function.update_self],
    hw.congr fun n hn => hothers n (Nat.ne_of_lt hn)⟩

end World

namespace Point

open World (Ended Calls hostCall callWithin request resultsOf mute answerOf)

/-! ### Instances that are running -/

/-- The instances that are running are those that are not at rest, and whatever an instance owns has
the types of its context. -/
structure Fits (contexts : Nat → Context) (running : List (Nat × Guest)) (w : World σ) : Prop where
  nodup : (running.map Prod.fst).Nodup
  mem_iff : ∀ n, n ∈ running.map Prod.fst ↔ n < w.slots.size ∧ w.guest? n = none
  guest : ∀ x ∈ running, x.2.Typed (contexts x.1)
  world : w.Typed contexts

section Fits

variable {contexts : Nat → Context} {running rest : List (Nat × Guest)} {w v : World σ} {n : Nat}
  {g g' : Guest}

lemma Fits.innermost (h : Fits contexts ((n, g) :: rest) w) : g.Typed (contexts n) :=
  h.guest (n, g) (by simp)

/-- The innermost instance changes what it owns. -/
lemma Fits.setInnermost (h : Fits contexts ((n, g) :: rest) w) (hg : g'.Typed (contexts n)) :
    Fits contexts ((n, g') :: rest) w := by
  refine ⟨h.nodup, h.mem_iff, fun x hx => ?_, h.world⟩
  cases List.mem_cons.1 hx with
  | inl hx => exact hx ▸ hg
  | inr hx => exact h.guest x (List.mem_cons_of_mem _ hx)

lemma Fits.of_outline (h : Fits contexts running w) (hv : v.Typed contexts)
    (ho : v.outline = w.outline) : Fits contexts running v := by
  refine ⟨h.nodup, fun n => ?_, h.guest, hv⟩
  rw [h.mem_iff n, World.size_congr w ho, ← Option.not_isSome_iff_eq_none,
    ← Option.not_isSome_iff_eq_none, World.isSome_guest?_congr w n ho]

/-- An instance is taken from its rest. -/
lemma Fits.push (h : Fits contexts running w) (hg : w.guest? n = some g) :
    Fits contexts ((n, g) :: running) (w.setGuest n none) := by
  have hsize := World.lt_size_of_guest? w n hg
  have hnew : n ∉ running.map Prod.fst := by
    intro hn
    rw [((h.mem_iff n).1 hn).2] at hg
    cases hg
  refine ⟨List.nodup_cons.2 ⟨hnew, h.nodup⟩, fun k => ?_, fun x hx => ?_,
    h.world.setGuest_none n⟩
  · rw [List.map_cons, List.mem_cons, h.mem_iff k, World.size_setGuest, World.guest?_setGuest]
    by_cases hk : k = n
    · simp [hk, hsize]
    · simp [hk, Ne.symm hk]
  · cases List.mem_cons.1 hx with
    | inl hx => exact hx ▸ h.world.guest n g hg
    | inr hx => exact h.guest x hx

/-- It is put back. -/
lemma Fits.pop (h : Fits contexts ((n, g) :: rest) w) :
    Fits contexts rest (w.setGuest n (some g)) := by
  obtain ⟨hn, hnodup⟩ := List.nodup_cons.1 h.nodup
  refine ⟨hnodup, fun k => ?_, fun x hx => h.guest x (List.mem_cons_of_mem _ hx),
    h.world.setGuest fun g' hg => Option.some.inj hg ▸ h.innermost⟩
  have hk := h.mem_iff k
  rw [List.map_cons, List.mem_cons] at hk
  rw [World.size_setGuest, World.guest?_setGuest]
  by_cases hkn : k = n
  · subst hkn
    have hsize := (hk.1 (.inl rfl)).1
    simp [hsize, hn]
  · simp only [hkn, false_or] at hk
    simpa [Ne.symm hkn] using hk

/-- An instance comes to be at rest, or it is taken away again. -/
lemma Fits.made (h : Fits contexts [(n, g)] w) (hn : n + 1 = w.slots.size) (m : Module)
    (r : Except Stop (List Cell)) : Fits contexts [] (made m r n g w) := by
  have hothers : ∀ k < w.slots.size, k ≠ n → w.guest? k ≠ none := by
    intro k hk hkn hnone
    have hmem := (h.mem_iff k).2 ⟨hk, hnone⟩
    exact hkn (by simpa using hmem)
  have hdrop : Fits contexts [] w.dropSlot := by
    refine ⟨List.nodup_nil, fun k => ?_, by simp, World.dropSlot_typed h.world⟩
    simp only [List.map_nil, List.not_mem_nil, false_iff, not_and]
    intro hk
    have hk : k + 1 < w.slots.size := by
      simp only [World.dropSlot, Array.size_pop] at hk
      omega
    rw [World.guest?_dropSlot w hk]
    exact hothers k (by omega) (by omega)
  unfold Point.made
  split
  · refine ⟨List.nodup_nil, fun k => ?_, by simp, World.settle_typed h.world _ h.innermost⟩
    simp only [List.map_nil, List.not_mem_nil, false_iff, not_and]
    intro hk
    have hk : k < w.slots.size := by simpa [World.settle] using hk
    by_cases hkn : n = k
    · subst hkn
      rw [World.guest?_settle_self w _ g hk]
      simp
    · rw [World.guest?_settle w _ g hkn]
      exact hothers k hk (Ne.symm hkn)
  · exact hdrop

/-- An instance is added and begins to run. -/
lemma Fits.launch (h : Fits contexts [] w) {m : Module} {o : ImportObject σ}
    {ps : List (Provided σ)} {s : Wasi.Context} (hp : w.Prepares m o s ps g) :
    ∃ contexts', (∀ n, n ≠ w.slots.size → contexts' n = contexts n) ∧
      m.definition.Describes (contexts' w.slots.size) ∧
      Fits contexts' [(w.slots.size, g)] (w.addSlot m ps s) := by
  obtain ⟨contexts', hothers, hd, hw⟩ := h.world.extend_others m
  refine ⟨contexts', hothers, hd, by simp, fun k => ?_, fun x hx => ?_,
    World.addSlot_typed hw hp.imports hd⟩
  · have hk := h.mem_iff k
    simp only [List.map_nil, List.not_mem_nil, false_iff, not_and] at hk
    simp only [List.map_cons, List.map_nil, List.mem_singleton]
    by_cases hsize : k < w.slots.size
    · simp only [World.guest?_addSlot w m ps s hsize, hk hsize, and_false, iff_false]
      omega
    · simp only [World.guest?, World.addSlot, Array.size_push, Array.getElem?_push]
      by_cases hkn : k = w.slots.size
      · simp [hkn]
      · simp only [hkn, false_iff, not_and]
        omega
  · obtain rfl := List.mem_singleton.1 hx
    exact Guest.populate_typed hd (o.supplied_typed hp.imports) hp.segments

lemma fits_of_atRest (h : w.Typed contexts) (hw : w.AtRest) : Fits contexts [] w := by
  refine ⟨List.nodup_nil, fun n => ?_, by simp, h⟩
  simp only [List.map_nil, List.not_mem_nil, false_iff, not_and]
  intro hn
  exact Option.isSome_iff_ne_none.1 (hw n hn)

end Fits

/-! ### What waits and what has its turn -/

/-- Below what has its turn everything waits for results of the right types: an action for the turn to
come, anything else for results of the given types. Instances below `first` have been made, and `size`
is the number of all. -/
inductive Stacked (contexts : Nat → Context) (first size : Nat) :
    List (Waiting σ) → List Nat → Option (List ValueType) → Prop
  | host (hf : first ≤ size) : Stacked contexts first size [] [] none
  | results {ws : List (Waiting σ)} {ns : List Nat} {types : List ValueType}
      (h : Stacked contexts first size ws ns (some types)) :
      Stacked contexts first size (.results types :: ws) ns none
  | code {ws : List (Waiting σ)} {n : Nat} {ns : List Nat} {p : Program} {m : Machine}
      {awaited given : List ValueType} (fuel : Nat) (hp : p.Checked (contexts n))
      (hm : m.Typed (contexts n) awaited given)
      (h : Stacked contexts first size ws (n :: ns) (some given)) :
      Stacked contexts first size (.code p fuel m :: ws) (n :: ns) (some awaited)
  | action {ws : List (Waiting σ)} {ns : List Nat} (memory : Option Nat)
      (next : Option (Except Stop (List Cell)) → Action σ (List Value)) (n : Nat)
      (types : List ValueType) (h : Stacked contexts first size ws ns none) :
      Stacked contexts first size (.action memory next :: ws) (n :: ns) (some types)
  | start {n : Nat} (m : Module) (types : List ValueType) (hn : n + 1 = size) (hf : first ≤ n) :
      Stacked contexts first size [.start m] [n] (some types)

/-- What has its turn fits to what waits. -/
inductive Placed (contexts : Nat → Context) (first size : Nat) :
    Turn σ → List (Waiting σ) → List Nat → Prop
  | host (hf : first ≤ size) : Placed contexts first size .host [] []
  | action {ws : List (Waiting σ)} {ns : List Nat} (memory : Option Nat)
      (a : Action σ (List Value)) (h : Stacked contexts first size ws ns none) :
      Placed contexts first size (.action memory a) ws ns
  | code {ws : List (Waiting σ)} {n : Nat} {ns : List Nat} {p : Program} {m : Machine}
      {given : List ValueType} (fuel : Nat) (hp : p.Checked (contexts n))
      (hm : m.Typed (contexts n) [] given)
      (h : Stacked contexts first size ws (n :: ns) (some given)) :
      Placed contexts first size (.code p fuel m) ws (n :: ns)
  | ended {ws : List (Waiting σ)} {ns : List Nat} {r : Except Stop (List Cell)}
      {types : List ValueType} (hr : ∀ cells, r = .ok cells → cells.map Cell.type = types)
      (h : Stacked contexts first size ws ns (some types)) :
      Placed contexts first size (.ended r) ws ns

lemma Stacked.first_le {contexts : Nat → Context} {first size : Nat} {ws : List (Waiting σ)}
    {ns : List Nat} {t : Option (List ValueType)} (h : Stacked contexts first size ws ns t) :
    first ≤ size := by
  induction h with
  | host hf => exact hf
  | results _ ih => exact ih
  | code _ _ _ _ ih => exact ih
  | action _ _ _ _ _ ih => exact ih
  | start _ _ hn hf => omega

lemma Placed.first_le {contexts : Nat → Context} {first size : Nat} {turn : Turn σ}
    {ws : List (Waiting σ)} {ns : List Nat} (h : Placed contexts first size turn ws ns) :
    first ≤ size := by
  cases h with
  | host hf => exact hf
  | action _ _ h => exact h.first_le
  | code _ _ _ h => exact h.first_le
  | ended _ h => exact h.first_le

/-- Everything at the point has the types that belong there. -/
structure Typed (contexts : Nat → Context) (first : Nat) (c : Point σ) : Prop where
  placed : Placed contexts first c.world.slots.size c.turn c.waiting (c.running.map Prod.fst)
  fits : Fits contexts c.running c.world

variable {contexts : Nat → Context} {first n : Nat} {running rest : List (Nat × Guest)} {w : World σ}
  {g : Guest} {ws : List (Waiting σ)} {p : Program} {c c' : Point σ}

lemma typed_idle (h : w.Typed contexts) (hw : w.AtRest) (hf : first ≤ w.slots.size) :
    (idle w).Typed contexts first :=
  ⟨.host hf, fits_of_atRest h hw⟩

/-! ### One step -/

/-- An action ends, and its results are checked. -/
lemma finish_typed (e : Ended (List Value))
    (h : Stacked contexts first w.slots.size ws (running.map Prod.fst) none)
    (hw : Fits contexts running w) : (finish e running w ws).Typed contexts first := by
  cases ws with
  | nil =>
    generalize hns : running.map Prod.fst = ns at h
    cases h with
    | host hf =>
      obtain rfl := List.map_eq_nil_iff.1 hns
      exact ⟨.host hf, hw⟩
  | cons x ws =>
    generalize hns : running.map Prod.fst = ns at h
    cases h with
    | results h => exact ⟨.ended (fun _ => World.resultsOf_eq_ok) (hns ▸ h), hw⟩

/-- A function of the host is called with arguments of its types. -/
lemma callImport_typed (direct : Bool) {k : Nat} {t : FunctionType} {cells : List Cell}
    (hk : k < p.imported) (ht : (contexts n).functions[k]? = some t)
    (hcells : cells.map Cell.type = t.params)
    (h : Stacked contexts first w.slots.size ws (n :: rest.map Prod.fst) (some t.results))
    (hw : Fits contexts ((n, g) :: rest) w) :
    (callImport direct k cells ws n g rest w).Typed contexts first := by
  unfold callImport
  cases ho : w.opening? n k cells with
  | none =>
    have hcall := World.hostCall_keeps World.mute_keepTypes p n direct k t cells g w ht hk hcells
      hw.innermost hw.world
    have houtline := World.outline_hostCall World.steady_mute n direct k cells g w
    refine ⟨.ended hcall.result ?_, (hw.setInnermost hcall.guest).of_outline hcall.world houtline⟩
    exact (World.size_congr w houtline).symm ▸ h
  | some opened =>
    obtain ⟨f, memory, values⟩ := opened
    obtain ⟨s, hs, hf⟩ := World.opening?_eq_some ho
    have hslot := hw.world.outline n s.outline (by rw [World.outline_getElem?, hs]; rfl)
    obtain rfl := Option.some.inj ((hslot.imported k (.host f) hf).symm.trans ht)
    exact ⟨.action memory _ (.results h), hw⟩

/-- A function of an instance is called from outside. -/
lemma enter_typed {f : Address} (arguments : List Value) (hp : p.Checked (contexts f.owner))
    (h : ∀ types, Stacked contexts first w.slots.size ws (f.owner :: rest.map Prod.fst) (some types))
    (hw : Fits contexts ((f.owner, g) :: rest) w) :
    (enter f p arguments ws g rest w).Typed contexts first := by
  unfold enter
  simp only
  split
  · rename_i htakes
    obtain ⟨t, ht, hcells⟩ := (Option.any_eq_true _ _).1 htakes
    rw [hp.functions] at ht
    have hcells := eq_of_beq hcells
    split
    · rename_i hk
      exact callImport_typed true hk ht hcells (h t.results) hw
    · exact ⟨.code _ hp (Execution.Program.entry_typed hp ht hcells) (h t.results), hw⟩
  · rename_i htakes
    have henter : World.enter mute f p arguments g w =
        ⟨.error (.engine "argument type mismatch"), g, w⟩ := by
      simp only [World.enter, htakes, Bool.false_eq_true, if_false]
    rw [henter]
    exact ⟨.ended (fun _ h => nomatch h) (h []), hw⟩

/-- An action takes a step. -/
lemma act_typed (memory : Option Nat) (a : Action σ (List Value))
    (h : Stacked contexts first w.slots.size ws (running.map Prod.fst) none)
    (hw : Fits contexts running w) : (act memory ws running w a).Typed contexts first := by
  cases a with
  | done values => exact finish_typed _ h hw
  | fail message => exact finish_typed _ h hw
  | panic => exact finish_typed _ h hw
  | update change next =>
    exact ⟨.action memory _ h, hw.of_outline (hw.world.of_eq rfl fun _ => rfl) rfl⟩
  | memory r next =>
    cases running with
    | nil => exact ⟨.action memory _ h, hw⟩
    | cons x rest =>
      exact ⟨.action memory _ h, hw.setInnermost (World.request_typed memory r hw.innermost)⟩
  | operate owner o next =>
    have houtline := World.outline_operate w owner o
    refine ⟨.action memory _ ?_, hw.of_outline (hw.world.operate owner o) houtline⟩
    exact (World.size_congr w houtline).symm ▸ h
  | call f arguments next =>
    simp only [act]
    split
    · exact ⟨.action memory _ h, hw⟩
    · rename_i p g hentered
      obtain ⟨s, hs, hg⟩ := Option.bind_eq_some_iff.1 hentered
      obtain ⟨g', hg, heq⟩ := Option.map_eq_some_iff.1 hg
      cases heq
      have hguest : w.guest? f.owner = some g := by simp [World.guest?, hs, hg]
      have hslot := hw.world.outline f.owner s.outline (by rw [World.outline_getElem?, hs]; rfl)
      refine enter_typed arguments hslot.program (fun types => ?_) (hw.push hguest)
      rw [World.size_setGuest]
      exact .action memory next f.owner types h

/-- Code takes a step. -/
lemma compute_typed {m : Machine} {given : List ValueType} (fuel : Nat)
    (hp : p.Checked (contexts n)) (hm : m.Typed (contexts n) [] given)
    (h : Stacked contexts first w.slots.size ws (n :: rest.map Prod.fst) (some given))
    (hw : Fits contexts ((n, g) :: rest) w) :
    (compute p fuel m ws w ((n, g) :: rest)).Typed contexts first := by
  cases fuel with
  | zero => exact ⟨.ended (fun _ h => nomatch h) h, hw⟩
  | succ fuel =>
    have hstep := Machine.step_typed hp hm hw.innermost
    unfold compute
    simp only
    cases hs : m.step p g with
    | next m' g' =>
      rw [hs] at hstep
      exact ⟨.code fuel hp hstep.1 h, hw.setInnermost hstep.2⟩
    | finished cells g' =>
      rw [hs] at hstep
      refine ⟨.ended (fun cells' hc => ?_) h, hw.setInnermost hstep.2⟩
      cases hc
      exact hstep.1
    | fault f g' =>
      rw [hs] at hstep
      exact ⟨.ended (fun _ hc => nomatch hc) h, hw.setInnermost hstep⟩
    | host k cells m' g' =>
      rw [hs] at hstep
      obtain ⟨t, ht, hk, hcells, hm', hg'⟩ := hstep
      exact callImport_typed false hk ht hcells (.code fuel hp hm' h) (hw.setInnermost hg')

/-- What waits goes on. -/
lemma resume_typed {r : Except Stop (List Cell)} {types : List ValueType}
    (hr : ∀ cells, r = .ok cells → cells.map Cell.type = types)
    (h : Stacked contexts first w.slots.size ws (running.map Prod.fst) (some types))
    (hw : Fits contexts running w) : (resume r w ws running).Typed contexts first := by
  generalize hns : running.map Prod.fst = ns at h
  cases h with
  | code fuel hp hm h =>
    cases r with
    | ok cells => exact ⟨hns ▸ .code fuel hp (hm.resume (hr cells rfl)) h, hw⟩
    | error s => exact ⟨.ended (fun _ hc => nomatch hc) (hns ▸ h), hw⟩
  | action memory next n types h =>
    obtain ⟨⟨n, g⟩, rest, rfl, rfl, rfl⟩ := List.map_eq_cons_iff.1 hns
    refine ⟨.action memory _ ?_, hw.pop⟩
    exact (World.size_setGuest w n (some g)).symm ▸ h
  | start m types hn hf =>
    obtain ⟨⟨n, g⟩, rest, rfl, rfl, hrest⟩ := List.map_eq_cons_iff.1 hns
    obtain rfl := List.map_eq_nil_iff.1 hrest
    refine ⟨.host ?_, hw.made hn m r⟩
    show first ≤ (made m r n g w).slots.size
    unfold made
    split
    · simp only [World.settle, Array.size_modify]
      omega
    · simp only [World.dropSlot, Array.size_pop]
      omega

/-- **A step keeps all types.** -/
theorem Typed.next (h : c.Typed contexts first) (hn : c.next = some c') :
    c'.Typed contexts first := by
  obtain ⟨turn, ws, running, w⟩ := c
  obtain ⟨hplaced, hfits⟩ := h
  simp only at hplaced hfits
  generalize hns : running.map Prod.fst = ns at hplaced
  cases hplaced with
  | host hf => cases hn
  | action memory a hs =>
    cases hn
    exact act_typed memory a (hns ▸ hs) hfits
  | code fuel hp hm hs =>
    obtain ⟨⟨n, g⟩, rest, rfl, rfl, rfl⟩ := List.map_eq_cons_iff.1 hns
    cases hn
    exact compute_typed fuel hp hm hs hfits
  | ended hr hs =>
    cases hn
    exact resume_typed hr (hns ▸ hs) hfits

lemma Typed.goes (h : c.Typed contexts first) (hg : Goes c c') : c'.Typed contexts first := by
  induction hg with
  | refl => exact h
  | tail _ hn ih => exact ih.next hn

/-! ### Runs -/

variable {P : Action σ (List Value) → Prop}

/-- A new instance begins to run. -/
lemma typed_launch {m : Module} {o : ImportObject σ} {s : Wasi.Context} {ps : List (Provided σ)}
    (h : (idle w).Typed contexts first) (hp : w.Prepares m o s ps g) :
    ∃ contexts', (∀ n, n ≠ w.slots.size → contexts' n = contexts n) ∧
      m.definition.Describes (contexts' w.slots.size) ∧
      (launch w m ps s g).Typed contexts' first := by
  obtain ⟨contexts', hothers, hd, hfits⟩ := h.fits.launch hp
  have hfirst : first ≤ w.slots.size := by
    cases h.placed
    assumption
  have hstart : ∀ types, Stacked contexts' first (w.addSlot m ps s).slots.size
      [(.start m : Waiting σ)] [w.slots.size] (some types) :=
    fun types => .start m types (by simp [World.addSlot]) hfirst
  refine ⟨contexts', hothers, hd, ?_, hfits⟩
  unfold launch
  cases hf : m.definition.start with
  | none =>
    refine .ended (fun cells hc => ?_) (hstart [])
    cases hc
    rfl
  | some f =>
    have hnone : ([] : List Cell).map Cell.type = [] := rfl
    have hchecked := m.program_checked hd
    exact .code _ hchecked (Execution.Program.entry_typed hchecked (hd.startFunction hf) hnone)
      (hstart [])

/-- **A run keeps all types.** The instances that were there first keep their contexts. -/
theorem Typed.runs (h : c.Typed contexts first) (hr : Runs P c c') :
    ∃ contexts', (∀ n < first, contexts' n = contexts n) ∧ c'.Typed contexts' first := by
  induction hr with
  | refl => exact ⟨contexts, fun _ _ => rfl, h⟩
  | tail _ hs ih =>
    obtain ⟨contexts', hsame, hc⟩ := ih
    cases hs with
    | next hn => exact ⟨contexts', hsame, hc.next hn⟩
    | perform w ha =>
      cases hc.placed with
      | host hf => exact ⟨contexts', hsame, .action none _ (.host hf), hc.fits⟩
    | system w system =>
      cases hc.placed with
      | host hf =>
        exact ⟨contexts', hsame, .host hf, hc.fits.of_outline (hc.fits.world.of_eq rfl fun _ => rfl) rfl⟩
    | launch hp hps =>
      cases hc.placed with
      | host hf =>
        obtain ⟨contexts'', hothers, -, hlaunch⟩ := typed_launch hc hp
        refine ⟨contexts'', fun n hn => ?_, hlaunch⟩
        rw [hothers n (Nat.ne_of_lt (Nat.lt_of_lt_of_le hn hf)), hsame n hn]

end Point

end Embedder
