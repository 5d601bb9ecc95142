import Embedder.Instance
import Embedder.Proofs.Wasi.Functions
import Embedder.Proofs.World.History

/-!
# The files of a world

The files of a host are a tree, and instances have files of that tree open. That stays so whatever the
host does with its instances, and whatever they do.

* `World.Stable`: what the functions of the system interface keep, and what no state of the host or of
  an instance is part of;
* `World.Stable.perform`, `World.Stable.start`: an action keeps it, and a start function does;
* `World.isDirectory_of_contextFor`: what a new instance has open are directories;
* `World.Orderly`: the files are a tree, and what is open is part of it;
* `World.Orderly.perform`, `World.Orderly.instantiate`: this is kept.
-/

namespace Embedder

open Execution (Program Guest)
open FileSystem (Evolves)

variable {σ α : Type}

namespace World

/-! ### What calls keep -/

/-- It does not depend on the states of the host and of the instances, and no function of the system
interface changes it. -/
structure Stable (P : World σ → Prop) : Prop where
  host : ∀ {w : World σ} (host : σ), P w → P { w with host }
  setGuest : ∀ {w : World σ} (n : Nat) (g : Option Guest), P w → P (w.setGuest n g)
  callGenerated : ∀ {w : World σ} {n : Nat} {s : Slot σ}, w.slots[n]? = some s → P w →
    ∀ (memory : Option Nat) (v : Wasi.Version) (f : Wasi.Function) (arguments : List Cell) (g : Guest),
      P (callGenerated n s.context memory v f arguments g w).world

/-- Calls that keep it. -/
def Preserves (P : World σ → Prop) (calls : Calls σ) : Prop :=
  ∀ f arguments w, P w → P (calls f arguments w).2

namespace Stable

variable {P : World σ → Prop} {calls : Calls σ} {w : World σ} (hP : Stable P)
include hP

lemma operate (n : Nat) (o : Operation) (hw : P w) : P (w.operate n o).2 := by
  unfold World.operate
  cases w.guest? n with
  | none => exact hw
  | some g => exact hP.setGuest _ _ (hP.setGuest _ _ hw)

lemma invariant (hc : Preserves P calls) : Invariant calls fun _ v => P v where
  host := hP.host
  request _ _ hw := hw
  operate := hP.operate
  calls f arguments := hc f arguments _

lemma hostCall (hc : Preserves P calls) (n : Nat) (direct : Bool) (k : Nat) (arguments : List Cell)
    (g : Guest) (hw : P w) : P (hostCall calls n direct k arguments g w).world := by
  unfold World.hostCall
  cases hs : w.slots[n]? with
  | none => exact hw
  | some s =>
    simp only [Option.bind_some]
    cases s.imported[k]? with
    | none => exact hw
    | some imported =>
      cases imported with
      | generated v f => exact hP.callGenerated hs hw ..
      | host f => exact (hP.invariant hc).callHost _ f arguments hw

lemma enter (hc : Preserves P calls) (f : Address) (p : Program) (arguments : List Value)
    (g : Guest) (hw : P w) : P (enter calls f p arguments g w).world := by
  unfold World.enter
  simp only
  split
  · split
    · exact hP.hostCall hc _ _ _ _ _ hw
    · exact Execution.run_preserves (fun k arguments g v hv => hP.hostCall hc _ _ k arguments g hv) _ _ g hw
  · exact hw

theorem callWithin (depth : Nat) : Preserves P (callWithin depth) := by
  induction depth with
  | zero => exact fun _ _ _ hw => hw
  | succ depth ih =>
    intro f arguments w hw
    cases hg : w.guest? f.owner with
    | none =>
      rw [callWithin_none _ arguments hg]
      exact hw
    | some g =>
      obtain ⟨s, hs, hsg⟩ := Option.bind_eq_some_iff.1 hg
      rw [callWithin_some depth arguments hs hsg]
      exact hP.setGuest _ _ (hP.enter ih f s.program arguments g (hP.setGuest _ _ hw))

/-- **An action of the host keeps it.** -/
theorem perform (a : Action σ α) (hw : P w) : P (w.perform a).2 :=
  (hP.invariant (hP.callWithin _)).run none a hw

/-- **A start function keeps it.** -/
theorem start (m : Module) (n : Nat) (g : Guest) (hw : P w) : P (w.start m n g).2.2 := by
  unfold World.start
  cases m.definition.start with
  | none => exact hw
  | some f =>
    exact Execution.run_preserves
      (fun k arguments g v hv => hP.hostCall (hP.callWithin _) n false k arguments g hv) _ _ g hw

end Stable

/-! ### New contexts -/

variable {w : World σ} {n : Nat}

lemma mem_openDirectories {fs : FileSystem} {ds : List (String × String)}
    {os : List Wasi.Descriptor} (h : Wasi.Context.openDirectories fs ds = .ok os) :
    List.Forall₂ (fun d o => ∃ i, fs.openDirectory d.2 = .ok i ∧ o = .directory i (some d.1)) ds os := by
  refine (Elementwise.mapM_eq_ok_iff.1 h).imp fun d o hd => ?_
  obtain ⟨i, hi, ⟨⟩⟩ := Elementwise.bind_eq_ok_iff.1 hd
  exact ⟨i, hi, rfl⟩

lemma mem_numbered {fd first : Nat} {o : Option Wasi.Descriptor} {ds : List Wasi.Descriptor}
    (h : (fd, o) ∈ Wasi.Context.numbered first ds) : ∃ d ∈ ds, o = some d := by
  induction ds generalizing first with
  | nil => cases h
  | cons d ds ih =>
    rcases List.mem_cons.1 h with h | h
    · cases h
      exact ⟨d, List.mem_cons_self .., rfl⟩
    · obtain ⟨d', hd', ho⟩ := ih h
      exact ⟨d', List.mem_cons_of_mem _ hd', ho⟩

lemma node?_of_mem_streams {d : Wasi.Descriptor} (h : d ∈ Wasi.Context.streams) : d.node? = none := by
  simp only [Wasi.Context.streams, List.mem_cons, List.not_mem_nil, or_false] at h
  rcases h with rfl | rfl | rfl <;> rfl

/-- What a new instance has open are directories. -/
lemma isDirectory_of_contextFor {o : ImportObject σ} {c : Wasi.Context} (h : w.contextFor o = .ok c) :
    ∀ i ∈ c.nodes, w.system.files.isDirectory i = true := by
  rintro i ⟨fd, d, hd, hi⟩
  unfold contextFor at h
  cases ho : o.wasi with
  | none =>
    simp only [ho, Except.ok.injEq] at h
    subst h
    obtain ⟨d', hd', heq⟩ := mem_numbered hd
    cases heq
    cases (node?_of_mem_streams hd').symm.trans hi
  | some binding =>
    simp only [ho] at h
    unfold Wasi.Context.ofEnvironment at h
    cases hos : Wasi.Context.openDirectories w.system.files binding.environment.directories with
    | error e =>
      rw [hos] at h
      cases h
    | ok os =>
      rw [hos] at h
      cases h
      obtain ⟨d', hd', heq⟩ := mem_numbered hd
      cases heq
      rcases List.mem_append.1 hd' with hd' | hd'
      · cases (node?_of_mem_streams hd').symm.trans hi
      · obtain ⟨_, -, j, hj, hdj⟩ := Elementwise.exists_mem_of_forall₂ (mem_openDirectories hos).flip hd'
        cases hdj
        cases hi
        obtain ⟨-, -, -, hdir⟩ := FileSystem.openDirectory_eq_ok_iff.1 hj
        exact hdir

/-! ### Order -/

/-- The files are a tree, and what is open is a file of it. -/
structure Orderly (w : World σ) : Prop where
  files : w.system.files.WellFormed
  nodes_lt : ∀ {n : Nat} {s : Slot σ}, w.slots[n]? = some s →
    ∀ i ∈ s.context.nodes, i < w.system.files.nodes.size

lemma orderly_create (host : σ) {system : Wasi.System} (h : system.files.WellFormed) :
    (create host system).Orderly := ⟨h, fun hs => by simp [create] at hs⟩

namespace Orderly

lemma sealed_files (hw : w.Orderly) :
    FileSystem.Sealed { i | i < w.system.files.nodes.size } w.system.files where
  lt_size hi := hi
  closed _ hchild := by
    obtain ⟨s, hs⟩ := hchild
    exact hw.files.lt_size hs

/-- A function of the system interface opens and makes files. -/
lemma callGenerated (hw : w.Orderly) {s : Slot σ} (hs : w.slots[n]? = some s) (memory : Option Nat)
    (v : Wasi.Version) (f : Wasi.Function) (arguments : List Cell) (g : Guest) :
    (callGenerated n s.context memory v f arguments g w).world.Orderly := by
  unfold World.callGenerated
  cases memory.bind fun i => (g.memories[i]?).map fun m => (i, m) with
  | none => exact hw
  | some im =>
    let t := Wasi.Twins.self s.context w.system hw.files hw.sealed_files (hw.nodes_lt hs)
    obtain ⟨t₁, m, r, ht, -, hcall⟩ := f.call_twins t im.2 v arguments
    have hcaller : t.twin im.2 = ⟨im.2, s.context, w.system⟩ :=
      congrArg (Wasi.CallState.mk im.2 · w.system) s.context.rename_id
    rw [hcaller] at hcall
    simp only [hcall]
    refine ⟨t₁.right_files ▸ t₁.files.right_wf, fun {k s₁} hs₁ i hi => ?_⟩
    have hsystem : (t₁.twin m).system.files = t₁.files.right := t₁.right_files
    simp only [setContext, Array.getElem?_modify] at hs₁ ⊢
    rw [hsystem]
    split at hs₁
    · obtain ⟨s₀, -, rfl⟩ := Option.map_eq_some_iff.1 hs₁
      obtain ⟨j, hj, rfl⟩ := Wasi.Context.mem_nodes_rename.1 hi
      exact t₁.files.embeds.map_lt (t₁.nodes_subset hj)
    · exact Nat.lt_of_lt_of_le (hw.nodes_lt hs₁ i hi) ht.files.evolves.size_le

/-- What the slots lose or change but their contexts does not matter. -/
lemma of_slots (hw : w.Orderly) {slots : Array (Slot σ)}
    (h : ∀ {n : Nat} {s : Slot σ}, slots[n]? = some s →
      ∃ (k : Nat) (s₀ : Slot σ), w.slots[k]? = some s₀ ∧ s₀.context = s.context) :
    ({ w with slots } : World σ).Orderly := by
  refine ⟨hw.files, fun hs i hi => ?_⟩
  obtain ⟨k, s₀, hs₀, hc⟩ := h hs
  exact hw.nodes_lt hs₀ i (hc ▸ hi)

lemma modify (hw : w.Orderly) (n : Nat) {change : Slot σ → Slot σ}
    (h : ∀ s, (change s).context = s.context) :
    ({ w with slots := w.slots.modify n change } : World σ).Orderly := by
  refine hw.of_slots fun {m s} hs => ?_
  rw [Array.getElem?_modify] at hs
  split at hs
  · obtain ⟨s₀, hs₀, rfl⟩ := Option.map_eq_some_iff.1 hs
    exact ⟨m, s₀, hs₀, (h s₀).symm⟩
  · exact ⟨m, s, hs, rfl⟩

end Orderly

lemma stable_orderly : Stable (σ := σ) Orderly where
  host _ hw := ⟨hw.files, hw.nodes_lt⟩
  setGuest n _ hw := hw.modify n fun _ => rfl
  callGenerated hs hw := hw.callGenerated hs

namespace Orderly

/-- **An action of the host keeps the files and what is open in order.** -/
theorem perform (hw : w.Orderly) (a : Action σ α) : (w.perform a).2.Orderly :=
  stable_orderly.perform a hw

lemma addSlot (hw : w.Orderly) (m : Module) (ps : List (Provided σ)) {o : ImportObject σ}
    {c : Wasi.Context} (hc : w.contextFor o = .ok c) : (w.addSlot m ps c).Orderly := by
  refine ⟨hw.files, fun {k s} hs i hi => ?_⟩
  simp only [World.addSlot, Array.getElem?_push] at hs
  split at hs
  · cases hs
    exact FileSystem.lt_size_of_isDirectory (isDirectory_of_contextFor hc i hi)
  · exact hw.nodes_lt hs i hi

lemma dropSlot (hw : w.Orderly) : w.dropSlot.Orderly := by
  refine hw.of_slots fun {m s} hs => ?_
  rw [Array.getElem?_pop] at hs
  split at hs
  · exact ⟨m, s, hs, rfl⟩
  · cases hs

lemma settle (hw : w.Orderly) (n : Nat) (memory : Option Nat) (g : Guest) :
    (w.settle n memory g).Orderly := hw.modify n fun _ => rfl

lemma launch (hw : w.Orderly) (m : Module) (ps : List (Provided σ)) {o : ImportObject σ}
    {c : Wasi.Context} (hc : w.contextFor o = .ok c) (g : Guest) : (w.launch m ps c g).2.Orderly := by
  have hstart := stable_orderly.start m w.slots.size g (hw.addSlot m ps hc)
  cases hl : w.launch m ps c g with
  | mk r v =>
    obtain ⟨result, g₁, w₁, hs, hcases⟩ := launch_cases hl
    rw [hs] at hstart
    rcases hcases with ⟨_, -, -, rfl⟩ | ⟨_, -, -, -, rfl⟩ | ⟨_, -, -, -, rfl⟩
    · exact hstart.dropSlot
    · exact hstart.dropSlot
    · exact hstart.settle _ _ _

/-- **So does an instantiation**, whether it succeeds or not. -/
theorem instantiate (hw : w.Orderly) (m : Module) (o : ImportObject σ) :
    (w.instantiate m o).2.Orderly := by
  obtain ⟨r, -, hfailed⟩ | ⟨c, ps, g, hc, -, -, hlaunch⟩ := instantiate_cases w m o
  · rw [hfailed]
    exact hw
  · rw [hlaunch]
    exact hw.launch m ps hc g

end Orderly

end World

end Embedder
