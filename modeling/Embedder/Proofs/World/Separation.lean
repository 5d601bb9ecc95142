import Embedder.Proofs.Calls.Entering
import Embedder.Proofs.Calls.Start
import Embedder.Proofs.FileSystem.Changes
import Embedder.Proofs.Wasi.Marshalling
import Embedder.Proofs.Wasi.Snapshots
import Embedder.Proofs.World.Deeds
import Embedder.Proofs.World.Entities
import Mathlib

/-!
# Instances do not interfere

Whatever a host does with other instances, and whichever instances it makes or fails to make, an
instance answers as if nothing of that had happened, unless they write to a pipe or reach a file that
it has too, or both have the input of the host. Vector and atomic instructions end a call in either
case, so code behind them does nothing here.

* `World.Separate`: an instance beside all the others and beside none, with the same to show;
* `World.Separate.own`, `World.Separate.other`: it does something itself, or another one does;
* `World.Separate.refocus`: what it does not reach is left to the others;
* `World.Separate.use`, `World.Separate.instantiate`: so does a deed to others;
* `World.instances_do_not_interfere`: nobody can tell by an instance what was done to others;
* `World.instances_can_interfere`: instances that read the input of the host are not apart, and neither
  are those that are made from the import object of another one and start by changing its directory.
-/

namespace Embedder

open Execution (Guest)
open FileSystem (Evolves Sealed)

variable {σ : Type}

/-- An instance has nothing outside of `S`, and no pipe and no input of the host that the context has. -/
structure Slot.KeepsTo (c : Wasi.Context) (S : Set Nat) (s : Slot σ) : Prop where
  isLocal : s.Local
  nodes_subset : s.context.nodes ⊆ S
  pipes : ∀ k, c.UsesPipe k → ¬ s.context.UsesPipe k
  input : c.input = .inherited → s.context.input ≠ .inherited

lemma Slot.KeepsTo.of_streams {c c' : Wasi.Context} {S : Set Nat} {s : Slot σ} (h : s.KeepsTo c S)
    (hc : c.SameStreams c') : s.KeepsTo c' S where
  isLocal := h.isLocal
  nodes_subset := h.nodes_subset
  pipes k hk := h.pipes k ((hc.usesPipe_iff k).1 hk)
  input hi := h.input (hc.inherited_iff.1 hi)

namespace World

variable {w : World σ} {b n : Nat} {acting acting' S S' : Set Nat}

/-! ### An instance beside all the others, and beside none -/

/-- In the first world of the pair only the instance `b` does something, in the second one all that are
in `acting` do. These have what is in `S`, and `b` has nothing there. -/
structure Separate (acting : Set Nat) (p : Pair σ b) (S : Set Nat) : Prop where
  isSealed : Sealed S p.right.system.files
  disjoint : ∀ i ∈ p.twins.held, p.twins.map i ∉ S
  isLocal : b ∈ acting → p.slot.Local
  others : ∀ n ∈ acting, n ≠ b → ∀ s, p.right.slots[n]? = some s → s.KeepsTo p.twins.context S

lemma Pair.right_wellFormed (p : Pair σ n) : p.right.system.files.WellFormed := by
  rw [p.right_system, p.twins.right_files]
  exact p.twins.files.right_wf

lemma Pair.lt_size (p : Pair σ n) : n < p.right.slots.size :=
  (Array.getElem?_eq_some_iff.1 p.right_slot).1

/-- There is a new instance only if it was made. -/
lemma exists_made_of_launch {m : Module} {ps : List (Provided σ)} {c : Wasi.Context} {g : Guest}
    {s : Slot σ} (hs : (w.launch m ps c g).2.slots[w.slots.size]? = some s) :
    ∃ i, (w.launch m ps c g).1 = .made i ∧ i.number = w.slots.size := by
  cases hlaunch : w.launch m ps c g with
  | mk r v =>
    rw [hlaunch] at hs
    obtain ⟨result, g₁, w₁, hst, hcases⟩ := launch_cases hlaunch
    have hsize : w₁.slots.size = w.slots.size + 1 := by
      have hout := size_congr _ (outline_start (w.addSlot m ps c) m w.slots.size g)
      rw [hst] at hout
      simpa [World.addSlot] using hout
    have hdropped : w₁.dropSlot.slots[w.slots.size]? = none := by
      simp [World.dropSlot, hsize]
    rcases hcases with ⟨_, -, -, rfl⟩ | ⟨_, -, -, -, rfl⟩ | ⟨_, -, -, hr, -⟩
    · cases hdropped.symm.trans hs
    · cases hdropped.symm.trans hs
    · exact ⟨_, hr, rfl⟩

/-- The context of the instance in the second world. -/
def Pair.rightContext (p : Pair σ n) : Wasi.Context := p.twins.context.rename p.twins.map

namespace Separate

variable {p p₁ : Pair σ b}

lemma mono (h : Separate acting p S) (hsub : acting' ⊆ acting) : Separate acting' p S :=
  ⟨h.isSealed, h.disjoint, fun hb => h.isLocal (hsub hb), fun n hn => h.others n (hsub hn)⟩

/-- The instance does something itself. -/
lemma own (h : Separate acting p S) (hp : p.Leads p₁) : Separate acting p₁ S where
  isSealed := by
    have he := hp.twins.files.evolves
    rw [← p.twins.right_files, ← p.right_system, ← p₁.twins.right_files, ← p₁.right_system] at he
    refine h.isSealed.of_evolves he ?_
    rintro _ hS ⟨i, hi, rfl⟩
    exact h.disjoint i hi hS
  disjoint i hi := by
    rcases hp.twins.files.new i hi with hold | hnew
    · rw [Wasi.Twins.map, hp.twins.files.map_eq i hold]
      exact h.disjoint i hold
    · rw [← p.twins.right_files, ← p.right_system] at hnew
      exact fun hS => Nat.not_lt.2 hnew (h.isSealed.lt_size hS)
  isLocal hb := hp.local (h.isLocal hb)
  others n hn hne s hs := (h.others n hn hne s (hp.others n hne ▸ hs)).of_streams hp.twins.streams

/-- Something is done to others. -/
lemma withRight (h : Separate acting p S) {v : World σ} (hv : p.Spares S v)
    (hnew : ∀ i ∈ S', i ∈ S ∨ p.right.system.files.nodes.size ≤ i) (hsealed : Sealed S' v.system.files)
    (hothers : ∀ n ∈ acting', n ≠ b → ∀ s, v.slots[n]? = some s → s.KeepsTo p.twins.context S')
    (hsub : acting' ⊆ acting) : Separate acting' (p.withRight v hv) S' where
  isSealed := hsealed
  disjoint i hi hS := by
    have hlt := p.twins.files.embeds.map_lt hi
    rw [← p.twins.right_files, ← p.right_system] at hlt
    exact (hnew _ hS).elim (h.disjoint i hi) (Nat.not_le.2 hlt)
  isLocal hb := h.isLocal (hsub hb)
  others := hothers

/-- One of the others, twice. -/
def beside (h : Separate acting p S) {s : Slot σ} (hs : p.right.slots[n]? = some s)
    (hkeeps : s.KeepsTo p.twins.context S) : Pair σ n :=
  .self p.right hs p.right_wellFormed h.isSealed hkeeps.nodes_subset

/-- It does something. -/
lemma other (h : Separate acting p S) (hn : n ≠ b) {s : Slot σ} (hs : p.right.slots[n]? = some s)
    (hkeeps : s.KeepsTo p.twins.context S) {q : Pair σ n} (hq : (h.beside hs hkeeps).Leads q) :
    ∃ (p₁ : Pair σ b) (S₁ : Set Nat), Separate acting p₁ S₁ ∧ p₁.left = p.left ∧ p₁.right = q.right ∧
      p₁.twins.context = p.twins.context := by
  have hmap : ∀ i ∈ S, q.twins.files.map i = i := hq.twins.files.map_eq
  have hheld : S ⊆ q.twins.held := hq.twins.files.held_subset
  have hfiles : q.right.system.files = q.twins.files.right := by
    rw [q.right_system, q.twins.right_files]
  have hsub : S ⊆ q.twins.map '' q.twins.held := fun i hi => ⟨i, hheld hi, hmap i hi⟩
  have hspares : p.Spares S q.right := by
    refine ⟨hq.others b hn.symm, ?_, h.disjoint, q.right_wellFormed, fun k hk => ?_, fun hi => ?_, ?_⟩
    · rw [hfiles]
      exact hq.twins.files.evolves.mono (by rintro _ ⟨i, hi, rfl⟩; exact hi)
    · rw [q.right_system]
      exact hq.twins.pipes k (hkeeps.pipes k hk)
    · rw [q.right_system]
      exact hq.twins.input (hkeeps.input hi)
    · rw [q.right_system]
      exact hq.twins.surroundings
  refine ⟨_, _, h.withRight hspares ?_ (hfiles ▸ q.twins.files.embeds.sealed_image)
    (fun m hm hmb s' hs' => ?_) subset_rfl, rfl, rfl, rfl⟩
  · rintro _ ⟨i, hi, rfl⟩
    exact (hq.twins.files.new i hi).imp (fun hi => by rwa [hmap i hi]) id
  · by_cases hmn : m = n
    · subst hmn
      cases q.right_slot.symm.trans hs'
      refine ⟨hq.local hkeeps.isLocal, fun j hj => ?_, fun k hk hused => ?_, fun hi hinherited => ?_⟩
      · obtain ⟨i, hi, rfl⟩ := Wasi.Context.mem_nodes_rename.1 hj
        exact ⟨i, q.twins.nodes_subset hi, rfl⟩
      · exact hkeeps.pipes k hk ((hq.twins.streams.usesPipe_iff k).1 hused)
      · exact hkeeps.input hi (hq.twins.streams.inherited_iff.1 hinherited)
    · obtain ⟨hlocal, hnodes, hpipes, hinput⟩ := h.others m hm hmb s' (hq.others m hmn ▸ hs')
      exact ⟨hlocal, hnodes.trans hsub, hpipes, hinput⟩

/-- Instances come or go, or they are put to rest. -/
lemma replace (h : Separate acting p S) {v : World σ} (hsystem : v.system = p.right.system)
    (hslot : v.slots[b]? = p.right.slots[b]?)
    (hothers : ∀ n ∈ acting, n ≠ b → ∀ s, v.slots[n]? = some s → s.KeepsTo p.twins.context S) :
    ∃ p₁ : Pair σ b, Separate acting p₁ S ∧ p₁.left = p.left ∧ p₁.right = v ∧
      p₁.twins.context = p.twins.context := by
  have hspares : p.Spares S v :=
    ⟨hslot, hsystem ▸ .refl S _, h.disjoint, hsystem ▸ p.right_wellFormed,
      fun _ _ => by rw [hsystem], fun _ => by rw [hsystem], by rw [hsystem]⟩
  exact ⟨_, h.withRight hspares (fun _ => .inl) (hsystem ▸ h.isSealed) hothers subset_rfl, rfl, rfl,
    rfl⟩

/-- What the instance does not reach is left to the others. -/
lemma refocus (h : Separate acting p S) :
    ∃ p₁ : Pair σ b,
      Separate acting p₁ (p.rightContext.elsewhere p.right.system.files) ∧ p₁.left = p.left ∧
      p₁.right = p.right ∧ p₁.twins.context = p.twins.context := by
  have hfiles : p.right.system.files = p.twins.files.right := by
    rw [p.right_system, p.twins.right_files]
  have hembeds := p.twins.files.embeds
  have hreaches : Sealed { i | p.twins.context.Reaches p.twins.files.left i } p.twins.files.left :=
    Wasi.Context.sealed_reaches p.twins.files.left_wf fun i hi =>
      hembeds.isSealed.lt_size (p.twins.nodes_subset hi)
  have hheld : { i | p.twins.context.Reaches p.twins.files.left i } ⊆ p.twins.held := by
    rintro i ⟨r, hr, hi⟩
    exact hembeds.isSealed.mem_of_child (p.twins.nodes_subset hr) hi
  have hsub : S ⊆ p.rightContext.elsewhere p.right.system.files := by
    refine Wasi.Context.subset_elsewhere h.isSealed (hfiles ▸ hembeds.sealed_image) ?_ ?_
    · intro j hj
      obtain ⟨i, hi, rfl⟩ := Wasi.Context.mem_nodes_rename.1 hj
      exact ⟨i, p.twins.nodes_subset hi, rfl⟩
    · rintro _ hS ⟨i, hi, rfl⟩
      exact h.disjoint i hi hS
  let t : Wasi.Twins :=
    { p.twins with
      files := p.twins.files.restrict hheld hreaches
      nodes_subset := Wasi.Context.nodes_subset_reaches }
  refine ⟨{ p with twins := t }, ⟨Wasi.Context.sealed_elsewhere p.right_wellFormed, ?_, h.isLocal, ?_⟩,
    rfl, rfl, rfl⟩
  · rintro i ⟨r, hr, hi⟩
    refine Wasi.Context.not_mem_elsewhere ⟨p.twins.map r, Wasi.Context.mem_nodes_rename.2 ⟨r, hr, rfl⟩, ?_⟩
    rw [hfiles]
    exact hembeds.reflTransGen_child (p.twins.nodes_subset hr) hi
  · intro n hn hne s hs
    obtain ⟨hlocal, hnodes, hpipes, hinput⟩ := h.others n hn hne s hs
    exact ⟨hlocal, hnodes.trans hsub, hpipes, hinput⟩

/-! ### What is done to others -/

/-- An export of another instance is used. -/
lemma use (h : Separate acting p S) {u : Use} (hu : u.owner ∈ acting) (hne : u.owner ≠ b) :
    ∃ (p₁ : Pair σ b) (S₁ : Set Nat), Separate acting p₁ S₁ ∧
      p₁.left = p.left ∧ p₁.right = (p.right.perform u.action).2 := by
  cases hs : p.right.slots[u.owner]? with
  | none =>
    have hguest : p.right.guest? u.owner = none := by simp [guest?, hs]
    exact ⟨p, S, h, rfl, (perform_of_running hguest).symm⟩
  | some s =>
    have hkeeps := h.others _ hu hne s hs
    obtain ⟨ended, q, hq, -, hright⟩ := (h.beside hs hkeeps).perform hkeeps.isLocal rfl
    obtain ⟨p₁, S₁, h₁, hleft, hp₁, -⟩ := h.other hne hs hkeeps hq
    have hworld : p.right.perform u.action = (ended, q.right) := hright
    exact ⟨p₁, S₁, h₁, hleft, by rw [hp₁, hworld]⟩

/-- A new instance is there. -/
lemma addSlot (h : Separate acting p S) (m : Module) (ps : List (Provided σ)) (c : Wasi.Context)
    (hnew : p.right.slots.size ∈ acting → ∀ s,
      (p.right.addSlot m ps c).slots[p.right.slots.size]? = some s → s.KeepsTo p.twins.context S) :
    ∃ p₁ : Pair σ b, Separate acting p₁ S ∧ p₁.left = p.left ∧ p₁.right = p.right.addSlot m ps c ∧
      p₁.twins.context = p.twins.context := by
  refine h.replace rfl ?_ fun n hn hne s hs => ?_
  · simp [World.addSlot, Array.getElem?_push, Nat.ne_of_lt p.lt_size]
  · by_cases hlast : n = p.right.slots.size
    · subst hlast
      exact hnew hn s hs
    · refine h.others n hn hne s ?_
      simpa [World.addSlot, Array.getElem?_push, hlast] using hs

/-- Its start function runs, if it has one. -/
lemma start (h : Separate acting p S) {s : Slot σ} (hs : p.right.slots[n]? = some s) (hne : n ≠ b)
    (m : Module) (g : Guest) (hkeeps : m.definition.start ≠ none → s.KeepsTo p.twins.context S) :
    ∃ (p₁ : Pair σ b) (S₁ : Set Nat), Separate acting p₁ S₁ ∧
      p₁.left = p.left ∧ p₁.right = (p.right.start m n g).2.2 := by
  unfold World.start
  cases hstart : m.definition.start with
  | none => exact ⟨p, S, h, rfl, rfl⟩
  | some f =>
    have hkeeps := hkeeps (by simp [hstart])
    let host : Execution.HostCall (World σ) := hostCall (callWithin p.right.resting) n false
    have hrun : (Execution.invoke m.program host f [] g p.right).Agrees (h.beside hs hkeeps).Reaches
        (Execution.invoke m.program host f [] g p.right) :=
      (h.beside hs hkeeps).invoke_agrees hkeeps.isLocal ..
    obtain ⟨-, -, q, hq, -, hright⟩ := hrun
    obtain ⟨p₁, S₁, h₁, hleft, hp₁, -⟩ := h.other hne hs hkeeps hq
    exact ⟨p₁, S₁, h₁, hleft, hp₁.trans hright⟩

/-- The last instance is taken away. -/
lemma dropSlot (h : Separate acting p S) (hb : b + 1 < p.right.slots.size) :
    ∃ p₁ : Pair σ b, Separate acting p₁ S ∧ p₁.left = p.left ∧ p₁.right = p.right.dropSlot := by
  obtain ⟨p₁, h₁, hleft, hright, -⟩ := h.replace (v := p.right.dropSlot) rfl
    (by simp [World.dropSlot, Array.getElem?_pop]; omega) fun n hn hne s hs => by
      refine h.others n hn hne s ?_
      simp only [World.dropSlot, Array.getElem?_pop] at hs
      split at hs
      · exact hs
      · cases hs
  exact ⟨p₁, h₁, hleft, hright⟩

/-- Another instance is put to rest. -/
lemma settle (h : Separate acting p S) (hn : n ≠ b) (memory : Option Nat) (g : Guest) :
    ∃ p₁ : Pair σ b, Separate acting p₁ S ∧ p₁.left = p.left ∧ p₁.right = p.right.settle n memory g := by
  obtain ⟨p₁, h₁, hleft, hright, -⟩ := h.replace (v := p.right.settle n memory g) rfl
    (by simp [World.settle, Array.getElem?_modify, hn]) fun k hk hne s hs => by
      simp only [World.settle, Array.getElem?_modify] at hs
      split at hs
      · rename_i hnk
        subst hnk
        obtain ⟨s₀, hs₀, rfl⟩ := Option.map_eq_some_iff.1 hs
        obtain ⟨hlocal, hnodes, hpipes, hinput⟩ := h.others n hk hne s₀ hs₀
        exact ⟨hlocal, hnodes, hpipes, hinput⟩
      · exact h.others k hk hne s hs
  exact ⟨p₁, h₁, hleft, hright⟩

/-- It rests, or it is taken away. -/
lemma launch (h : Separate acting p S) (m : Module) (ps : List (Provided σ)) (c : Wasi.Context)
    (g : Guest) (hnew : m.definition.start ≠ none ∨ p.right.slots.size ∈ acting → ∀ s,
      (p.right.addSlot m ps c).slots[p.right.slots.size]? = some s → s.KeepsTo p.twins.context S) :
    ∃ (p₁ : Pair σ b) (S₁ : Set Nat), Separate acting p₁ S₁ ∧
      p₁.left = p.left ∧ p₁.right = (p.right.launch m ps c g).2 := by
  obtain ⟨p₁, h₁, hleft₁, hright₁, hcontext₁⟩ := h.addSlot m ps c fun hin => hnew (.inr hin)
  have hslot : ∃ s, p₁.right.slots[p.right.slots.size]? = some s := by
    rw [hright₁]
    simp [World.addSlot]
  obtain ⟨s, hs⟩ := hslot
  obtain ⟨p₂, S₂, h₂, hleft₂, hright₂⟩ := h₁.start hs (Nat.ne_of_gt p.lt_size) m g fun hstart =>
    hcontext₁ ▸ hnew (.inl hstart) s (hright₁ ▸ hs)
  have hsize : p₂.right.slots.size = p.right.slots.size + 1 := by
    rw [hright₂, hright₁, size_congr _ (outline_start ..)]
    simp [World.addSlot]
  have hb := p.lt_size
  cases hlaunch : p.right.launch m ps c g with
  | mk r v =>
    obtain ⟨result, g₁, w₁, hst, hcases⟩ := launch_cases hlaunch
    have hworld : p₂.right = w₁ := by rw [hright₂, hright₁, hst]
    have hleft : p₂.left = p.left := hleft₂.trans hleft₁
    obtain hv | hv : v = w₁.dropSlot ∨ v = w₁.settle p.right.slots.size m.boundMemory g₁ := by
      rcases hcases with ⟨_, -, -, hv⟩ | ⟨_, -, -, -, hv⟩ | ⟨_, -, -, -, hv⟩
      · exact .inl hv
      · exact .inl hv
      · exact .inr hv
    · obtain ⟨p₃, h₃, hleft₃, hright₃⟩ := h₂.dropSlot (by omega)
      exact ⟨p₃, S₂, h₃, hleft₃.trans hleft, by rw [hright₃, hworld, hv]⟩
    · obtain ⟨p₃, h₃, hleft₃, hright₃⟩ := h₂.settle (Nat.ne_of_gt hb) m.boundMemory g₁
      exact ⟨p₃, S₂, h₃, hleft₃.trans hleft, by rw [hright₃, hworld, hv]⟩

/-- An instance is made, or it cannot be made. -/
lemma instantiate (h : Separate acting p S) {m : Module} {o : ImportObject σ} (ho : o.Local)
    (hnew : ∀ c, p.right.Launches m o c → p.right.ApartFrom b c ∨ m.definition.start = none ∧
      ∀ i, (p.right.instantiate m o).1 = .made i → i.number ∉ acting) :
    ∃ (p₁ : Pair σ b) (S₁ : Set Nat), Separate acting p₁ S₁ ∧ p₁.left = p.left ∧
      p₁.right = (p.right.instantiate m o).2 := by
  obtain ⟨r, -, hfailed⟩ | ⟨c, ps, g, hc, hps, hg, hlaunch⟩ := instantiate_cases p.right m o
  · exact ⟨p, S, h, rfl, by rw [hfailed]⟩
  rw [hlaunch] at hnew ⊢
  rcases hnew c ⟨hc, ps, g, hps, hg⟩ with hapart | ⟨hstart, hidle⟩
  · obtain ⟨p₁, h₁, hleft, hright, hcontext⟩ := h.refocus
    rw [← hleft, ← hright]
    refine h₁.launch m ps c g fun _ s hs => ?_
    simp only [World.addSlot, Array.getElem?_push_size, Option.some.injEq] at hs
    subst hs
    have hlt : ∀ i ∈ c.nodes, i < p.right.system.files.nodes.size := fun i hi =>
      FileSystem.lt_size_of_isDirectory (isDirectory_of_contextFor hc i hi)
    have hapart : p.rightContext.Apart p.right.system.files c := hapart _ p.right_slot
    rw [hcontext]
    refine ⟨fun k f hf => local_of_resolve ho hps hf, hapart.nodes_subset hlt, fun k hk => ?_,
      hapart.input⟩
    exact hapart.pipes k hk
  · -- The new instance is there for a while, but nobody uses it.
    obtain ⟨p₁, S₁, h₁, hleft, hright⟩ := (h.mono (Set.sdiff_subset (t := {p.right.slots.size}))).launch
      m ps c g fun hneeded => hneeded.elim (absurd hstart) fun hin => absurd rfl hin.2
    refine ⟨p₁, S₁, ⟨h₁.isSealed, h₁.disjoint, fun hb => h₁.isLocal ⟨hb, Nat.ne_of_lt p.lt_size⟩,
      fun n hn hne s hs => h₁.others n ⟨hn, ?_⟩ hne s hs⟩, hleft, hright⟩
    rintro rfl
    rw [hright] at hs
    obtain ⟨i, hi, hnumber⟩ := exists_made_of_launch hs
    exact hidle i hi (hnumber ▸ hn)

end Separate

/-! ### Whole runs -/

/-- The instances that deeds use. -/
def users (deeds : List (Deed σ)) : Set Nat := { n | ∃ u, Deed.use u ∈ deeds ∧ u.owner = n }

lemma users_subset (d : Deed σ) (rest : List (Deed σ)) : users rest ⊆ users (d :: rest) := by
  rintro n ⟨u, hu, rfl⟩
  exact ⟨u, List.mem_cons_of_mem _ hu, rfl⟩

/-- One deed after another, beside the deeds of the instance alone. -/
theorem Separate.follow {deeds : List (Deed σ)} {p : Pair σ b} (h : Separate (users deeds) p S)
    (hmakes : MakesApart b deeds p.right) :
    ∃ answers, ∃ p₁ : Pair σ b, World.follow b deeds p.right = (answers, p₁.right) ∧
      World.follow b (deeds.filter (Deed.isOf b)) p.left = (answers, p₁.left) := by
  induction deeds generalizing p S with
  | nil => exact ⟨[], p, rfl, rfl⟩
  | cons d rest ih =>
    have hrest := h.mono (users_subset d rest)
    cases d with
    | use u =>
      have hu : u.owner ∈ users (Deed.use u :: rest) := ⟨u, List.mem_cons_self .., rfl⟩
      by_cases hub : u.owner = b
      · obtain ⟨ended, p₁, hp, hleft, hright⟩ := p.perform (h.isLocal (hub ▸ hu)) hub
        have hmakes : MakesApart b rest (p.right.perform u.action).2 := hmakes
        rw [hright] at hmakes
        obtain ⟨answers, p₂, hfull, halone⟩ := ih (hrest.own hp) hmakes
        refine ⟨⟨u, ended⟩ :: answers, p₂, ?_, ?_⟩
        · simp only [World.follow, hright, hfull, if_pos hub]
        · have hof : (Deed.use u : Deed σ).isOf b = true := beq_iff_eq.2 hub
          rw [List.filter_cons_of_pos hof]
          simp only [World.follow, hleft, halone, if_pos hub]
      · obtain ⟨p₁, S₁, h₁, hleft, hright⟩ := h.use hu hub
        have hmakes : MakesApart b rest (p.right.perform u.action).2 := hmakes
        rw [← hright] at hmakes
        obtain ⟨answers, p₂, hfull, halone⟩ := ih (h₁.mono (users_subset _ _)) hmakes
        rw [hleft] at halone
        refine ⟨answers, p₂, ?_, ?_⟩
        · simp only [World.follow, ← hright, hfull, if_neg hub]
        · have hof : ¬ (Deed.use u : Deed σ).isOf b = true := fun ho => hub (beq_iff_eq.1 ho)
          rwa [List.filter_cons_of_neg hof]
    | create m o =>
      obtain ⟨⟨ho, hnew⟩, hmakes⟩ := hmakes
      obtain ⟨p₁, S₁, h₁, hleft, hright⟩ := hrest.instantiate ho fun c hc =>
        (hnew c hc).imp id fun hidle => ⟨hidle.1, fun i hi => by
          rintro ⟨u, hu, hn⟩
          exact hidle.2 i hi u hu hn⟩
      rw [← hright] at hmakes
      obtain ⟨answers, p₂, hfull, halone⟩ := ih h₁ hmakes
      rw [hleft] at halone
      refine ⟨answers, p₂, ?_, ?_⟩
      · simp only [World.follow, ← hright, hfull]
      · rwa [List.filter_cons_of_neg (by simp [Deed.isOf])]

lemma Pair.view_eq (p : Pair σ n) : p.right.view n = p.left.view n := by
  have hinput : (p.twins.context.rename p.twins.map).input.left p.right.system =
      p.twins.context.input.left p.left.system := by
    rw [p.right_system, p.left_system]
    exact p.twins.left_input_eq
  unfold view
  rw [p.left_slot, p.right_slot]
  simp only [Option.map_some, hinput]
  simp [Wasi.Context.rename, Function.comp_def]

/-- The instance `b` where it all begins. -/
lemma exists_separate (hw : w.Orderly) {s : Slot σ} (hs : w.slots[b]? = some s) {deeds : List (Deed σ)}
    (h : w.UsesApart b deeds) :
    ∃ (p : Pair σ b) (S : Set Nat), Separate (users deeds) p S ∧ p.left = w ∧ p.right = w := by
  have hreaches := Wasi.Context.sealed_reaches hw.files (hw.nodes_lt hs)
  refine ⟨.self w hs hw.files hreaches Wasi.Context.nodes_subset_reaches,
    s.context.elsewhere w.system.files, ⟨Wasi.Context.sealed_elsewhere hw.files,
      fun i hi => Wasi.Context.not_mem_elsewhere hi, ?_, ?_⟩, rfl, rfl⟩
  · rintro ⟨u, hu, rfl⟩
    exact (h u hu s hs).1
  · rintro n ⟨u, hu, rfl⟩ hne s' hs'
    obtain ⟨hlocal, hapart⟩ := h u hu s' hs'
    have hapart := hapart hne s hs
    exact ⟨hlocal, hapart.nodes_subset (hw.nodes_lt hs'), hapart.pipes, hapart.input⟩

/-- **Instances do not interfere.** Whatever else a host does between the uses of an instance, with other
instances and to make further ones, the instance answers as if nothing of that had been done, and in the
end it is in the same state. -/
theorem instances_do_not_interfere {w : World σ} (hw : w.Orderly) {b : Nat} (hb : b < w.slots.size)
    {deeds : List (Deed σ)} (huses : w.UsesApart b deeds) (hmakes : MakesApart b deeds w) :
    (w.follow b deeds).1 = (w.follow b (deeds.filter (Deed.isOf b))).1 ∧
      (w.follow b deeds).2.view b = (w.follow b (deeds.filter (Deed.isOf b))).2.view b := by
  obtain ⟨p, S, hp, hleft, hright⟩ := exists_separate hw (Array.getElem?_eq_getElem hb) huses
  obtain ⟨answers, p₁, hfull, halone⟩ := hp.follow (hright ▸ hmakes)
  rw [hright] at hfull
  rw [hleft] at halone
  rw [hfull, halone]
  exact ⟨rfl, p₁.view_eq⟩

end World

/-! ### Two neighbours -/

/-- Two empty directories, and two pipes. -/
def Wasi.System.twoRooms : Wasi.System where
  files := ⟨#[.directory (some 0) [("a", 1), ("b", 2)], .directory (some 0) [],
    .directory (some 0) []], 0⟩
  pipes := #[.create none, .create (some 3)]
  printed := []
  printedErrors := []
  input := []
  surroundings := .plain

lemma Wasi.System.wellFormed_twoRooms : twoRooms.files.WellFormed := by
  have ha : FileSystem.empty.add "/a" .directory =
      .ok ⟨#[.directory (some 0) [("a", 1)], .directory (some 0) []], 0⟩ := by cbv
  have hb : (⟨#[.directory (some 0) [("a", 1)], .directory (some 0) []], 0⟩ : FileSystem).add "/b"
      .directory = .ok twoRooms.files := by cbv
  exact (FileSystem.wellFormed_empty.add ha).add hb

/-- The counter for a program that has a directory, some input and a pipe. -/
def ImportObject.counterFor (path : String) (pipe : Nat) : ImportObject Unit :=
  { counter with
    wasi := some ⟨⟨"p", [], [], [("d", path)], .bytes [1, 2], .pipe pipe, .null⟩, .snapshot1, 0⟩ }

lemma ImportObject.resolve_counterFor (path : String) (pipe : Nat) :
    (counterFor path pipe).resolve .twins =
      .ok [.global ⟨.i32, true⟩ (.i32 0), .global ⟨.i32, true⟩ (.i32 0)] := by
  have hserves : (counterFor path pipe).Serves ⟨"host", "g", .global ⟨.i32, true⟩⟩
      (.global ⟨.i32, true⟩ (.i32 0)) := .item get?_counter (.global _ _ rfl)
  rw [resolve_eq_ok_iff]
  refine ⟨fun b hb => ?_, .cons hserves (.cons hserves .nil), fun hs => ?_⟩
  · cases hb
    rfl
  · cases hs

lemma ImportObject.local_counterFor (path : String) (pipe : Nat) :
    (counterFor path pipe).Local := by
  intro ns name f hf
  by_cases hk : (("host", "g") : String × String) = (ns, name)
  · cases hk
    cases get?_counter.symm.trans hf
  · have hnone : counter.get? ns name = none := Dictionary.find?_insert_of_ne [] _ hk
    cases hnone.symm.trans hf

namespace Wasi.Context

/-- What such a program starts with. -/
def inRoom (node pipe : Nat) : Context :=
  ⟨["p"], [], .own [1, 2], .pipe pipe, .null,
    numbered 0 (streams ++ [.directory node (some "d")]), 0, 0⟩

lemma mem_nodes_inRoom {node pipe i : Nat} (h : i ∈ (inRoom node pipe).nodes) : i = node := by
  obtain ⟨fd, d, hd, hi⟩ := h
  obtain ⟨d', hd', heq⟩ := World.mem_numbered hd
  cases heq
  rcases List.mem_append.1 hd' with hd' | hd'
  · cases (World.node?_of_mem_streams hd').symm.trans hi
  · cases List.mem_singleton.1 hd'
    cases hi
    rfl

lemma reaches_inRoom {node pipe i : Nat} (hn : System.twoRooms.files.entries node = [])
    (h : (inRoom node pipe).Reaches System.twoRooms.files i) : i = node := by
  obtain ⟨r, hr, hi⟩ := h
  cases mem_nodes_inRoom hr
  rcases hi.cases_head with rfl | ⟨j, ⟨s, hs⟩, -⟩
  · rfl
  · rw [hn] at hs
    cases hs

lemma apart_inRoom : (inRoom 2 1).Apart System.twoRooms.files (inRoom 1 0) where
  pipes := by
    rintro k (hk | hk) (hk' | hk') <;> cases hk <;> cases hk'
  files i hi hi' := by
    cases (reaches_inRoom rfl hi).symm.trans (reaches_inRoom rfl hi')
  input := by
    rintro ⟨⟩

end Wasi.Context

namespace World

/-- Two instances of one module, each with a directory and a pipe of its own. -/
def neighbours : World Unit :=
  ((World.instantiate (.create () .twoRooms) .twins (.counterFor "/a" 0)).2.instantiate .twins
    (.counterFor "/b" 1)).2

def neighbour (c : Wasi.Context) : Slot Unit where
  program := Module.twins.program
  imported := #[]
  boundMemory := none
  exportedMemory := none
  context := c
  guest := some ⟨#[], #[], #[.value (.i32 0), .value (.i32 0)], #[], #[]⟩

lemma neighbours_eq :
    neighbours = ⟨(), #[neighbour (.inRoom 1 0), neighbour (.inRoom 2 1)], .twoRooms⟩ := by
  have ha : (create () .twoRooms).contextFor (.counterFor "/a" 0) = .ok (.inRoom 1 0) := by cbv
  have hb : (⟨(), #[neighbour (.inRoom 1 0)], .twoRooms⟩ : World Unit).contextFor
    (.counterFor "/b" 1) = .ok (.inRoom 2 1) := by cbv
  have hfirst : ((create () .twoRooms).instantiate .twins (.counterFor "/a" 0)).2 =
      ⟨(), #[neighbour (.inRoom 1 0)], .twoRooms⟩ := by
    rw [instantiate_eq_made ha (ImportObject.resolve_counterFor ..) rfl rfl rfl]
    rfl
  rw [neighbours, hfirst, instantiate_eq_made hb (ImportObject.resolve_counterFor ..) rfl rfl rfl]
  rfl

lemma orderly_neighbours : neighbours.Orderly :=
  ((orderly_create () Wasi.System.wellFormed_twoRooms).instantiate ..).instantiate ..

/-- One of them counts, and another instance is made from what the other one was made from. The other
one is asked what it counts. -/
def exchange : List (Deed Unit) :=
  [.use (.globalSet ⟨⟨0, 0⟩, ⟨.i32, true⟩⟩ (.i32 5)), .create .twins (.counterFor "/b" 1),
    .use (.globalGet ⟨⟨1, 0⟩, ⟨.i32, true⟩⟩)]

lemma usesApart_exchange : neighbours.UsesApart 1 exchange := by
  have hlocal : ∀ c, (neighbour c).Local := fun c k f hf => by simp [neighbour] at hf
  rw [neighbours_eq]
  intro u hu s hs
  simp only [exchange, List.mem_cons, Deed.use.injEq, reduceCtorEq, List.not_mem_nil, or_false,
    false_or] at hu
  rcases hu with rfl | rfl
  · cases hs
    refine ⟨hlocal _, fun _ s' hs' => ?_⟩
    cases hs'
    exact Wasi.Context.apart_inRoom
  · cases hs
    exact ⟨hlocal _, fun hne => absurd rfl hne⟩

/-- The further instance gets a number that nobody uses. -/
lemma makesApart_exchange : MakesApart 1 exchange neighbours := by
  refine ⟨⟨ImportObject.local_counterFor _ _, fun c hc => .inr ⟨rfl, fun i hi u hu => ?_⟩⟩, trivial⟩
  have hnumber : i.number = 2 := by
    obtain ⟨_, -, hi, -⟩ := outline_instantiate_made (Prod.ext hi rfl)
    rw [hi, size_congr _ (outline_perform ..), neighbours_eq]
    rfl
  rw [hnumber]
  simp only [List.mem_singleton, Deed.use.injEq] at hu
  rw [hu]
  decide

/-- It still stands at zero. -/
theorem neighbour_keeps_its_count :
    Module.compile (.standard 0) Module.twins.binary = .ok .twins ∧ neighbours.Orderly ∧
      1 < neighbours.slots.size ∧ neighbours.UsesApart 1 exchange ∧ MakesApart 1 exchange neighbours ∧
      (neighbours.follow 1 exchange).1 =
        [⟨.globalGet ⟨⟨1, 0⟩, ⟨.i32, true⟩⟩, .done (.ok (.i32 0))⟩] := by
  have hguest : neighbours.guest? 1 =
      some ⟨#[], #[], #[.value (.i32 0), .value (.i32 0)], #[], #[]⟩ := by
    rw [neighbours_eq]
    rfl
  have hb := lt_size_of_guest? _ _ hguest
  obtain ⟨hanswers, -⟩ := instances_do_not_interfere orderly_neighbours hb usesApart_exchange
    makesApart_exchange
  have halone : exchange.filter (Deed.isOf 1) = [.use (.globalGet ⟨⟨1, 0⟩, ⟨.i32, true⟩⟩)] := rfl
  refine ⟨Module.compile_twins, orderly_neighbours, hb, usesApart_exchange, makesApart_exchange, ?_⟩
  rw [hanswers, halone]
  simp only [follow, perform, Use.action, Handle.get, run, operate_of_guest? _ _ hguest]
  rfl

end World

/-! ### Where they do -/

/-- A program that makes a directory when it starts. It takes it away when it is asked to leave, and
reads a byte when it is asked to read. -/
def Module.lodgerDefinition : Definition :=
  { Definition.empty with
    types := [⟨[.i32, .i32, .i32], [.i32]⟩, ⟨[.i32, .i32, .i32, .i32], [.i32]⟩, ⟨[], []⟩, ⟨[], [.i32]⟩]
    imports := [⟨"wasi_snapshot_preview1", "path_create_directory", .function 0⟩,
      ⟨"wasi_snapshot_preview1", "path_remove_directory", .function 0⟩,
      ⟨"wasi_snapshot_preview1", "fd_read", .function 1⟩]
    functions := [2, 3, 3]
    memories := [⟨1, none, false, false⟩]
    exports := [⟨"memory", .memory, 0⟩, ⟨"leave", .function, 4⟩, ⟨"read", .function, 5⟩]
    start := some 3
    bodies := [
      ⟨[], [.op (.const (.i32 3)), .op (.const (.i32 8)), .op (.const (.i32 1)), .op (.call 0),
        .op .drop]⟩,
      ⟨[], [.op (.const (.i32 3)), .op (.const (.i32 8)), .op (.const (.i32 1)), .op (.call 1)]⟩,
      ⟨[], [.op (.const (.i32 0)), .op (.const (.i32 0)), .op (.const (.i32 1)),
        .op (.const (.i32 16)), .op (.call 2)]⟩]
    datas := [⟨.active 0 [.op (.const (.i32 0))], [12, 0, 0, 0, 1, 0, 0, 0, 120]⟩] }

def Module.lodger : Module where
  engine := .standard 0
  binary := Binary.encode lodgerDefinition .empty
  definition := lodgerDefinition
  code := [.ofOps [.const (.i32 3), .const (.i32 8), .const (.i32 1), .call 0, .drop],
    .ofOps [.const (.i32 3), .const (.i32 8), .const (.i32 1), .call 1],
    .ofOps [.const (.i32 0), .const (.i32 0), .const (.i32 1), .const (.i32 16), .call 2]]
  imports := [⟨"wasi_snapshot_preview1", "path_create_directory",
      .function Wasi.Function.pathCreateDirectory.type⟩,
    ⟨"wasi_snapshot_preview1", "path_remove_directory",
      .function Wasi.Function.pathRemoveDirectory.type⟩,
    ⟨"wasi_snapshot_preview1", "fd_read", .function Wasi.Function.fdRead.type⟩]
  exports := [⟨"memory", .memory ⟨1, none, false, false⟩⟩, ⟨"leave", .function ⟨[], [.i32]⟩⟩,
    ⟨"read", .function ⟨[], [.i32]⟩⟩]
  customs := []
  name := none
  bodies_eq := by decide
  imports_eq := rfl
  exports_eq := rfl

lemma Module.compile_lodger : compile (.standard 0) lodger.binary = .ok lodger :=
  compile_self (m := lodger) (by decide +kernel) (by decide +kernel) (by decide +kernel) rfl rfl

section

open Execution

variable {W : Type} {host : HostCall W} {g g' : Guest} {w w' : W} {n : UInt32}

lemma Module.invoke_lodger (steps : Nat) {f : Nat} {results : List Cell}
    (h : run lodger.program host steps (lodger.program.entry f []) g w = ⟨.ok results, g', w'⟩)
    (hsteps : steps ≤ Engine.standardPatience) :
    invoke lodger.program host f [] g w = ⟨.ok results, g', w'⟩ :=
  (run_eq_of_le hsteps (fun hs => nomatch (congrArg Outcome.result h).symm.trans hs)).trans h

lemma Module.invoke_lodger_start (h : host 0 [.i32 3, .i32 8, .i32 1] g w = ⟨.ok [.i32 n], g', w'⟩) :
    invoke lodger.program host 3 [] g w = ⟨.ok [], g', w'⟩ :=
  invoke_lodger 8 ((run_of_next rfl).trans <| (run_of_next rfl).trans <|
    (run_of_next rfl).trans <| (run_of_next rfl).trans <| (run_of_host rfl h).trans <|
    (run_of_next rfl).trans <| (run_of_next rfl).trans (run_of_finished rfl)) (by decide)

lemma Module.invoke_lodger_leave (h : host 1 [.i32 3, .i32 8, .i32 1] g w = ⟨.ok [.i32 n], g', w'⟩) :
    invoke lodger.program host 4 [] g w = ⟨.ok [.i32 n], g', w'⟩ :=
  invoke_lodger 7 ((run_of_next rfl).trans <| (run_of_next rfl).trans <|
    (run_of_next rfl).trans <| (run_of_next rfl).trans <| (run_of_host rfl h).trans <|
    (run_of_next rfl).trans (run_of_finished rfl)) (by decide)

lemma Module.invoke_lodger_read
    (h : host 2 [.i32 0, .i32 0, .i32 1, .i32 16] g w = ⟨.ok [.i32 n], g', w'⟩) :
    invoke lodger.program host 5 [] g w = ⟨.ok [.i32 n], g', w'⟩ :=
  invoke_lodger 8 ((run_of_next rfl).trans <| (run_of_next rfl).trans <|
    (run_of_next rfl).trans <| (run_of_next rfl).trans <| (run_of_next rfl).trans <|
    (run_of_host rfl h).trans <| (run_of_next rfl).trans (run_of_finished rfl)) (by decide)

end

def lodgerMemory : Memory :=
  (Memory.ofType ⟨1, none, false, false⟩).write 0 [12, 0, 0, 0, 1, 0, 0, 0, 120]

def lodgerGuest (m : Memory) : Guest := ⟨#[m], #[], #[], #[], #[[]]⟩

/-- What serves its imports. -/
def lodgerImports : List (Provided Unit) :=
  [.generated .snapshot1 .pathCreateDirectory, .generated .snapshot1 .pathRemoveDirectory,
    .generated .snapshot1 .fdRead]

namespace World

def lodger (c : Wasi.Context) (m : Memory) : Slot Unit where
  program := Module.lodger.program
  imported := #[.generated .snapshot1 .pathCreateDirectory, .generated .snapshot1 .pathRemoveDirectory,
    .generated .snapshot1 .fdRead]
  boundMemory := some 0
  exportedMemory := some 0
  context := c
  guest := some (lodgerGuest m)

variable {system system' : Wasi.System} {c c' : Wasi.Context} {m m' : Memory} {e : UInt32} {n : Nat}
  {r : Except Wasi.Ending Unit}

/-- What the host has of an instance. -/
def lodgerInstance (n : Nat) : Instance :=
  ⟨n, .lodger, ⟨[⟨"memory", .memory ⟨⟨n, 0⟩, ⟨1, none, false, false⟩⟩⟩,
    ⟨"leave", .function ⟨⟨n, 4⟩, ⟨[], [.i32]⟩⟩⟩, ⟨"read", .function ⟨⟨n, 5⟩, ⟨[], [.i32]⟩⟩⟩]⟩⟩

/-- It is made, whatever the making of the directory was answered with. -/
lemma instantiate_lodger (slots : Array (Slot Unit)) {o : ImportObject Unit}
    (hc : (⟨(), slots, system⟩ : World Unit).contextFor o = .ok c)
    (ho : o.resolve .lodger = .ok lodgerImports)
    (h : (Wasi.Calling.createDirectory 3 8 1).ends ⟨lodgerMemory, c, system⟩ =
      (r, ⟨lodgerMemory, c, system'⟩)) (hr : Wasi.Function.answer r = .ok [.i32 e]) :
    World.instantiate ⟨(), slots, system⟩ .lodger o =
      (.made (lodgerInstance slots.size), ⟨(), slots.push (lodger c lodgerMemory), system'⟩) := by
  have hcall : Wasi.Function.pathCreateDirectory.call .snapshot1 [.i32 3, .i32 8, .i32 1]
      ⟨lodgerMemory, c, system⟩ = (.ok [.i32 e], ⟨lodgerMemory, c, system'⟩) :=
    hr ▸ Wasi.Function.call_of_ends h
  let w : World Unit := ⟨(), slots, system⟩
  let v : World Unit := World.addSlot ⟨(), slots, system'⟩ .lodger lodgerImports c
  have hp : w.Prepares .lodger o c lodgerImports (lodgerGuest lodgerMemory) := ⟨hc, ho, rfl⟩
  have hv : v.setContext slots.size c = v :=
    setContext_self (slots_addSlot ⟨(), slots, system'⟩ .lodger lodgerImports c)
  have hrun : w.startRun .lodger lodgerImports c (lodgerGuest lodgerMemory) 3 =
      ⟨.ok [], lodgerGuest lodgerMemory, v⟩ :=
    (Module.invoke_lodger_start (hostCall_of_generated
      (slots_addSlot w .lodger lodgerImports c) rfl rfl rfl hcall _)).trans
      (congrArg (Execution.Outcome.mk _ _) hv)
  rw [instantiate_of_start hp rfl, hrun]
  refine Prod.ext rfl (congrArg (World.mk () · system') (Array.ext_getElem? fun k => ?_))
  simp only [v, addSlot, Array.getElem?_modify, Array.getElem?_push]
  by_cases hk : slots.size = k
  · simp only [w, hk, if_true]
    rfl
  · simp [w, hk, Ne.symm hk]

/-- What its code comes to is what the host is told. -/
lemma perform_lodger (slots : Array (Slot Unit)) (hn : slots[n]? = some (lodger c m)) {f : Nat}
    (hf : Module.lodger.program.functions[f]? = some ⟨[], [.i32]⟩) (hcode : ¬ f < 3)
    (hinvoke : ∀ calls, Execution.invoke Module.lodger.program (hostCall calls n false) f []
      (lodgerGuest m) (setGuest ⟨(), slots, system⟩ n none) =
        ⟨.ok [.i32 e], lodgerGuest m', (setGuest ⟨(), slots, system'⟩ n none).setContext n c'⟩) :
    World.perform ⟨(), slots, system⟩ (Handle.call ⟨⟨n, f⟩, ⟨[], [.i32]⟩⟩ []) =
      (.done (.ok [.i32 e]), ⟨(), slots.setIfInBounds n (lodger c' m'), system'⟩) := by
  let w : World Unit := ⟨(), slots, system⟩
  have htakes : Module.lodger.program.takes f [] = true := by
    rw [Execution.Program.takes, hf]
    rfl
  have hresting : w.resting = (w.setGuest n none).resting + 1 :=
    (resting_setGuest_none w n (g := lodgerGuest m) (by simp [w, guest?, hn, lodger])).symm
  have hinvokes : ((Moment.first w (.done ())).turn
      (Handle.call ⟨⟨n, f⟩, ⟨[], [.i32]⟩⟩ [])).Invokes ⟨n, f⟩ []
        ⟨.ok [.i32 e], lodgerGuest m', (setGuest ⟨(), slots, system'⟩ n none).setContext n c'⟩ := by
    rw [Moment.first, hresting, ← hinvoke (callWithin (w.setGuest n none).resting)]
    exact .intro (f := ⟨n, f⟩) (s := lodger c m) hn rfl htakes hcode
  have hperform := (Moment.perform_eq_ends w (Handle.call ⟨⟨n, f⟩, ⟨[], [.i32]⟩⟩ [])).trans
    (congrArg (fun x => (x.1, x.2.2)) hinvokes.ends_eq)
  refine hperform.trans (Prod.ext rfl ?_)
  refine congrArg (World.mk () · system') (Array.ext_getElem? fun k => ?_)
  simp only [setGuest, setContext, Array.getElem?_modify, Array.getElem?_setIfInBounds]
  by_cases hk : n = k
  · subst hk
    obtain ⟨hlt, hslot⟩ := Array.getElem?_eq_some_iff.1 hn
    simp [hlt, hslot, lodger]
  · simp [hk]

lemma leave_lodger (slots : Array (Slot Unit)) (hn : slots[n]? = some (lodger c lodgerMemory))
    (h : (Wasi.Calling.removeDirectory 3 8 1).ends ⟨lodgerMemory, c, system⟩ =
      (r, ⟨lodgerMemory, c, system'⟩)) (hr : Wasi.Function.answer r = .ok [.i32 e]) :
    World.perform ⟨(), slots, system⟩ (Handle.call ⟨⟨n, 4⟩, ⟨[], [.i32]⟩⟩ []) =
      (.done (.ok [.i32 e]), ⟨(), slots, system'⟩) := by
  have hcall : Wasi.Function.pathRemoveDirectory.call .snapshot1 [.i32 3, .i32 8, .i32 1]
      ⟨lodgerMemory, c, system⟩ = (.ok [.i32 e], ⟨lodgerMemory, c, system'⟩) :=
    hr ▸ Wasi.Function.call_of_ends h
  have hslot := slots_setGuest_self (w := ⟨(), slots, system⟩) hn none
  obtain ⟨hlt, hsame⟩ := Array.getElem?_eq_some_iff.1 hn
  have hslots : slots.setIfInBounds n (lodger c lodgerMemory) = slots := by
    rw [← hsame, Array.setIfInBounds_def, dif_pos hlt, Array.set_getElem_self]
  have hperform : World.perform ⟨(), slots, system⟩ (Handle.call ⟨⟨n, 4⟩, ⟨[], [.i32]⟩⟩ []) =
      (.done (.ok [.i32 e]), ⟨(), slots.setIfInBounds n (lodger c lodgerMemory), system'⟩) :=
    perform_lodger slots hn rfl (by decide) fun calls =>
      Module.invoke_lodger_leave (hostCall_of_generated hslot rfl rfl rfl hcall calls)
  rwa [hslots] at hperform

lemma read_lodger (slots : Array (Slot Unit)) (hn : slots[n]? = some (lodger c lodgerMemory))
    (h : (Wasi.Calling.read 0 0 1 16).ends ⟨lodgerMemory, c, system⟩ = (r, ⟨m', c', system'⟩))
    (hr : Wasi.Function.answer r = .ok [.i32 e]) :
    World.perform ⟨(), slots, system⟩ (Handle.call ⟨⟨n, 5⟩, ⟨[], [.i32]⟩⟩ []) =
      (.done (.ok [.i32 e]), ⟨(), slots.setIfInBounds n (lodger c' m'), system'⟩) := by
  have hcall : Wasi.Function.fdRead.call .snapshot1 [.i32 0, .i32 0, .i32 1, .i32 16]
      ⟨lodgerMemory, c, system⟩ = (.ok [.i32 e], ⟨m', c', system'⟩) :=
    hr ▸ Wasi.Function.call_of_ends h
  have hslot := slots_setGuest_self (w := ⟨(), slots, system⟩) hn none
  exact perform_lodger slots hn rfl (by decide) fun calls =>
    Module.invoke_lodger_read (hostCall_of_generated hslot rfl rfl rfl hcall calls)

end World

namespace Wasi

/-- Lodgers have one directory, whatever is in it. -/
def Environment.lodging : Environment := ⟨"p", [], [], [("d", "/")], .null, .null, .null⟩

def Context.lodging : Context :=
  ⟨["p"], [], .own [], .null, .null, numbered 0 (streams ++ [.directory 0 (some "d")]), 0, 0⟩

def System.lodging (entries : List (String × Nat)) (rest : List Node) : System :=
  .ofFiles ⟨(.directory (some 0) entries :: rest).toArray, 0⟩

/-- Or they have the input of the host and no directory. -/
def Environment.inheriting : Environment := ⟨"p", [], [], [], .inherit, .null, .null⟩

def Context.inheriting : Context :=
  ⟨["p"], [], .inherited, .null, .null, numbered 0 streams, 0, 0⟩

def System.inheriting (input : List UInt8) : System := { System.ofFiles .empty with input }

namespace Calling

variable {m : Memory} {s s' : System}

lemma ends_readText_lodger (hm : m.read? 8 1 = some [120]) (c : Context) :
    (readText 8 1).ends ⟨m, c, s⟩ = (.ok "x", ⟨m, c, s⟩) := by
  have hbytes : (readBytes 8 1).ends ⟨m, c, s⟩ = (.ok [120], ⟨m, c, s⟩) :=
    ends_readBytes (s := ⟨m, c, s⟩) hm
  unfold readText
  rw [ends_bind_of_ok hbytes]
  rfl

lemma ends_directory_lodger : (directory 3).ends ⟨m, .lodging, s⟩ = (.ok 0, ⟨m, .lodging, s⟩) := by
  rfl

/-- The directory is made where its name is not taken. -/
lemma ends_createDirectory_lodger (hm : m.read? 8 1 = some [120]) :
    (createDirectory 3 8 1).ends ⟨m, .lodging, .lodging [] []⟩ =
        (.ok (), ⟨m, .lodging, .lodging [("x", 1)] [.directory (some 0) []]⟩) ∧
      (createDirectory 3 8 1).ends ⟨m, .lodging, .lodging [] [.directory none []]⟩ =
        (.ok (), ⟨m, .lodging, .lodging [("x", 2)] [.directory none [], .directory (some 0) []]⟩) := by
  unfold createDirectory
  simp only [ends_bind_of_ok ends_directory_lodger, ends_bind_of_ok (ends_readText_lodger hm _)]
  exact ⟨by cbv, by cbv⟩

/-- It is taken away if it is there. -/
lemma ends_removeDirectory_lodger (hm : m.read? 8 1 = some [120]) :
    (removeDirectory 3 8 1).ends ⟨m, .lodging, .lodging [("x", 1)] [.directory (some 0) []]⟩ =
        (.ok (), ⟨m, .lodging, .lodging [] [.directory none []]⟩) ∧
      (removeDirectory 3 8 1).ends ⟨m, .lodging, .lodging [] [.directory none []]⟩ =
        (.error (.errno .noEntry), ⟨m, .lodging, .lodging [] [.directory none []]⟩) ∧
      (removeDirectory 3 8 1).ends
          ⟨m, .lodging, .lodging [("x", 2)] [.directory none [], .directory (some 0) []]⟩ =
        (.ok (), ⟨m, .lodging, .lodging [] [.directory none [], .directory none []]⟩) := by
  unfold removeDirectory
  simp only [ends_bind_of_ok ends_directory_lodger, ends_bind_of_ok (ends_readText_lodger hm _)]
  exact ⟨by cbv, by cbv, by cbv⟩

lemma ends_createDirectory_inheriting : (createDirectory 3 8 1).ends ⟨m, .inheriting, s⟩ =
    (.error (.errno .badDescriptor), ⟨m, .inheriting, s⟩) := by
  rfl

/-- The only byte that is there is taken. -/
lemma exists_ends_read_lodger (hstart : m.read? 0 4 = some [12, 0, 0, 0])
    (hlength : m.read? 4 4 = some [1, 0, 0, 0]) (hsize : m.byteSize = 65536) :
    ∃ m', (Calling.read 0 0 1 16).ends ⟨m, .inheriting, .inheriting [1]⟩ =
      (.ok (), ⟨m', .inheriting, .inheriting []⟩) := by
  let s : CallState := ⟨m, .inheriting, .inheriting [1]⟩
  have hdescriptor : (descriptor 0).ends s = (.ok .input, s) := by rfl
  have hbuffer : (firstBuffer 0 1).ends s = (.ok (some (12, 1)), s) := by
    unfold firstBuffer
    rw [ends_bind_of_ok (ends_readWord (s := s) hstart rfl),
      ends_bind_of_ok (ends_readWord (s := s) hlength rfl)]
    rfl
  have hinput : (readInput 1).ends s = (.ok [1], ⟨m, .inheriting, .inheriting []⟩) := rfl
  unfold Calling.read
  rw [ends_bind_of_ok hdescriptor]
  dsimp only
  rw [ends_bind_of_ok hbuffer]
  dsimp only [Option.getD_some]
  rw [ends_bind_of_ok hinput, ends_bind_of_ok (ends_writeBytes (by rw [hsize]; decide)),
    ends_writeWord (by rw [CallState.store, Memory.byteSize_write, hsize]; decide) (by decide)]
  exact ⟨_, rfl⟩

end Calling

end Wasi

lemma read?_lodgerMemory : lodgerMemory.read? 0 4 = some [12, 0, 0, 0] ∧
    lodgerMemory.read? 4 4 = some [1, 0, 0, 0] ∧ lodgerMemory.read? 8 1 = some [120] := by
  decide +kernel

lemma Wasi.Environment.resolve_generate_lodger (env : Environment) :
    (env.generate (.standard 0) .snapshot1).resolve .lodger = .ok lodgerImports := by
  have hserves : ∀ f : Function, (⟨"wasi_snapshot_preview1", f.name, .function f.type⟩ : ImportType) ∈
      Version.snapshot1.linker ∧ ∃ f', Function.find? .snapshot1 f.name = some f' ∧
        (.generated .snapshot1 f : Provided Unit) = .generated Version.snapshot1.resolve f' := by
    intro f
    rw [Version.mem_linker_iff]
    have hf : Function.find? .snapshot1 f.name = some f := by cases f <;> decide +kernel
    exact ⟨⟨rfl, f, hf, rfl⟩, f, hf, rfl⟩
  exact (env.resolve_generate_eq_ok_iff (m := .lodger) false).2
    ⟨rfl, .cons (hserves .pathCreateDirectory) (.cons (hserves .pathRemoveDirectory)
      (.cons (hserves .fdRead) .nil))⟩

namespace World

/-- The first lodger is asked to leave. -/
def firstLeaves : Use := .call ⟨⟨0, 4⟩, ⟨[], [.i32]⟩⟩ []

/-- The first lodger is asked to read. -/
def firstReads : Use := .call ⟨⟨0, 5⟩, ⟨[], [.i32]⟩⟩ []

/-- The first lodger leaves, and again when another one has come. -/
def visit : List (Deed Unit) :=
  [.use firstLeaves, .create .lodger (Wasi.Environment.lodging.generate (.standard 0) .snapshot1),
    .use firstLeaves]

/-- The directory of a lodger is there again when another one has come, and else it is not. -/
lemma follow_visit :
    ∃ w, World.instantiate (.create () (.lodging [] [])) .lodger
        (Wasi.Environment.lodging.generate (.standard 0) .snapshot1) = (.made (lodgerInstance 0), w) ∧
      (w.follow 0 visit).1 =
        [⟨firstLeaves, .done (.ok [.i32 0])⟩, ⟨firstLeaves, .done (.ok [.i32 0])⟩] ∧
      (w.follow 0 (visit.filter (Deed.isOf 0))).1 =
        [⟨firstLeaves, .done (.ok [.i32 0])⟩, ⟨firstLeaves, .done (.ok [.i32 44])⟩] := by
  obtain ⟨-, -, hname⟩ := read?_lodgerMemory
  obtain ⟨hcreate, hcreate'⟩ := Wasi.Calling.ends_createDirectory_lodger hname
  obtain ⟨hremove, hmissing, hremove'⟩ := Wasi.Calling.ends_removeDirectory_lodger hname
  have hresolve := Wasi.Environment.resolve_generate_lodger .lodging
  have hcontext : ∀ (slots : Array (Slot Unit)) entries rest,
      (⟨(), slots, .lodging entries rest⟩ : World Unit).contextFor
        (Wasi.Environment.lodging.generate (.standard 0) .snapshot1) = .ok .lodging := by
    intro slots entries rest
    cbv
  let s : Slot Unit := lodger .lodging lodgerMemory
  let alone (entries : List (String × Nat)) (rest : List Node) : World Unit :=
    ⟨(), #[s], .lodging entries rest⟩
  let both (entries : List (String × Nat)) (rest : List Node) : World Unit :=
    ⟨(), #[s, s], .lodging entries rest⟩
  have hfirst : World.instantiate (.create () (.lodging [] [])) .lodger _ =
      (.made (lodgerInstance 0), alone [("x", 1)] [.directory (some 0) []]) :=
    instantiate_lodger #[] (hcontext _ _ _) hresolve hcreate rfl
  have hleave : (alone [("x", 1)] [.directory (some 0) []]).perform firstLeaves.action =
      (.done (.ok [.i32 0]), alone [] [.directory none []]) :=
    leave_lodger #[s] (n := 0) rfl hremove rfl
  have hagain : (alone [] [.directory none []]).perform firstLeaves.action =
      (.done (.ok [.i32 44]), alone [] [.directory none []]) :=
    leave_lodger #[s] (n := 0) rfl hmissing rfl
  have hsecond : (alone [] [.directory none []]).instantiate .lodger _ =
      (.made (lodgerInstance 1), both [("x", 2)] [.directory none [], .directory (some 0) []]) :=
    instantiate_lodger #[s] (hcontext _ _ _) hresolve hcreate' rfl
  have hleave' : (both [("x", 2)] [.directory none [], .directory (some 0) []]).perform
      firstLeaves.action =
        (.done (.ok [.i32 0]), both [] [.directory none [], .directory none []]) :=
    leave_lodger #[s, s] (n := 0) rfl hremove' rfl
  have hown : visit.filter (Deed.isOf 0) = [.use firstLeaves, .use firstLeaves] := rfl
  refine ⟨_, hfirst, ?_, ?_⟩
  · simp only [visit, follow, hleave, hsecond, hleave']
    rfl
  · simp only [hown, follow, hleave, hagain]
    rfl

/-- **Instances can interfere.** One that is made later than another, of the same module and import
object, changes the directory of that one when it starts. One that reads the input of the host leaves
less of it to another one that has the same input. -/
theorem instances_can_interfere :
    Module.compile (.standard 0) Module.lodger.binary = .ok .lodger ∧
    (∃ w, World.instantiate (.create () (.lodging [] [])) .lodger
        (Wasi.Environment.lodging.generate (.standard 0) .snapshot1) = (.made (lodgerInstance 0), w) ∧
      (w.follow 0 visit).1 =
        [⟨firstLeaves, .done (.ok [.i32 0])⟩, ⟨firstLeaves, .done (.ok [.i32 0])⟩] ∧
      (w.follow 0 (visit.filter (Deed.isOf 0))).1 =
        [⟨firstLeaves, .done (.ok [.i32 0])⟩, ⟨firstLeaves, .done (.ok [.i32 44])⟩]) ∧
    ∃ v w, World.instantiate (.create () (.inheriting [1])) .lodger
        (Wasi.Environment.inheriting.generate (.standard 0) .snapshot1) = (.made (lodgerInstance 0), v) ∧
      v.instantiate .lodger (Wasi.Environment.inheriting.generate (.standard 0) .snapshot1) =
        (.made (lodgerInstance 1), w) ∧
      ((w.follow 1 [.use firstReads]).2.view 1).map (fun seen => seen.2.1) = some [] ∧
      ((w.follow 1 []).2.view 1).map (fun seen => seen.2.1) = some [1] := by
  obtain ⟨hstart, hlength, -⟩ := read?_lodgerMemory
  obtain ⟨m, hread⟩ := Wasi.Calling.exists_ends_read_lodger hstart hlength rfl
  have hresolve := Wasi.Environment.resolve_generate_lodger .inheriting
  have hcreate := Wasi.Calling.ends_createDirectory_inheriting (m := lodgerMemory)
    (s := .inheriting [1])
  have hcontext : ∀ slots : Array (Slot Unit),
      (⟨(), slots, .inheriting [1]⟩ : World Unit).contextFor
        (Wasi.Environment.inheriting.generate (.standard 0) .snapshot1) = .ok .inheriting := by
    intro slots
    rfl
  let s : Slot Unit := lodger .inheriting lodgerMemory
  have hfirst := instantiate_lodger #[] (hcontext _) hresolve hcreate rfl
  have hsecond := instantiate_lodger #[s] (hcontext _) hresolve hcreate rfl
  have hread : World.perform ⟨(), #[s, s], .inheriting [1]⟩ firstReads.action =
      (.done (.ok [.i32 0]), ⟨(), #[lodger .inheriting m, s], .inheriting []⟩) :=
    read_lodger #[s, s] (n := 0) rfl hread rfl
  refine ⟨Module.compile_lodger, follow_visit, _, ⟨(), #[s, s], .inheriting [1]⟩, hfirst, hsecond, ?_, rfl⟩
  simp only [follow, hread]
  rfl

end World

end Embedder
