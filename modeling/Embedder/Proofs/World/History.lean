import Embedder.Instance
import Embedder.Proofs.World.Outline
import Mathlib.Logic.Relation

/-!
# Histories

Between two operations of the host every instance is at rest. Instances come one after another, and
none goes away.

* `World.Event`, `World.Leads`, `World.Reached`: what happens to a world from outside, and the
  worlds that this leads to;
* `World.instantiate_cases`: an instance is launched, or nothing has changed;
* `World.outline_instantiate_made`, `World.outline_instantiate`: what an instantiation adds, and
  that one that fails adds nothing;
* `World.Leads.outline_prefix`, `World.Reached.atRest`: later worlds have the earlier instances, and
  all of them are at rest.
-/

namespace Embedder

open Execution (Program Guest Stop)

variable {σ α : Type}

namespace World

/-! ### Rest -/

/-- Every instance is at rest. -/
def AtRest (w : World σ) : Prop := ∀ n < w.slots.size, (w.guest? n).isSome = true

lemma atRest_iff (w : World σ) : w.AtRest ↔ ∀ o ∈ w.outline.toList, o.atRest = true := by
  unfold AtRest
  constructor
  · intro h o ho
    obtain ⟨n, hn, rfl⟩ := List.getElem_of_mem ho
    have hsize : n < w.slots.size := by simpa using hn
    simpa [isSome_guest?_eq, hsize] using h n hsize
  · intro h n hn
    have hsize : n < w.outline.size := by simpa using hn
    rw [isSome_guest?_eq, Array.getElem?_eq_getElem hsize]
    exact h _ (by simp)

lemma atRest_create (host : σ) (system : Wasi.System) : (create host system).AtRest :=
  fun n hn => absurd hn (Nat.not_lt_zero n)

/-! ### Instantiations -/

lemma outline_addSlot (w : World σ) (m : Module) (ps : List (Provided σ)) (c : Wasi.Context) :
    (w.addSlot m ps c).outline =
      w.outline.push
        ⟨m.program, (Provided.functions ps).toArray, none, m.exportedMemory, false⟩ := by
  simp [addSlot, outline, Slot.outline]

lemma outline_start (w : World σ) (m : Module) (number : Nat) (g : Guest) :
    (w.start m number g).2.2.outline = w.outline := by
  unfold start
  cases m.definition.start with
  | none => rfl
  | some f =>
    exact Execution.run_keeps outline (outline_hostCall (outline_callWithin _) number false) ..

lemma outline_dropSlot (w : World σ) : w.dropSlot.outline = w.outline.pop := by
  simp [dropSlot, outline, Array.map_pop]

lemma outline_settle (w : World σ) (number : Nat) (memory : Option Nat) (g : Guest) :
    (w.settle number memory g).outline =
      w.outline.modify number fun o => { o with boundMemory := memory, atRest := true } :=
  outline_modify w number fun _ => rfl

/-- The instance that was added last rests at the end of the outline. -/
lemma outline_settle_last {w v : World σ} {x : Outline σ} (hv : v.outline = w.outline.push x)
    (memory : Option Nat) (g : Guest) :
    (v.settle w.slots.size memory g).outline =
      w.outline.push { x with boundMemory := memory, atRest := true } := by
  rw [outline_settle, hv, ← size_outline w, Elementwise.modify_push]

lemma startError_ne_made (s : Stop) (i : Instance) : startError s ≠ .made i := by
  cases s <;> simp [startError]

/-- The start function stops, an export is hidden, or there is an instance. -/
lemma launch_cases {w w' : World σ} {m : Module} {ps : List (Provided σ)} {c : Wasi.Context}
    {g : Guest} {r : Instantiated} (h : w.launch m ps c g = (r, w')) :
    ∃ result g₁ w₁, (w.addSlot m ps c).start m w.slots.size g = (result, g₁, w₁) ∧
      ((∃ s, result = .error s ∧ r = startError s ∧ w' = w₁.dropSlot) ∨
      (∃ name, result = .ok () ∧ m.exportsOf w.slots.size = .error name ∧
        (∀ i, r ≠ .made i) ∧ w' = w₁.dropSlot) ∨
      (∃ exports, result = .ok () ∧ m.exportsOf w.slots.size = .ok exports ∧
        r = .made ⟨w.slots.size, m, exports⟩ ∧ w' = w₁.settle w.slots.size m.boundMemory g₁)) := by
  unfold launch at h
  simp only at h
  generalize (w.addSlot m ps c).start m w.slots.size g = started at h
  obtain ⟨result, g₁, w₁⟩ := started
  refine ⟨result, g₁, w₁, rfl, ?_⟩
  cases result with
  | error s =>
    cases h
    exact .inl ⟨s, rfl, rfl, rfl⟩
  | ok u =>
    cases he : m.exportsOf w.slots.size with
    | error name =>
      simp only [he] at h
      cases h
      exact .inr (.inl ⟨name, rfl, rfl, by simp, rfl⟩)
    | ok exports =>
      simp only [he] at h
      cases h
      exact .inr (.inr ⟨exports, rfl, rfl, rfl, rfl⟩)

/-- A new instance has the next number and comes last. -/
theorem outline_launch_made {w w' : World σ} {m : Module} {ps : List (Provided σ)}
    {c : Wasi.Context} {g : Guest} {i : Instance} (h : w.launch m ps c g = (.made i, w')) :
    i.number = w.slots.size ∧ i.module = m ∧ m.exportsOf i.number = .ok i.exports ∧
      w'.outline = w.outline.push
        ⟨m.program, (Provided.functions ps).toArray, m.boundMemory, m.exportedMemory, true⟩ := by
  obtain ⟨result, g₁, w₁, hs, hcases⟩ := launch_cases h
  rcases hcases with ⟨s, -, hr, -⟩ | ⟨name, -, -, hr, -⟩ | ⟨exports, -, he, hr, rfl⟩
  · exact absurd hr.symm (startError_ne_made s i)
  · exact absurd rfl (hr i)
  · cases hr
    have hstart := outline_start (w.addSlot m ps c) m w.slots.size g
    rw [hs] at hstart
    exact ⟨rfl, rfl, he, outline_settle_last (hstart.trans (outline_addSlot w m ps c)) _ g₁⟩

lemma outline_launch {w w' : World σ} {m : Module} {ps : List (Provided σ)} {c : Wasi.Context}
    {g : Guest} {r : Instantiated} (hr : ∀ i, r ≠ .made i) (h : w.launch m ps c g = (r, w')) :
    w'.outline = w.outline := by
  obtain ⟨result, g₁, w₁, hs, hcases⟩ := launch_cases h
  have hstart := outline_start (w.addSlot m ps c) m w.slots.size g
  rw [hs] at hstart
  have hdrop : w₁.dropSlot.outline = w.outline := by
    rw [outline_dropSlot, hstart, outline_addSlot, Array.pop_push]
  rcases hcases with ⟨s, -, -, rfl⟩ | ⟨name, -, -, -, rfl⟩ | ⟨exports, -, -, rfl, -⟩
  · exact hdrop
  · exact hdrop
  · exact absurd rfl (hr _)

/-- The steps before the start function succeed, or one of them fails and has changed nothing. -/
lemma instantiate_cases (w : World σ) (m : Module) (o : ImportObject σ) :
    (∃ r, (∀ i, r ≠ .made i) ∧ w.instantiate m o = (r, w)) ∨
    ∃ c ps g, w.contextFor o = .ok c ∧ o.resolve m = .ok ps ∧
      Guest.populate m.definition (Provided.supplied ps) = .ok g ∧
      w.instantiate m o = w.launch m ps c g := by
  unfold instantiate
  cases w.contextFor o with
  | error e => exact .inl ⟨_, by simp, rfl⟩
  | ok c =>
    cases o.resolve m with
    | error r => cases r <;> exact .inl ⟨_, by simp, rfl⟩
    | ok ps =>
      simp only
      cases hg : Guest.populate m.definition (Provided.supplied ps) with
      | error t => exact .inl ⟨_, by simp, rfl⟩
      | ok g => exact .inr ⟨c, ps, g, rfl, rfl, hg, rfl⟩

theorem outline_instantiate_made {w w' : World σ} {m : Module} {o : ImportObject σ} {i : Instance}
    (h : w.instantiate m o = (.made i, w')) :
    ∃ ps, o.resolve m = .ok ps ∧ i.number = w.slots.size ∧ i.module = m ∧
      m.exportsOf i.number = .ok i.exports ∧
      w'.outline = w.outline.push
        ⟨m.program, (Provided.functions ps).toArray, m.boundMemory, m.exportedMemory, true⟩ := by
  obtain ⟨r, hr, hfailed⟩ | ⟨c, ps, g, -, hps, -, hlaunch⟩ := instantiate_cases w m o
  · rw [hfailed] at h
    exact absurd (congrArg Prod.fst h) (hr i)
  · exact ⟨ps, hps, outline_launch_made (hlaunch ▸ h)⟩

/-- An instance without a start function is made if its imports are served, its segments fit and the
host can hold its exports. -/
theorem instantiate_eq_made {w : World σ} {m : Module} {o : ImportObject σ}
    {ps : List (Provided σ)} {c : Wasi.Context} {g : Guest} {es : Exports}
    (hc : w.contextFor o = .ok c) (hps : o.resolve m = .ok ps)
    (hg : Guest.populate m.definition (Provided.supplied ps) = .ok g)
    (hstart : m.definition.start = none) (hes : m.exportsOf w.slots.size = .ok es) :
    w.instantiate m o =
      (.made ⟨w.slots.size, m, es⟩,
        { w with
          slots := w.slots.push
            { program := m.program, imported := (Provided.functions ps).toArray
              boundMemory := m.boundMemory, exportedMemory := m.exportedMemory, context := c
              guest := some g } }) := by
  unfold instantiate launch start
  simp only [hc, hps, hg, hstart, hes]
  refine Prod.ext rfl ?_
  simp only [settle, addSlot, Elementwise.modify_push]

/-- An instantiation that fails leaves no instance behind. -/
theorem outline_instantiate {w w' : World σ} {m : Module} {o : ImportObject σ} {r : Instantiated}
    (hr : ∀ i, r ≠ .made i) (h : w.instantiate m o = (r, w')) : w'.outline = w.outline := by
  obtain ⟨r', -, hfailed⟩ | ⟨c, ps, g, -, -, -, hlaunch⟩ := instantiate_cases w m o
  · rw [hfailed] at h
    cases h
    rfl
  · exact outline_launch hr (hlaunch ▸ h)

/-! ### What happens to a world -/

/-- The host acts, it makes an instance, or the system changes by itself. -/
inductive Event : World σ → World σ → Prop
  | perform {α : Type} (w : World σ) (a : Action σ α) : Event w (w.perform a).2
  | instantiate (w : World σ) (m : Module) (o : ImportObject σ) : Event w (w.instantiate m o).2
  | system (w : World σ) (system : Wasi.System) : Event w { w with system }

/-- One event after another. -/
def Leads : World σ → World σ → Prop := Relation.ReflTransGen Event

/-- Events lead here from a world without instances. -/
def Reached (w : World σ) : Prop := ∃ host system, Leads (create host system) w

/-- An event at most adds an instance that is at rest. -/
lemma Event.outline_toList {w v : World σ} (h : Event w v) :
    ∃ os, v.outline.toList = w.outline.toList ++ os ∧ ∀ o ∈ os, o.atRest = true := by
  cases h with
  | perform _ a => exact ⟨[], by simp [outline_perform], by simp⟩
  | system _ s => exact ⟨[], by simp, by simp⟩
  | instantiate _ m o =>
    cases hi : w.instantiate m o with
    | mk r v =>
      cases r with
      | made i =>
        obtain ⟨ps, -, -, -, -, hv⟩ := outline_instantiate_made hi
        exact ⟨_, by rw [hv, Array.toList_push], by simp⟩
      | refused e => exact ⟨[], by simp [outline_instantiate (by simp) hi], by simp⟩
      | panicked => exact ⟨[], by simp [outline_instantiate (by simp) hi], by simp⟩

/-- The instances of a world stay what they are. -/
theorem Leads.outline_prefix {w v : World σ} (h : Leads w v) :
    w.outline.toList <+: v.outline.toList := by
  induction h with
  | refl => exact List.prefix_rfl
  | tail _ he ih =>
    obtain ⟨os, hv, -⟩ := he.outline_toList
    exact ih.trans ⟨os, hv.symm⟩

theorem Leads.atRest {w v : World σ} (h : Leads w v) (hw : w.AtRest) : v.AtRest := by
  induction h with
  | refl => exact hw
  | tail _ he ih =>
    obtain ⟨os, hv, hos⟩ := he.outline_toList
    rw [atRest_iff] at ih ⊢
    rw [hv]
    intro o ho
    exact (List.mem_append.1 ho).elim (ih o) (hos o)

/-- Between two operations of the host no instance is running. -/
theorem Reached.atRest {w : World σ} (h : Reached w) : w.AtRest := by
  obtain ⟨host, system, h⟩ := h
  exact h.atRest (atRest_create host system)

theorem Reached.leads {w v : World σ} (hw : Reached w) (h : Leads w v) : Reached v := by
  obtain ⟨host, system, hc⟩ := hw
  exact ⟨host, system, Relation.ReflTransGen.trans hc h⟩

/-- A world in which an instance was made. -/
lemma Reached.made {w v : World σ} {m : Module} {o : ImportObject σ} {i : Instance} (hw : Reached w)
    (h : w.instantiate m o = (.made i, v)) : Reached v := by
  have he := Event.instantiate w m o
  rw [h] at he
  exact hw.leads (.single he)

lemma lt_size_of_made {w w' : World σ} {m : Module} {o : ImportObject σ} {i : Instance}
    (h : w.instantiate m o = (.made i, w')) : i.number < w'.slots.size := by
  obtain ⟨ps, -, hnumber, -, -, houtline⟩ := outline_instantiate_made h
  rw [← size_outline, houtline, Array.size_push, size_outline, hnumber]
  exact Nat.lt_succ_self _

lemma Leads.lt_size {w v : World σ} (h : Leads w v) {n : Nat} (hn : n < w.slots.size) :
    n < v.slots.size := by
  have hle := h.outline_prefix.length_le
  simp only [Array.length_toList, size_outline] at hle
  exact Nat.lt_of_lt_of_le hn hle

lemma Leads.outline_getElem? {w v : World σ} (h : Leads w v) {n : Nat} {o : Outline σ}
    (ho : w.outline[n]? = some o) : v.outline[n]? = some o := by
  rw [← Array.getElem?_toList] at ho ⊢
  obtain ⟨os, hv⟩ := h.outline_prefix
  rw [← hv, List.getElem?_append_left (List.getElem?_eq_some_iff.1 ho).1, ho]

end World

end Embedder
