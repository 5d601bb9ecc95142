import Embedder.Proofs.Runs.Adequacy
import Embedder.Proofs.Runs.Contents
import Embedder.Proofs.Runs.Kinds

/-!
# Globals of instances

An exported global is read and written by its host and by the code of its instance, in whatever order.
Globals hold vectors as well as numbers; code that computes with vectors ends with a fault here.

* `Action.UsesExports`: the host reaches instances through exports, and `Action.UsesExports.respects`:
  such a host writes a global only if it is mutable;
* `Point.Quiet`: the part of a run in which a global is not written;
* `Point.Answers`, `Point.Reads`: what actions answer, and what reads a global;
* `Point.globals_keep_type_and_bits`: types, mutability and bits of an exported global, in all runs.
-/

namespace Embedder

open Execution (Program Guest Machine Stop)
open Validation (Context)
open Relation (ReflTransGen)

variable {σ α β : Type}

/-! ### Hosts that hold a handle -/

/-- The action writes the global only if it is mutable, whatever it is answered. -/
inductive Action.Respects (h : Handle GlobalType) : Action σ α → Prop
  | done (x : α) : Respects h (.done x)
  | fail (message : String) : Respects h (.fail message)
  | panic : Respects h .panic
  | update {change : σ → σ} {next : σ → Action σ α} (hn : ∀ s, Respects h (next s)) :
      Respects h (.update change next)
  | memory {r : MemoryRequest} {next : r.Result → Action σ α} (hn : ∀ a, Respects h (next a)) :
      Respects h (.memory r next)
  | operate {owner : Nat} {o : Operation} {next : Option o.Result → Action σ α}
      (ho : ∀ v, owner = h.address.owner → o = .globalSet h.address.index v → h.type.mutable = true)
      (hn : ∀ a, Respects h (next a)) : Respects h (.operate owner o next)
  | call {f : Address} {arguments : List Value}
      {next : Option (Except Stop (List Cell)) → Action σ α} (hn : ∀ a, Respects h (next a)) :
      Respects h (.call f arguments next)

namespace Action

variable {h : Handle GlobalType}

lemma Respects.bind {a : Action σ α} (ha : a.Respects h) {f : α → Action σ β}
    (hf : ∀ x, (f x).Respects h) : (a.bind f).Respects h := by
  induction ha with
  | done x => exact hf x
  | fail message => exact .fail message
  | panic => exact .panic
  | update hn ih => exact .update fun s => ih s
  | memory hn ih => exact .memory fun a => ih a
  | operate ho hn ih => exact .operate ho fun a => ih a
  | call hn ih => exact .call fun a => ih a

lemma lasting_respects (h : Handle GlobalType) : Lasting (Respects h : Action σ (List Value) → Prop) where
  panic := .panic
  update := by rintro _ _ (_ | _ | _ | hn); exact hn
  memory := by rintro _ _ (_ | _ | _ | _ | hn); exact hn
  operate := by rintro _ _ _ (_ | _ | _ | _ | _ | ⟨_, hn⟩); exact hn
  call := by rintro _ _ _ (_ | _ | _ | _ | _ | _ | hn); exact hn

/-- What is done to a memory or a table respects every global. -/
lemma On.respects {s : Space} {x : Address} {a : Action σ α} (ha : a.On s x) (hs : s ≠ .global) :
    a.Respects h := by
  induction ha with
  | done r => exact .done r
  | operate ho hi _ ih =>
    refine .operate (fun v _ hv => ?_) ih
    subst hv
    exact absurd ho.symm hs

end Action

/-- **A use of an export respects every global**, if handles of it tell its type. -/
theorem Use.respects {h : Handle GlobalType} (u : Use)
    (hu : ∀ h' v, u = .globalSet h' v → h'.address = h.address → h'.type = h.type) :
    (u.action : Action σ u.Answer).Respects h := by
  cases he : u.entity? with
  | some x =>
    by_cases hx : x.1 = .global
    · cases u with
      | globalGet h' =>
        refine .operate (fun v _ hv => nomatch hv) fun a => ?_
        cases a with
        | none => exact .done _
        | some c =>
          simp only
          cases c.toValue? <;> exact .done _
      | globalSet h' v =>
        simp only [action, Handle.set]
        split
        · rename_i hm
          split
          · refine .operate (fun v' ho hv => ?_) fun a => by cases a <;> exact .done _
            have haddress : h'.address = h.address := by
              obtain ⟨⟨owner, index⟩, t⟩ := h'
              cases hv
              exact congrArg (fun o => (⟨o, h.address.index⟩ : Address)) ho
            rwa [← hu h' v rfl haddress]
          · exact .done _
        · exact .done _
      | _ => cases he <;> cases hx
    · exact (Use.on he).respects hx
  | none =>
    cases u with
    | call f arguments =>
      simp only [action, Handle.call]
      split
      · exact .done _
      · exact .call fun a => .done _
    | _ => cases he

/-- The action reaches instances only by uses of exports, and whenever it sets the global of `h` it does
so through `h`. -/
inductive Action.UsesExports (h : Handle GlobalType) : Action σ α → Prop
  | done (x : α) : UsesExports h (.done x)
  | fail (message : String) : UsesExports h (.fail message)
  | panic : UsesExports h .panic
  | update {change : σ → σ} {next : σ → Action σ α} (hn : ∀ s, UsesExports h (next s)) :
      UsesExports h (.update change next)
  | memory {r : MemoryRequest} {next : r.Result → Action σ α} (hn : ∀ a, UsesExports h (next a)) :
      UsesExports h (.memory r next)
  | use {u : Use} {next : u.Answer → Action σ α}
      (hu : ∀ h' v, u = .globalSet h' v → h'.address = h.address → h' = h)
      (hn : ∀ a, UsesExports h (next a)) : UsesExports h (u.action.bind next)

/-- A host that reaches globals through handles writes mutable ones only. -/
theorem Action.UsesExports.respects {h : Handle GlobalType} {a : Action σ α} (ha : a.UsesExports h) :
    a.Respects h := by
  induction ha with
  | done x => exact .done x
  | fail message => exact .fail message
  | panic => exact .panic
  | update _ ih => exact .update ih
  | memory _ ih => exact .memory ih
  | @use u next hu _ ih =>
    exact (u.respects fun h' v hv hx => congrArg Handle.type (hu h' v hv hx)).bind ih

namespace Handle

/-- What a handle tells of a global that holds this. -/
def got (h : Handle GlobalType) (x : Cell) : Except GlobalError Value :=
  match x.toValue? with
  | some v => .ok v
  | none => .error (.unreadable h.type.value)

end Handle

namespace Point

open World (Ended Calls hostCall callWithin request resultsOf mute answerOf)

/-! ### Answers -/

/-- An action that has its turn when the world is that of the point gives an answer, whatever it is part
of, and leaves a world. -/
structure Answers (c : Point σ) (a : Action σ α) (b : α) (w : World σ) : Prop where
  run : ∀ (calls : Calls σ) memory g, World.run calls memory a g c.world = (.done b, g, w)
  goes : ∀ memory (f : α → Action σ (List Value)) ws,
    Goes ⟨.action memory (a >>= f), ws, c.running, c.world⟩
      ⟨.action memory (f b), ws, c.running, w⟩

variable {c c' : Point σ}

lemma answers_done (c : Point σ) (b : α) : c.Answers (.done b) b c.world :=
  ⟨fun _ _ _ => rfl, fun _ _ _ => .refl⟩

/-- An operation that an instance answers or not, and nothing else. -/
lemma answers_operate {owner : Nat} {o : Operation} {next : Option o.Result → Action σ α} {b : α}
    {w : World σ} {a : Option o.Result} (ho : c.world.operate owner o = (a, w))
    (hn : next a = .done b) : c.Answers (.operate owner o next) b w := by
  refine ⟨fun calls memory g => ?_, fun memory f ws => .single ?_⟩
  · simp only [World.run, ho, hn]
  · show some (act memory ws c.running c.world (.operate owner o fun a => (next a).bind f)) = _
    simp only [act, ho, hn]
    rfl

/-! ### Reading -/

/-- Whatever reads the global gives what it holds: handles while the instance is at rest, and the
instruction that its code has for it. -/
structure Reads (c : Point σ) (x : Address) (cell : Cell) : Prop where
  get : ∀ h : Handle GlobalType, h.address = x → c.world.guest? x.owner ≠ none →
    c.Answers h.get (h.got cell) c.world
  code : ∀ p fuel m g rest code, c.turn = .code p (fuel + 1) m →
    c.running = (x.owner, g) :: rest → m.current.code = .op (.globalGet x.index) code →
    c.next = some
      { c with
        turn :=
          .code p fuel
            { m with current := { m.current with stack := cell :: m.current.stack, code } } }

variable {contexts : Nat → Context} {first : Nat} {x : Address} {cell : Cell}

/-- An instance at rest owns what the world keeps for it. -/
lemma Typed.guest?_of_rest (h : c.Typed contexts first) {n : Nat} {g : Guest}
    (hg : c.world.guest? n = some g) : c.guest? n = some g := by
  rw [guest?, held, h.fits.lookup_eq_none hg, hg]
  rfl

lemma Typed.reads (h : c.Typed contexts first) (hv : c.value? x = some cell) : c.Reads x cell := by
  refine ⟨fun handle hx hrest => ?_, fun p fuel m g rest code hturn hrun hcode => ?_⟩
  · subst hx
    obtain ⟨g, hg⟩ := Option.ne_none_iff_exists'.1 hrest
    rw [value?, h.guest?_of_rest hg, Option.bind_some] at hv
    refine answers_operate (a := some cell) ?_ ?_
    · rw [World.operate_of_guest? _ _ hg]
      simp only [Operation.perform, World.setGuest_self _ _ hg, Array.getD_eq_getD_getElem?, hv,
        Option.getD_some]
    · simp only [Handle.got]
      cases cell.toValue? <;> rfl
  · rw [value?, guest?, hrun, held_cons_self, Option.bind_some] at hv
    simp only [Point.next, hturn, hrun, compute, Machine.step, hcode, Machine.stepOp,
      Machine.onTable, hv, Machine.after]

/-! ### Runs without writes -/

/-- The part of a run in which the global is not written. -/
def Quiet (P : Action σ (List Value) → Prop) (x : Address) : Point σ → Point σ → Prop :=
  ReflTransGen fun c c' => Step P c c' ∧ ∀ cell, c.write? ≠ some (x, cell)

variable {P : Action σ (List Value) → Prop}

lemma Quiet.runs (h : Quiet P x c c') : Runs P c c' := by
  induction h with
  | refl => exact .refl
  | tail _ hs ih => exact ih.tail hs.1

/-- **A global that is not written holds what it held.** -/
theorem Quiet.value?_eq (hc : c.Typed contexts first) (hx : x.owner < first) (h : Quiet P x c c') :
    c'.value? x = c.value? x := by
  induction h with
  | refl => rfl
  | tail hq hs ih =>
    obtain ⟨contexts', -, hc'⟩ := hc.runs (Quiet.runs hq)
    rw [← ih]
    obtain ⟨hs, hw⟩ := hs
    cases hs with
    | next hn => exact hc'.value?_next hn hx hw
    | perform w ha => rfl
    | system w system => rfl
    | launch hp hps =>
      cases hc'.placed with
      | host hf =>
        exact congrArg (Option.bind · fun g => g.globals[x.index]?)
          (held_addSlot (Nat.lt_of_lt_of_le hx hf))

/-! ### Exported globals -/

variable {h : Handle GlobalType}

/-- Neither the host nor checked code writes an immutable global. -/
lemma Typed.write?_ne (hc : c.Typed contexts first) (ho : c.Of (Action.Respects h))
    (ht : (contexts h.address.owner).globals[h.address.index]? = some h.type)
    (hm : h.type.mutable = false) (cell : Cell) : c.write? ≠ some (h.address, cell) := by
  obtain ⟨turn, ws, running, w⟩ := c
  intro hw
  unfold write? at hw
  split at hw
  · rename_i memory owner o next hturn
    obtain ⟨⟨i, x⟩, hx, heq⟩ := Option.map_eq_some_iff.1 hw
    obtain ⟨g, -, hwrite⟩ := Option.bind_eq_some_iff.1 hx
    have haddress : (⟨owner, i⟩ : Address) = h.address := congrArg Prod.fst heq
    cases ho.turn memory _ hturn with
    | operate hrespects hn =>
      cases o with
      | globalSet j v =>
        simp only [Operation.write?] at hwrite
        split at hwrite
        · cases hwrite
          have hmutable := hrespects v (congrArg Address.owner haddress)
            (congrArg (fun a : Address => Operation.globalSet a.index v) haddress)
          rw [hm] at hmutable
          cases hmutable
        · cases hwrite
      | _ => cases hwrite
  · rename_i p fuel m n g rest hturn hrun
    obtain ⟨⟨i, x⟩, hx, heq⟩ := Option.map_eq_some_iff.1 hw
    have haddress : (⟨n, i⟩ : Address) = h.address := congrArg Prod.fst heq
    have hplaced := hc.placed
    simp only at hturn hrun
    rw [hturn, hrun] at hplaced
    cases hplaced with
    | code _ hp hmachine _ =>
      obtain ⟨t, hglobal, hmutable, -⟩ := Machine.write?_typed hmachine hx
      rw [← haddress] at ht
      obtain rfl := Option.some.inj (hglobal.symm.trans ht)
      rw [hm] at hmutable
      cases hmutable
  · cases hw

/-- In a run of such a host an immutable global is not written. -/
lemma Typed.quiet (hc : c.Typed contexts first) (ho : c.Of (Action.Respects h))
    (hfirst : h.address.owner < first)
    (ht : (contexts h.address.owner).globals[h.address.index]? = some h.type)
    (hm : h.type.mutable = false) (hr : Runs (Action.Respects h) c c') :
    Quiet (Action.Respects h) h.address c c' := by
  induction hr with
  | refl => exact .refl
  | tail hr hs ih =>
    obtain ⟨contexts', hsame, hc'⟩ := hc.runs hr
    rw [← hsame _ hfirst] at ht
    exact ih.tail ⟨hs, hc'.write?_ne (ho.runs (Action.lasting_respects h) hr) ht hm⟩

/-- What setting a global to a value answers and leaves. -/
structure Sets (P : Action σ (List Value) → Prop) (c : Point σ) (h : Handle GlobalType) (v : Value) :
    Prop where
  immutable : h.type.mutable = false → c.Answers (h.set v) (.error .immutable) c.world
  mismatch : h.type.mutable = true → v.type ≠ h.type.value →
    c.Answers (h.set v) (.error (.typeMismatch h.type.value v.type)) c.world
  reentrant : h.type.mutable = true → v.type = h.type.value →
    c.world.guest? h.address.owner = none → c.Answers (h.set v) (.error .reentrant) c.world
  /-- Nothing else changes, and until it is written again everything that reads the global gives the
  value. -/
  stores : h.type.mutable = true → v.type = h.type.value →
    c.world.guest? h.address.owner ≠ none → ∃ w, c.Answers (h.set v) (.ok ()) w ∧
      (∀ s y, (s, y) ≠ (.global, h.address) →
        ({ c with world := w } : Point σ).content? s y = c.content? s y) ∧
      ∀ memory f c', c.turn = .action memory (h.set v >>= f) →
        Quiet P h.address ⟨.action memory (f (.ok ())), c.waiting, c.running, w⟩ c' →
          c'.value? h.address = some (.ofValue v) ∧ c'.Reads h.address (.ofValue v)

/-- How an exported global stands at a point of a run which began at another point, where `x` is what
it holds. -/
structure Keeps (P : Action σ (List Value) → Prop) (es : Exports) (start : Point σ)
    (h : Handle GlobalType) (c : Point σ) (x : Cell) : Prop where
  holds : c.value? h.address = some x
  type_eq : x.type = h.type.value
  reads : c.Reads h.address x
  reentrant : c.world.guest? h.address.owner = none →
    c.Answers h.get (.error .reentrant) c.world
  readable : (∃ v, h.got x = .ok v) ↔ h.type.value.isReference = false
  unreadable : h.got x = .error (.unreadable h.type.value) ↔ h.type.value.isReference = true
  constant : h.type.mutable = false → start.value? h.address = some x
  /-- There is only one handle of it, whatever the name. -/
  unique : ∀ name h', es.global name = .ok h' → h'.address = h.address → h' = h
  sets : ∀ v, c.Sets P h v
  /-- No value has the type of a reference. -/
  never : h.type.value.isReference = true → ∀ v : Value, v.type ≠ h.type.value

/-- Every instance that was there first owns something at any time. -/
lemma Typed.exists_guest (hc : c.Typed contexts first) {n : Nat} (hn : n < first) :
    ∃ g, c.guest? n = some g ∧ g.Typed (contexts n) := by
  have hsize : n < c.world.slots.size := Nat.lt_of_lt_of_le hn hc.placed.first_le
  unfold guest? held
  cases hl : c.running.lookup n with
  | some g =>
    have hmem : (n, g) ∈ c.running := by
      obtain ⟨l₁, l₂, hl, -⟩ := List.lookup_eq_some_iff.1 hl
      simp [hl]
    exact ⟨g, rfl, hc.fits.guest _ hmem⟩
  | none =>
    cases hg : c.world.guest? n with
    | some g => exact ⟨g, rfl, hc.fits.world.guest n g hg⟩
    | none =>
      obtain ⟨⟨k, g⟩, hmem, rfl⟩ := List.mem_map.1 ((hc.fits.mem_iff n).2 ⟨hsize, hg⟩)
      have hno := List.lookup_eq_none_iff.1 hl _ hmem
      simp at hno

/-- A global of such an instance holds something of its type. -/
lemma Typed.exists_value (hc : c.Typed contexts first) (hfirst : x.owner < first)
    {t : GlobalType} (ht : (contexts x.owner).globals[x.index]? = some t) :
    ∃ cell, c.value? x = some cell ∧ cell.type = t.value := by
  obtain ⟨g, hg, htyped⟩ := hc.exists_guest hfirst
  have hglobals := congrArg (fun l => l[x.index]?) htyped.globals
  simp only [List.getElem?_map, ht, Option.map_some, Array.getElem?_toList] at hglobals
  obtain ⟨cell, hcell, htype⟩ := Option.map_eq_some_iff.1 hglobals
  exact ⟨cell, by rw [value?, hg, Option.bind_some, hcell], htype⟩

/-- A mutable global is set by an operation. -/
lemma set_eq (hm : h.type.mutable = true) {v : Value} (hv : v.type = h.type.value) :
    (h.set v : Action σ _) =
      .operate h.address.owner (.globalSet h.address.index v) fun
        | none => .done (.error .reentrant)
        | some () => .done (.ok ()) :=
  (if_pos hm).trans (if_pos hv)

/-- An operation on an instance changes one entity. -/
lemma content?_operate (c : Point σ) {owner : Nat} {o : Operation} {s : Space} {y : Address}
    (hne : (s, y) ≠ (o.space, ⟨owner, o.index⟩)) :
    ({ c with world := (c.world.operate owner o).2 } : Point σ).content? s y = c.content? s y := by
  unfold content? guest? held
  simp only
  cases c.running.lookup y.owner with
  | some g => rfl
  | none =>
    have hworld := World.content?_operate c.world hne
    simp only [World.content?] at hworld
    simp only [Option.none_or]
    generalize (c.world.operate owner o).2.guest? y.owner = before at hworld ⊢
    generalize c.world.guest? y.owner = after at hworld ⊢
    cases before <;> cases after <;> simp_all

/-- The step that sets a global at rest. -/
lemma next_of_set (hm : h.type.mutable = true) {v : Value} (hv : v.type = h.type.value) {g : Guest}
    (hg : c.world.guest? h.address.owner = some g) {memory : Option Nat}
    {f : Except GlobalError Unit → Action σ (List Value)}
    (hturn : c.turn = .action memory (h.set v >>= f)) :
    c.next = some ⟨.action memory (f (.ok ())), c.waiting, c.running,
        (c.world.operate h.address.owner (.globalSet h.address.index v)).2⟩ := by
  rw [set_eq hm hv] at hturn
  have hworld := World.operate_of_guest? _ _ hg (.globalSet h.address.index v)
  simp only [Point.next, hturn]
  show some (act memory c.waiting c.running c.world (.operate h.address.owner _ _)) = _
  simp only [act, hworld]
  rfl

lemma Typed.sets (hc : c.Typed contexts first) (hfirst : h.address.owner < first)
    (hx : c.value? h.address = some cell) (htype : cell.type = h.type.value) (v : Value) :
    c.Sets P h v where
  immutable hm := by
    rw [Handle.set, if_neg (by simp [hm])]
    exact answers_done c _
  mismatch hm hv := by
    rw [Handle.set, if_pos hm, if_neg hv]
    exact answers_done c _
  reentrant hm hv hrest := by
    rw [set_eq hm hv]
    exact answers_operate (a := none) (by simp only [World.operate, hrest]) rfl
  stores hm hv hrest := by
    obtain ⟨g, hg⟩ := Option.ne_none_iff_exists'.1 hrest
    have hworld := World.operate_of_guest? _ _ hg (.globalSet h.address.index v)
    refine ⟨(c.world.operate h.address.owner (.globalSet h.address.index v)).2, ?_, ?_, ?_⟩
    · rw [set_eq hm hv]
      refine answers_operate (a := some ()) ?_ rfl
      rw [hworld]
    · exact fun s y hne => content?_operate c hne
    · intro memory f c' hturn hquiet
      have hnext := next_of_set hm hv hg hturn
      have hwrite : c.write? = some (h.address, .ofValue v) := by
        have hcell := hx
        rw [value?, hc.guest?_of_rest hg, Option.bind_some] at hcell
        rw [set_eq hm hv] at hturn
        unfold write?
        rw [hturn]
        show ((c.world.guest? h.address.owner).bind (Operation.write? _)).map _ = _
        simp only [hg, Option.bind_some, Operation.write?, hcell, Option.any_some, htype, hv,
          beq_self_eq_true, if_true, Option.map_some]
      have hc' := hc.next hnext
      have hvalue : c'.value? h.address = some (.ofValue v) :=
        (hquiet.value?_eq hc' hfirst).trans (hc.value?_next_of_write hnext hfirst hwrite hx)
      obtain ⟨contexts', -, hend⟩ := hc'.runs hquiet.runs
      exact ⟨hvalue, hend.reads hvalue⟩

/-- A new instance has the context of its module, and the others have theirs. -/
lemma exists_typed_of_made {w₀ w₁ : World σ} {m : Module} {o : ImportObject σ} {i : Instance}
    (hw : w₀.Reached) (hi : w₀.instantiate m o = (.made i, w₁)) :
    ∃ contexts, m.definition.Describes (contexts i.number) ∧
      (idle w₁).Typed contexts w₁.slots.size := by
  obtain ⟨contexts, hw₀⟩ := hw.exists_typed
  obtain ⟨s, ps, g, hp⟩ := World.exists_prepares hi
  obtain ⟨-, -, hnumber, -, -, -⟩ := World.outline_instantiate_made hi
  have hidle : (idle w₀).Typed contexts 0 := typed_idle hw₀ hw.atRest (Nat.zero_le _)
  obtain ⟨contexts', -, hd, hlaunch⟩ := typed_launch hidle hp
  have hgoes := goes_launch hp
  rw [hi] at hgoes
  have hend := (hlaunch.goes hgoes).fits.world
  exact ⟨contexts', hnumber ▸ hd, typed_idle hend (hw.made hi).atRest (Nat.le_refl _)⟩

/-- **An exported global keeps its type, its mutability and its bits.** The host does anything, as long
as it reaches globals through handles, and instances run any code. At every step the global holds
something of its type, which is what handles and code read. If it is immutable this is always the same,
and it cannot be set. If it is mutable it can be set, while its instance is at rest, to the values of its
type and no others. Then nothing else changes, and until it is written again everything that reads the
global gives exactly that value. -/
theorem globals_keep_type_and_bits {w₀ w₁ : World σ} {m : Module} {o : ImportObject σ} {i : Instance}
    {name : String} {h : Handle GlobalType} (hw : w₀.Reached)
    (hi : w₀.instantiate m o = (.made i, w₁)) (hh : i.exports.global name = .ok h)
    (hhost : w₁.Imports (Action.UsesExports h)) {c : Point σ}
    (hc : Runs (Action.UsesExports h) (idle w₁) c) :
    ∃ x, Keeps (Action.UsesExports h) i.exports (idle w₁) h c x := by
  obtain ⟨contexts, hd, htyped⟩ := exists_typed_of_made hw hi
  obtain ⟨-, -, -, hmodule, hexports, -⟩ := World.outline_instantiate_made hi
  obtain ⟨howner, htype⟩ := m.global_eq_ok hexports hh
  have hfirst : h.address.owner < w₁.slots.size := howner ▸ World.lt_size_of_made hi
  have hglobal : (contexts h.address.owner).globals[h.address.index]? = some h.type := by
    rw [howner, hd.globals_eq, htype]
  obtain ⟨contexts', hsame, hc'⟩ := htyped.runs hc
  obtain ⟨x, hx, hxtype⟩ := hc'.exists_value (x := h.address) hfirst (by rw [hsame _ hfirst, hglobal])
  have hvalue := Cell.toValue?_eq_none_iff x
  rw [hxtype] at hvalue
  refine ⟨x, hx, hxtype, hc'.reads hx, fun hrest => ?_, ?_, ?_, fun hm => ?_, fun name' h' hh' ha => ?_,
    hc'.sets hfirst hx hxtype, fun href v hv => ?_⟩
  · exact answers_operate (a := none) (by simp only [World.operate, hrest]) rfl
  · unfold Handle.got
    cases hv : x.toValue? with
    | some v => simpa [hv] using hvalue
    | none => simpa [hv] using hvalue
  · unfold Handle.got
    cases hv : x.toValue? with
    | some v => simpa [hv] using hvalue
    | none => simpa [hv] using hvalue
  · have hrespects : ∀ a : Action σ (List Value), a.UsesExports h → a.Respects h :=
      fun a ha => ha.respects
    have hquiet := htyped.quiet (of_idle (hhost.mono hrespects)) hfirst hglobal hm (hc.mono hrespects)
    rw [← hquiet.value?_eq htyped hfirst, hx]
  · obtain ⟨-, htype'⟩ := m.global_eq_ok hexports hh'
    rw [ha, htype] at htype'
    obtain ⟨a, t⟩ := h
    obtain ⟨a', t'⟩ := h'
    cases ha
    cases htype'
    rfl
  · rw [← hv] at href
    cases v <;> cases href

/-- A module imports one global of the host twice and exports both. One of them is set to a number, and
everything that reads it gives this number, but the other global is as it was. -/
theorem twin_is_set :
    let a : Handle GlobalType := ⟨⟨0, 0⟩, ⟨.i32, true⟩⟩
    let c : Point Unit := perform .twins (a.set (.i32 5) >>= fun _ => .done [])
    ∃ w, c.Answers (a.set (.i32 5)) (.ok ()) w ∧
      ({ c with world := w } : Point Unit).content? .global ⟨0, 1⟩ = c.content? .global ⟨0, 1⟩ ∧
      ({ c with turn := .action none (.done []), world := w } : Point Unit).Reads ⟨0, 0⟩
        (.value (.i32 5)) := by
  intro a c
  have hw : (World.create () (.ofFiles .empty)).Reached := ⟨(), .ofFiles .empty, .refl⟩
  have hhost : World.twins.Imports (Action.UsesExports a) := by
    obtain ⟨ps, hps, -, -, -, houtline⟩ := World.outline_instantiate_made World.instantiate_twins
    obtain rfl := Except.ok.inj (hps.symm.trans ImportObject.resolve_counter)
    intro n o ho k f hf
    rw [houtline, Array.getElem?_push] at ho
    split at ho
    · cases ho
      simp [Provided.functions] at hf
    · simp [World.outline, World.create] at ho
  have hset : (a.set (.i32 5) >>= fun _ => .done [] : Action Unit (List Value)).UsesExports a :=
    .use (u := .globalSet a (.i32 5)) (fun h' v hu hx => by cases hu; rfl) fun _ => .done []
  have hc : Runs (Action.UsesExports a) (idle .twins) c := .single (.perform World.twins hset)
  obtain ⟨x, hx⟩ := @globals_keep_type_and_bits _ _ _ _ _ _ "a" a hw World.instantiate_twins rfl
    hhost _ hc
  have hrest : c.world.guest? 0 ≠ none := by
    have hsome := (hw.made World.instantiate_twins).atRest 0
      (World.lt_size_of_made World.instantiate_twins)
    exact Option.isSome_iff_ne_none.1 hsome
  obtain ⟨w, hanswers, hothers, hreads⟩ := (hx.sets (.i32 5)).stores rfl rfl hrest
  exact ⟨w, hanswers, hothers .global ⟨0, 1⟩ (by decide),
    (hreads none (fun _ => .done []) _ rfl .refl).2⟩

end Point

end Embedder
