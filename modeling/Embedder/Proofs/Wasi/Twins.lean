import Embedder.Proofs.Dictionaries
import Embedder.Proofs.FileSystem.Counterparts
import Embedder.Proofs.Wasi.Calling
import Mathlib.Data.Set.Image

/-!
# A caller in two systems

What a function of the system interface does depends on its caller's memory and context, on the pipes
that the context writes to, on the input if the context has that of the host, and on the files that it
leads to, and on nothing else of the system. So it does the same in two systems that have the same there.

* `Context.rename`: a context whose files have other numbers;
* `Twins`: a caller in two systems, and `Twins.Leads`: what can become of them;
* `Twins.withContext`, `Twins.withFiles`, `Twins.withOutput`, `Twins.withInput`: what a function can make
  of them;
* `Calling.Local`: a computation whose ending depends on the memory only, and which changes no more.
-/

namespace Embedder.Wasi

open FileSystem (Counterparts)

/-! ### Contexts -/

namespace Descriptor

def rename (f : Nat → Nat) : Descriptor → Descriptor
  | .directory node name => .directory (f node) name
  | .file g => .file { g with node := f g.node }
  | .input => .input
  | .output stream => .output stream

/-- The node that is open. -/
def node? : Descriptor → Option Nat
  | .directory node _ => some node
  | .file f => some f.node
  | .input | .output _ => none

lemma node?_rename (f : Nat → Nat) (d : Descriptor) : (d.rename f).node? = d.node?.map f := by
  cases d <;> rfl

lemma rename_congr {f g : Nat → Nat} {d : Descriptor} (h : ∀ i, d.node? = some i → f i = g i) :
    d.rename f = d.rename g := by
  cases d with
  | directory node name => rw [rename, rename, h node rfl]
  | file e => rw [rename, rename, h e.node rfl]
  | input => rfl
  | output stream => rfl

end Descriptor

namespace Context

variable {c c' c'' : Context} {f g : Nat → Nat} {fd i : Nat} {d : Descriptor}

def rename (f : Nat → Nat) (c : Context) : Context :=
  { c with descriptors := c.descriptors.map (Prod.map id (Option.map (.rename f))) }

/-- The nodes that are open. -/
def nodes (c : Context) : Set Nat :=
  { i | ∃ fd d, (fd, some d) ∈ c.descriptors ∧ d.node? = some i }

/-- What is written to one of the streams goes to the pipe. -/
def UsesPipe (c : Context) (n : Nat) : Prop := c.output = .pipe n ∨ c.errors = .pipe n

lemma rename_congr (h : ∀ i ∈ c.nodes, f i = g i) : c.rename f = c.rename g := by
  unfold rename
  congr 1
  refine List.map_congr_left fun ⟨fd, o⟩ ho => ?_
  cases o with
  | none => rfl
  | some d =>
    exact congrArg (fd, some ·) (Descriptor.rename_congr fun i hi => h i ⟨fd, d, ho, hi⟩)

lemma rename_id (c : Context) : c.rename id = c := by
  have hid : Descriptor.rename id = id := by
    funext d
    cases d <;> rfl
  simp [rename, hid]

lemma mem_nodes_rename {j : Nat} : j ∈ (c.rename f).nodes ↔ ∃ i ∈ c.nodes, f i = j := by
  constructor
  · rintro ⟨fd, d', hd', hj⟩
    obtain ⟨⟨fd, o⟩, ho, he⟩ := List.mem_map.1 hd'
    obtain ⟨rfl, hod⟩ := Prod.mk.inj he
    obtain ⟨d, rfl, rfl⟩ := Option.map_eq_some_iff.1 hod
    rw [Descriptor.node?_rename] at hj
    obtain ⟨i, hi, rfl⟩ := Option.map_eq_some_iff.1 hj
    exact ⟨i, ⟨_, d, ho, hi⟩, rfl⟩
  · rintro ⟨i, ⟨fd, d, hd, hi⟩, rfl⟩
    exact ⟨fd, d.rename f, List.mem_map.2 ⟨_, hd, rfl⟩, by rw [Descriptor.node?_rename, hi]; rfl⟩

lemma find?_rename : (c.rename f).descriptors.find? fd =
    (c.descriptors.find? fd).map (Option.map (.rename f)) := Dictionary.find?_map _ _ _

lemma keys_rename : (c.rename f).descriptors.keys = c.descriptors.keys := Dictionary.keys_map _ _

lemma descriptor?_rename : (c.rename f).descriptor? fd = (c.descriptor? fd).map (.rename f) := by
  rw [descriptor?, find?_rename, descriptor?]
  rcases c.descriptors.find? fd with _ | _ | _ <;> rfl

lemma mem_nodes_of_descriptor? (hd : c.descriptor? fd = some d) (hi : d.node? = some i) :
    i ∈ c.nodes :=
  ⟨fd, d, Dictionary.mem_of_find? (Option.join_eq_some_iff.1 hd), hi⟩

lemma set_rename (d : Option Descriptor) :
    (c.rename f).set fd (d.map (.rename f)) = (c.set fd d).rename f := by
  simp only [set, rename, Dictionary.insert_map]

lemma mem_nodes_set {o : Option Descriptor} (hi : i ∈ (c.set fd o).nodes) :
    i ∈ c.nodes ∨ ∃ d, o = some d ∧ d.node? = some i := by
  obtain ⟨n, d, hd, hi⟩ := hi
  rcases Dictionary.mem_insert hd with hd | rfl
  · exact .inl ⟨n, d, hd, hi⟩
  · exact .inr ⟨d, rfl, hi⟩

lemma nextNumber?_rename : (c.rename f).nextNumber? = c.nextNumber? := by
  have hclosed (n : Nat) :
      ((c.rename f).descriptors.find? n == some none) = (c.descriptors.find? n == some none) := by
    rw [find?_rename]
    rcases c.descriptors.find? n with _ | _ | _ <;> rfl
  unfold nextNumber?
  simp only [keys_rename, hclosed]

lemma insert?_rename (d : Descriptor) :
    (c.rename f).insert? (d.rename f) = (c.insert? d).map (Prod.map id (.rename f)) := by
  unfold insert?
  rw [nextNumber?_rename]
  cases c.nextNumber? with
  | none => rfl
  | some n =>
    have hset : (c.rename f).set n (some (d.rename f)) = (c.set n (some d)).rename f :=
      set_rename (some d)
    simp [hset]

lemma mem_nodes_insert? {n : Nat} (h : c.insert? d = some (n, c')) (hi : i ∈ c'.nodes) :
    i ∈ c.nodes ∨ d.node? = some i := by
  obtain ⟨m, -, hm⟩ := Option.map_eq_some_iff.1 h
  cases hm
  refine (mem_nodes_set hi).imp id ?_
  rintro ⟨_, ⟨⟩, hi⟩
  exact hi

lemma renumber_rename (newFd : Nat) :
    (c.rename f).renumber fd newFd (d.rename f) = (c.renumber fd newFd d).rename f := by
  unfold renumber
  rw [← set_rename, ← set_rename]
  rfl

lemma mem_nodes_renumber {newFd : Nat} (hi : i ∈ (c.renumber fd newFd d).nodes) :
    i ∈ c.nodes ∨ d.node? = some i := by
  rcases mem_nodes_set hi with hi | ⟨_, ⟨⟩, hi⟩
  · exact .inl ((mem_nodes_set hi).resolve_right fun ⟨_, h, _⟩ => nomatch h)
  · exact .inr hi

/-! Streams. -/

/-- The output goes to the same sinks, and the input is that of the host for both or for none. -/
structure SameStreams (c c' : Context) : Prop where
  output_eq : c'.output = c.output
  errors_eq : c'.errors = c.errors
  inherited_iff : c'.input = .inherited ↔ c.input = .inherited

namespace SameStreams

lemma refl (c : Context) : c.SameStreams c := ⟨rfl, rfl, .rfl⟩

lemma trans (h : c.SameStreams c') (h' : c'.SameStreams c'') : c.SameStreams c'' :=
  ⟨h'.output_eq.trans h.output_eq, h'.errors_eq.trans h.errors_eq,
    h'.inherited_iff.trans h.inherited_iff⟩

lemma usesPipe_iff (h : c.SameStreams c') (n : Nat) : c'.UsesPipe n ↔ c.UsesPipe n := by
  unfold UsesPipe
  rw [h.output_eq, h.errors_eq]

end SameStreams

lemma sameStreams_insert? {n : Nat} (h : c.insert? d = some (n, c')) : c.SameStreams c' := by
  obtain ⟨m, -, hm⟩ := Option.map_eq_some_iff.1 h
  cases hm
  exact ⟨rfl, rfl, .rfl⟩

end Context

/-! ### Output -/

namespace System

variable {s : System} {stream : OutputStream} {sink : OutputSink} {bytes : List UInt8} {n : Nat}

/-- What is written does not change the rest of the system. -/
lemma write_same : (s.write stream sink bytes).2.files = s.files ∧
    (s.write stream sink bytes).2.input = s.input ∧
    (s.write stream sink bytes).2.surroundings = s.surroundings := by
  unfold write
  cases sink with
  | inherit => cases stream <;> exact ⟨rfl, rfl, rfl⟩
  | null => exact ⟨rfl, rfl, rfl⟩
  | pipe k =>
    simp only
    cases s.pipes[k]? <;> exact ⟨rfl, rfl, rfl⟩

lemma pipes_write_of_ne (h : sink ≠ .pipe n) :
    (s.write stream sink bytes).2.pipes[n]? = s.pipes[n]? := by
  unfold write
  cases sink with
  | inherit => cases stream <;> rfl
  | null => rfl
  | pipe k =>
    have hk : k ≠ n := fun hk => h (by rw [hk])
    simp only
    cases s.pipes[k]? with
    | none => rfl
    | some p => simp [hk]

/-- What is written to a pipe, and what the writer is told, depends on the pipe only. -/
lemma write_pipe : (s.write stream (.pipe n) bytes).1 = (s.pipes[n]?).all (fun p => (p.write bytes).1) ∧
    (s.write stream (.pipe n) bytes).2.pipes[n]? = (s.pipes[n]?).map fun p => (p.write bytes).2 := by
  simp only [write]
  cases hp : s.pipes[n]? with
  | none => exact ⟨rfl, hp⟩
  | some p => simp [(Array.getElem?_eq_some_iff.1 hp).1]

end System

/-! ### Twins -/

/-- A caller in two systems that have the same for it, except that its files have other numbers in the
second one. -/
structure Twins where
  files : Counterparts
  context : Context
  left : System
  right : System
  left_files : left.files = files.left
  right_files : right.files = files.right
  nodes_subset : context.nodes ⊆ files.held
  pipe_eq : ∀ n, context.UsesPipe n → right.pipes[n]? = left.pipes[n]?
  input_eq : context.input = .inherited → right.input = left.input
  surroundings_eq : right.surroundings = left.surroundings

namespace Twins

variable {t t₁ t₂ : Twins} {m : Memory}

abbrev map (t : Twins) : Nat → Nat := t.files.map

abbrev held (t : Twins) : Set Nat := t.files.held

/-- The caller in the first system. -/
def caller (t : Twins) (m : Memory) : CallState := ⟨m, t.context, t.left⟩

/-- The caller in the second system. -/
def twin (t : Twins) (m : Memory) : CallState := ⟨m, t.context.rename t.map, t.right⟩

/-- What becomes of twins: they keep their files and may get new ones, and in the second system nothing
else changes. -/
structure Leads (t t₁ : Twins) : Prop where
  files : t.files.Leads t₁.files
  streams : t.context.SameStreams t₁.context
  pipes : ∀ n, ¬ t.context.UsesPipe n → t₁.right.pipes[n]? = t.right.pipes[n]?
  input : t.context.input ≠ .inherited → t₁.right.input = t.right.input
  surroundings : t₁.right.surroundings = t.right.surroundings

lemma Leads.refl (t : Twins) : t.Leads t := ⟨.refl _, .refl _, fun _ _ => rfl, fun _ => rfl, rfl⟩

lemma Leads.trans (h : t.Leads t₁) (h' : t₁.Leads t₂) : t.Leads t₂ where
  files := h.files.trans h'.files
  streams := h.streams.trans h'.streams
  pipes n hn := (h'.pipes n (mt (h.streams.usesPipe_iff n).1 hn)).trans (h.pipes n hn)
  input hi := (h'.input (mt h.streams.inherited_iff.1 hi)).trans (h.input hi)
  surroundings := h'.surroundings.trans h.surroundings

/-- A caller is its own twin. -/
def self (c : Context) (s : System) (hs : s.files.WellFormed) {S : Set Nat}
    (hS : FileSystem.Sealed S s.files) (hc : c.nodes ⊆ S) : Twins where
  files := .self hs hS
  context := c
  left := s
  right := s
  left_files := rfl
  right_files := rfl
  nodes_subset := hc
  pipe_eq _ _ := rfl
  input_eq _ := rfl
  surroundings_eq := rfl

/-! ### What becomes of twins -/

/-- The context changes. -/
def withContext (t : Twins) (c : Context) (hc : c.nodes ⊆ t.held) (hs : t.context.SameStreams c) :
    Twins :=
  { t with
    context := c
    nodes_subset := hc
    pipe_eq := fun n hn => t.pipe_eq n ((hs.usesPipe_iff n).1 hn)
    input_eq := fun hi => t.input_eq (hs.inherited_iff.1 hi) }

lemma leads_withContext {c : Context} (hc : c.nodes ⊆ t.held) (hs : t.context.SameStreams c) :
    t.Leads (t.withContext c hc hs) := ⟨.refl _, hs, fun _ _ => rfl, fun _ => rfl, rfl⟩

/-- The files change. -/
def withFiles (t : Twins) (c : Counterparts) (hc : t.files.Leads c) : Twins where
  files := c
  context := t.context
  left := { t.left with files := c.left }
  right := { t.right with files := c.right }
  left_files := rfl
  right_files := rfl
  nodes_subset := t.nodes_subset.trans hc.held_subset
  pipe_eq := t.pipe_eq
  input_eq := t.input_eq
  surroundings_eq := t.surroundings_eq

lemma leads_withFiles {c : Counterparts} (hc : t.files.Leads c) : t.Leads (t.withFiles c hc) :=
  ⟨hc, .refl _, fun _ _ => rfl, fun _ => rfl, rfl⟩

lemma rename_withFiles {c : Counterparts} (hc : t.files.Leads c) :
    t.context.rename c.map = t.context.rename t.map :=
  Context.rename_congr fun i hi => hc.map_eq i (t.nodes_subset hi)

lemma write_eq (t : Twins) (stream : OutputStream) (bytes : List UInt8) :
    (t.right.write stream (t.context.sink stream) bytes).1 =
        (t.left.write stream (t.context.sink stream) bytes).1 ∧
      ∀ n, t.context.UsesPipe n →
        (t.right.write stream (t.context.sink stream) bytes).2.pipes[n]? =
          (t.left.write stream (t.context.sink stream) bytes).2.pipes[n]? := by
  have hother : ∀ n, t.context.sink stream ≠ .pipe n → t.context.UsesPipe n →
      (t.right.write stream (t.context.sink stream) bytes).2.pipes[n]? =
        (t.left.write stream (t.context.sink stream) bytes).2.pipes[n]? := fun n hne hn => by
    rw [System.pipes_write_of_ne hne, System.pipes_write_of_ne hne, t.pipe_eq n hn]
  cases hsink : t.context.sink stream with
  | null => exact ⟨rfl, fun n => hsink ▸ hother n (by simp [hsink])⟩
  | inherit => exact ⟨by cases stream <;> rfl, fun n => hsink ▸ hother n (by simp [hsink])⟩
  | pipe k =>
    have hk : t.context.UsesPipe k := by
      cases stream with
      | standard => exact .inl hsink
      | error => exact .inr hsink
    refine ⟨by rw [System.write_pipe.1, System.write_pipe.1, t.pipe_eq k hk], fun n hn => ?_⟩
    by_cases hkn : k = n
    · subst hkn
      rw [System.write_pipe.2, System.write_pipe.2, t.pipe_eq k hk]
    · exact hsink ▸ hother n (by simpa [hsink] using hkn) hn

/-- Bytes are written to a stream. -/
def withOutput (t : Twins) (stream : OutputStream) (bytes : List UInt8) : Twins :=
  { t with
    left := (t.left.write stream (t.context.sink stream) bytes).2
    right := (t.right.write stream (t.context.sink stream) bytes).2
    left_files := System.write_same.1.trans t.left_files
    right_files := System.write_same.1.trans t.right_files
    pipe_eq := (t.write_eq stream bytes).2
    input_eq := fun hi => by
      rw [System.write_same.2.1, System.write_same.2.1]
      exact t.input_eq hi
    surroundings_eq := by
      rw [System.write_same.2.2, System.write_same.2.2]
      exact t.surroundings_eq }

lemma leads_withOutput (t : Twins) (stream : OutputStream) (bytes : List UInt8) :
    t.Leads (t.withOutput stream bytes) where
  files := .refl _
  streams := .refl _
  pipes n hn := System.pipes_write_of_ne fun hsink => hn <| by
    cases stream with
    | standard => exact .inl hsink
    | error => exact .inr hsink
  input _ := System.write_same.2.1
  surroundings := System.write_same.2.2

/-- The input of the host is read. -/
def withInput (t : Twins) (room : Nat) : Twins :=
  { t with
    left := { t.left with input := t.left.input.drop room }
    right := { t.right with input := t.right.input.drop room }
    input_eq := fun hi => by rw [t.input_eq hi] }

lemma leads_withInput {room : Nat} (hi : t.context.input = .inherited) : t.Leads (t.withInput room) :=
  ⟨.refl _, .refl _, fun _ _ => rfl, fun hne => absurd hi hne, rfl⟩

/-- The input that is left is the same for both. -/
lemma left_input_eq (t : Twins) : t.context.input.left t.right = t.context.input.left t.left := by
  cases hi : t.context.input with
  | inherited => exact t.input_eq hi
  | own bytes => rfl

end Twins

/-! ### Computations on the memory -/

namespace Calling

variable {α β : Type}

/-- The computation works on the memory only. -/
def Local (x : Calling α) : Prop :=
  ∃ f : Memory → Except Ending α × Memory,
    ∀ s, x.ends s = ((f s.memory).1, { s with memory := (f s.memory).2 })

namespace Local

lemma pure (a : α) : Local (Pure.pure a) := ⟨fun m => (.ok a, m), fun _ => rfl⟩

lemma throw (e : Ending) : Local (MonadExcept.throw e : Calling α) :=
  ⟨fun m => (.error e, m), fun _ => rfl⟩

lemma modify (f : Memory → Memory) :
    Local (MonadState.modifyGet fun s : CallState => ((), { s with memory := f s.memory })) :=
  ⟨fun m => (.ok (), f m), fun _ => rfl⟩

lemma bind {x : Calling α} {k : α → Calling β} (hx : Local x) (hk : ∀ a, Local (k a)) :
    Local (x >>= k) := by
  obtain ⟨f, hf⟩ := hx
  choose g hg using hk
  refine ⟨fun m => match f m with
    | (.ok a, m) => g a m
    | (.error e, m) => (.error e, m), fun s => ?_⟩
  rw [ends_bind, hf]
  dsimp only
  rcases f s.memory with ⟨e | a, m⟩
  · rfl
  · exact hg a ⟨m, s.context, s.system⟩

/-- It may look at the memory. -/
lemma get {k : CallState → Calling α} (hk : ∀ s, Local (k s))
    (hm : ∀ s s' : CallState, s.memory = s'.memory → k s = k s') : Local (MonadState.get >>= k) := by
  choose f hf using hk
  refine ⟨fun m => f ⟨m, .empty, default⟩ m, fun s => ?_⟩
  change (k s).ends s = _
  rw [hm s ⟨s.memory, .empty, default⟩ rfl]
  exact hf _ s

lemma onMemory {x : Calling α} (h : x.OnMemory) : Local x := by
  induction h with
  | pure a => exact .pure a
  | fail e => exact .throw _
  | trap message => exact .throw _
  | bind _ _ ihx ihf => exact .bind ihx ihf
  | get _ hm ih => exact .get ih hm
  | storeBytes start bytes => exact .modify fun m => m.write start bytes

lemma exit (status : Nat) : Local (Calling.exit status) := by
  unfold Calling.exit
  split
  · exact .throw _
  · exact .throw _

end Local

end Calling

end Embedder.Wasi
