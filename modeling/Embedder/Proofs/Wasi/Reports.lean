import Embedder.Proofs.Wasi.Finalizing
import Embedder.Proofs.Wasi.Marshalling
import Embedder.Proofs.Wasi.Preopens
import Embedder.Proofs.World.Files

/-!
# What a program is told of its environment

A builder refuses an argument with a byte of zero, and a variable whose key is empty or has a `=`, or
that has a byte of zero. These are the texts that a guest could not tell apart from others. So a guest
that takes apart what it is given gets back what the host has collected.

* `StateBuilder.finalize_eq_ok`: what is known of a builder that was finalized;
* `Context.Holds`, `Context.Opened`: a context with the arguments and the variables, and with the mapped
  directories as its only pre-opens;
* `Context.Tells`, `Context.Names`, `Context.NamesNone`: how a guest asks, and what it reads;
* `Context.Holds.reports`, `Context.OpensAt.reports`: it reads what the builder has collected, in order and
  number;
* `Context.Holds.toldApart`: contexts of builders that differ are told apart by a call.
-/

namespace Embedder.Wasi

open Calling (utf8 terminated Words)

/-! ### Finalized builders -/

namespace StateBuilder

/-- Its texts and variables can be told apart. -/
structure Sound (b : StateBuilder) : Prop where
  texts : ∀ s ∈ b.texts, hasNul s = false
  vars : ∀ e ∈ b.vars, variableFault? e.1 e.2 = none

variable {b : StateBuilder} {fs : FileSystem} {env : Environment}

end StateBuilder

/-! ### Contexts -/

namespace Context

/-- The context has the arguments and the variables of a builder. -/
structure Holds (c : Context) (b : StateBuilder) : Prop where
  arguments_eq : c.arguments = b.texts
  vars_eq : c.vars = b.vars

/-- The number stands for the mapped directory whose place in the order it tells, if there is one, and
else for no pre-open. -/
def OpensAt (c : Context) (b : StateBuilder) (fd : Nat) : Prop :=
  ∀ name, c.Preopens fd name ↔ ∃ i, fd = 3 + i ∧ b.aliases[i]? = some name

variable {c c' : Context} {b : StateBuilder} {touched : Nat → Prop}

lemma Holds.keeps (h : c.Holds b) (hk : c.Keeps c' touched) : c'.Holds b :=
  ⟨hk.arguments_eq.trans h.arguments_eq, hk.vars_eq.trans h.vars_eq⟩

end Context

/-! ### Asking -/

namespace Function

/-- The call succeeds and leaves a memory. It changes nothing else. -/
def Succeeds (f : Function) (v : Version) (cells : List Cell) (s : CallState) (m : Memory) : Prop :=
  f.call v cells s = (.ok [.i32 0], s.withMemory m)

/-- The call fails with a number and changes nothing. -/
def Refuses (f : Function) (v : Version) (cells : List Cell) (s : CallState) (e : Errno) : Prop :=
  f.call v cells s = (.ok [.i32 (.ofNat e.code)], s)

end Function

namespace Context

/-- A list is asked for by two functions. The first one gives the number of its elements and the size
of all of them. The second one, with room for so many, writes them so that a guest gets them back, and
gives the address of each of them in their order. -/
structure Tells {α : Type} (c : Context) (sizes get : Function) (encode : α → List (List UInt8))
    (decode? : List UInt8 → Option (List α)) (xs : List α) : Prop where
  sizes : ∀ {v s cells count size}, s.context = c → cells.map Function.number = [count, size] →
    Words s.memory count size → xs.length < 2 ^ 32 → (written (xs.map encode)).length < 2 ^ 32 →
    ∃ m, sizes.Succeeds v cells s m ∧ m.number count 4 = xs.length ∧
      m.number size 4 = (written (xs.map encode)).length ∧
      ∀ a, a < count ∨ count + 4 ≤ a → a < size ∨ size + 4 ≤ a → m.get a = s.memory.get a
  get : ∀ {v s cells addresses start}, s.context = c →
    cells.map Function.number = [addresses, start] →
    Room s.memory addresses start xs.length (written (xs.map encode)).length →
    ∃ m, get.Succeeds v cells s m ∧
      decode? (m.slice start (written (xs.map encode)).length) = some xs ∧
      (∀ i x, xs[i]? = some x → m.slice (m.number (addresses + 4 * i) 4)
        ((encode x).flatten.length + 1) = (encode x).flatten ++ [nul]) ∧
      ∀ a, a < addresses ∨ addresses + 4 * xs.length ≤ a →
        a < start ∨ start + (written (xs.map encode)).length ≤ a → m.get a = s.memory.get a

/-- The descriptor is that of a directory with a name. A guest asks for the length of the name and
then, with room for it, for the name itself. -/
structure Names (c : Context) (fd : Nat) (name : String) : Prop where
  length : ∀ {v s cells result}, s.context = c → cells.map Function.number = [fd, result] →
    result % 4 = 0 → result + 8 ≤ s.memory.byteSize → name.utf8ByteSize < 2 ^ 32 →
    ∃ m, Function.fdPrestatGet.Succeeds v cells s m ∧ m.get result = 0 ∧
      m.number (result + 4) 4 = name.utf8ByteSize
  text : ∀ {v s cells start room}, s.context = c → cells.map Function.number = [fd, start, room] →
    name.utf8ByteSize ≤ room → start + name.utf8ByteSize ≤ s.memory.byteSize →
    ∃ m, Function.fdPrestatDirName.Succeeds v cells s m ∧
      text? (m.slice start name.utf8ByteSize) = some name
  tooLong : ∀ {v s cells start room}, s.context = c →
    cells.map Function.number = [fd, start, room] → room < name.utf8ByteSize →
    Function.fdPrestatDirName.Refuses v cells s .nameTooLong

/-- The descriptor is no pre-open. -/
structure NamesNone (c : Context) (fd : Nat) : Prop where
  length : ∀ {v s cells result}, s.context = c → cells.map Function.number = [fd, result] →
    Function.fdPrestatGet.Refuses v cells s .badDescriptor
  text : ∀ {v s cells start room}, s.context = c → cells.map Function.number = [fd, start, room] →
    ∃ e, Function.fdPrestatDirName.Refuses v cells s e

/-- A guest reads the arguments and the variables that the builder has collected, and the names of the
pre-opens that there are. -/
structure Reports (c : Context) (b : StateBuilder) : Prop where
  arguments : c.Tells .argsSizesGet .argsGet (fun s => [utf8 s]) texts? b.texts
  vars : c.Tells .environSizesGet .environGet assignment pairs? b.vars
  preopens : ∀ fd name, c.Preopens fd name → c.Names fd name
  others : ∀ fd, (∀ name, ¬ c.Preopens fd name) → c.NamesNone fd

/-- The number of a mapped directory has its name, and no other number has one. -/
structure ReportsAt (c : Context) (b : StateBuilder) (fd : Nat) : Prop where
  named : ∀ i name, fd = 3 + i → b.aliases[i]? = some name → c.Names fd name
  unnamed : fd < 3 ∨ 3 + b.aliases.length ≤ fd → c.NamesNone fd

end Context

/-! ### What is answered -/

namespace Function

open Calling

variable {v : Version} {f : Function} {cells : List Cell} {s : CallState}

lemma succeeds_of_ends {m : Memory}
    (h : (f.perform v (cells.map number)).ends s = (.ok (), s.withMemory m)) :
    f.Succeeds v cells s m := by
  rw [Succeeds, call_eq, h]
  rfl

lemma refuses_of_ends {e : Errno}
    (h : (f.perform v (cells.map number)).ends s = (.error (.errno e), s)) :
    f.Refuses v cells s e := by
  rw [Refuses, call_eq, h]
  rfl

end Function

namespace Context

open Calling

variable {α : Type} {c : Context} {b : StateBuilder} {sizes get : Function}
  {encode : α → List (List UInt8)} {decode? : List UInt8 → Option (List α)} {xs : List α}

/-- Two functions that write the sizes of texts and the texts tell a list that comes back from them. -/
lemma tells_of_ends
    (hsizes : ∀ v s count size, s.context = c → (sizes.perform v [count, size]).ends s =
      (writeSizes count size (xs.map encode)).ends s)
    (hget : ∀ v s addresses start, s.context = c → (get.perform v [addresses, start]).ends s =
      (writeTexts addresses start (xs.map encode)).ends s)
    (hdecode : decode? (written (xs.map encode)) = some xs) :
    c.Tells sizes get encode decode? xs := by
  constructor
  · intro v s cells count size hs hcells hwords hcount hsize
    rw [← List.length_map (f := encode)] at hcount ⊢
    obtain ⟨m, hends, -, hm⟩ := ends_writeSizes hwords hcount hsize
    refine ⟨m, Function.succeeds_of_ends ?_, hm⟩
    rw [hcells, hsizes v s count size hs, hends]
  · intro v s cells addresses start hs hcells hroom
    rw [← List.length_map (f := encode)] at hroom ⊢
    have hlaid := laid_layout hroom
    refine ⟨_, Function.succeeds_of_ends ?_, ?_, ?_, hlaid.rest⟩
    · rw [hcells, hget v s addresses start hs, ends_writeTexts hroom]
    · rw [hlaid.buffer, hdecode]
    · intro i x hx
      exact hlaid.text (by rw [List.getElem?_map, hx]; rfl)

lemma ends_context_bind (k : Context → Calling α) (s : CallState) :
    (Calling.context >>= k).ends s = (k s.context).ends s := rfl

/-- Arguments come back from what is written for them. -/
lemma Holds.tells_arguments (h : c.Holds b) (hb : b.Sound) :
    c.Tells .argsSizesGet .argsGet (fun s => [utf8 s]) texts? b.texts := by
  refine tells_of_ends ?_ ?_ (texts?_written hb.texts)
  · rintro v s count size rfl
    rw [← h.arguments_eq]
    exact ends_context_bind (fun c => writeSizes count size (argumentTexts c)) s
  · rintro v s addresses start rfl
    rw [← h.arguments_eq]
    exact ends_context_bind (fun c => writeTexts addresses start (argumentTexts c)) s

/-- Variables come back from what is written for them. -/
lemma Holds.tells_vars (h : c.Holds b) (hb : b.Sound) :
    c.Tells .environSizesGet .environGet assignment pairs? b.vars := by
  refine tells_of_ends ?_ ?_ (pairs?_written hb.vars)
  · rintro v s count size rfl
    rw [← h.vars_eq]
    exact ends_context_bind (fun c => writeSizes count size (variableTexts c)) s
  · rintro v s addresses start rfl
    rw [← h.vars_eq]
    exact ends_context_bind (fun c => writeTexts addresses start (variableTexts c)) s

lemma ends_descriptor (s : CallState) (fd : Nat) :
    (descriptor fd).ends s =
      ((s.context.descriptor? fd).elim (.error (.errno .badDescriptor)) .ok, s) := by
  have hcontext : Calling.context.ends s = (.ok s.context, s) := rfl
  rw [descriptor, ends_bind_of_ok hcontext]
  cases s.context.descriptor? fd <;> rfl

variable {fd : Nat}

/-- A pre-open has its name. -/
lemma Preopens.names {name : String} (h : c.Preopens fd name) : c.Names fd name := by
  obtain ⟨node, hd⟩ := h
  have hfound (s : CallState) (hs : s.context = c) :
      (descriptor fd).ends s = (.ok (.directory node (some name)), s) := by
    rw [ends_descriptor, hs, hd]
    rfl
  constructor
  · intro v s cells result hs hcells haligned hroom hlength
    have hfirst : (writeBytes result [0]).ends s = (.ok (), s.store result [0]) :=
      ends_writeBytes (by rw [List.length_singleton]; omega)
    have hsecond : (writeWord 4 (result + 4) name.utf8ByteSize).ends (s.store result [0]) =
        (.ok (), (s.store result [0]).store (result + 4)
          (littleEndianBytes 4 name.utf8ByteSize)) :=
      ends_writeWord (by rw [CallState.store, Memory.byteSize_write]; omega) (by omega) _
    refine ⟨(s.memory.write result [0]).write (result + 4)
      (littleEndianBytes 4 name.utf8ByteSize), Function.succeeds_of_ends ?_, ?_,
      Memory.number_write ?_ hlength⟩
    · rw [hcells]
      change (describeAlias fd result).ends s = _
      rw [describeAlias, ends_bind_of_ok (hfound s hs)]
      simp only
      rw [seqRight_eq_bind, ends_bind_of_ok hfirst, hsecond, CallState.store_store]
    · rw [Memory.get_write_of_outside (.inl (by omega))]
      exact Memory.get_write (j := 0) (by rw [List.length_singleton]; omega) rfl
    · rw [Memory.byteSize_write]
      omega
  · intro v s cells start room hs hcells hlength hroom
    have hbytes : start + (utf8 name).length ≤ s.memory.byteSize := by rwa [length_utf8]
    refine ⟨_, Function.succeeds_of_ends (m := s.memory.write start (utf8 name)) ?_, ?_⟩
    · rw [hcells]
      change (directoryAlias fd start room).ends s = _
      rw [directoryAlias, ends_bind_of_ok (hfound s hs)]
      simp only [if_neg (Nat.not_lt.2 hlength)]
      exact ends_writeBytes hbytes
    · rw [← length_utf8, Memory.slice_write_self hbytes, text?_utf8]
  · intro v s cells start room hs hcells hlt
    refine Function.refuses_of_ends ?_
    rw [hcells]
    change (directoryAlias fd start room).ends s = _
    rw [directoryAlias, ends_bind_of_ok (hfound s hs)]
    simp only [if_pos hlt]
    rfl

/-- Another descriptor, or a number that stands for none, has no name. -/
lemma namesNone_of_not_preopens (h : ∀ name, ¬ c.Preopens fd name) : c.NamesNone fd := by
  have hother : ∀ node name, c.descriptor? fd ≠ some (.directory node (some name)) :=
    fun node name hd => h name ⟨node, hd⟩
  constructor
  · rintro v s cells result rfl hcells
    refine Function.refuses_of_ends ?_
    rw [hcells]
    change (describeAlias fd result).ends s = _
    rw [describeAlias, ends_bind, ends_descriptor]
    cases hd : s.context.descriptor? fd with
    | none => rfl
    | some d =>
      cases d with
      | directory node name =>
        cases name with
        | none => rfl
        | some name => exact absurd hd (hother node name)
      | _ => rfl
  · rintro v s cells start room rfl hcells
    cases hd : s.context.descriptor? fd with
    | none =>
      refine ⟨.badDescriptor, Function.refuses_of_ends ?_⟩
      rw [hcells]
      change (directoryAlias fd start room).ends s = _
      rw [directoryAlias, ends_bind, ends_descriptor, hd]
      rfl
    | some d =>
      refine ⟨.notDirectory, Function.refuses_of_ends ?_⟩
      rw [hcells]
      change (directoryAlias fd start room).ends s = _
      rw [directoryAlias, ends_bind, ends_descriptor, hd]
      cases d with
      | directory node name =>
        cases name with
        | none => rfl
        | some name => exact absurd hd (hother node name)
      | _ => rfl

/-- **A guest reads what the builder has collected.** -/
theorem Holds.reports (h : c.Holds b) (hb : b.Sound) : c.Reports b :=
  ⟨h.tells_arguments hb, h.tells_vars hb, fun _ _ hopen => hopen.names, fun _ =>
    namesNone_of_not_preopens⟩

/-- It reads the name of a mapped directory as long as its number stands for it. -/
theorem OpensAt.reports {fd : Nat} (h : c.OpensAt b fd) : c.ReportsAt b fd := by
  refine ⟨fun i name hfd hi => ((h name).2 ⟨i, hfd, hi⟩).names, fun hfd => ?_⟩
  refine namesNone_of_not_preopens fun name hname => ?_
  obtain ⟨i, rfl, hi⟩ := (h name).1 hname
  have hlt := (List.getElem?_eq_some_iff.1 hi).1
  omega

end Context

/-! ### Telling environments apart -/

namespace Context

/-- A call tells contexts apart: with the same memory, and whatever else there is, its results differ or
the memories that it leaves. -/
def ToldApart (c c' : Context) (m : Memory) : Prop :=
  ∃ (f : Function) (cells : List Cell), cells.map Cell.type = f.params ∧
    ∀ v s s', s.context = c → s'.context = c' → s.memory = m → s'.memory = m →
      (f.call v cells s).1 ≠ (f.call v cells s').1 ∨
        (f.call v cells s).2.memory ≠ (f.call v cells s').2.memory

end Context

/-- All that a program is told of a builder fits into a number of bytes, one thing at a time. -/
structure StateBuilder.FitsIn (b : StateBuilder) (n : Nat) : Prop where
  words : 8 ≤ n
  reach : n < 2 ^ 32
  arguments : 4 * b.texts.length + (written (b.texts.map fun s => [utf8 s])).length ≤ n
  vars : 4 * b.vars.length + (written (b.vars.map assignment)).length ≤ n
  names : ∀ name ∈ b.aliases, name.utf8ByteSize ≤ n
  numbers : 3 + b.aliases.length ≤ 2 ^ 32

lemma StateBuilder.FitsIn.name {b : StateBuilder} {n i : Nat} (h : b.FitsIn n) {name : String}
    (hi : b.aliases[i]? = some name) : 3 + i < 2 ^ 32 ∧ name.utf8ByteSize ≤ n := by
  have hlt := (List.getElem?_eq_some_iff.1 hi).1
  have hnumbers := h.numbers
  exact ⟨by omega, h.names name (List.mem_of_getElem? hi)⟩

namespace Context

variable {α : Type} {c c' : Context} {b b' : StateBuilder} {m : Memory} {n : Nat}

lemma number_i32 (h : n < 2 ^ 32) : Function.number (.i32 (.ofNat n)) = n :=
  UInt32.toNat_ofNat_of_lt' h

lemma ToldApart.symm (h : c.ToldApart c' m) : c'.ToldApart c m := by
  obtain ⟨f, cells, htypes, hdiffer⟩ := h
  refine ⟨f, cells, htypes, fun v s s' hs hs' hm hm' => ?_⟩
  exact (hdiffer v s' s hs' hs hm' hm).imp Ne.symm Ne.symm

/-- Calls that leave different memories tell contexts apart. -/
lemma toldApart_of_succeeds (f : Function) (cells : List Cell)
    (htypes : cells.map Cell.type = f.params) {P Q : Memory → Prop}
    (h : ∀ v s, s.context = c → s.memory = m → ∃ m₁, f.Succeeds v cells s m₁ ∧ P m₁)
    (h' : ∀ v s, s.context = c' → s.memory = m → ∃ m₁, f.Succeeds v cells s m₁ ∧ Q m₁)
    (hdiffer : ∀ m₁, P m₁ → ¬ Q m₁) : c.ToldApart c' m := by
  refine ⟨f, cells, htypes, fun v s s' hs hs' hm hm' => .inr ?_⟩
  obtain ⟨m₁, hcall, hp⟩ := h v s hs hm
  obtain ⟨m₂, hcall', hq⟩ := h' v s' hs' hm'
  rw [hcall, hcall']
  exact fun (heq : m₁ = m₂) => hdiffer m₁ hp (heq ▸ hq)

section Lists

variable {sizes get : Function} {encode : α → List (List UInt8)}
  {decode? : List UInt8 → Option (List α)} {xs xs' : List α}

/-- Lists of another number or size are told apart. -/
lemma Tells.toldApart_of_sizes (h : c.Tells sizes get encode decode? xs)
    (h' : c'.Tells sizes get encode decode? xs')
    (hne : ¬ (xs.length = xs'.length ∧
      (written (xs.map encode)).length = (written (xs'.map encode)).length))
    (hsizes : sizes.params = [.i32, .i32]) (hn : n ≤ m.byteSize) (hwords : 8 ≤ n)
    (hreach : n < 2 ^ 32) (hfits : 4 * xs.length + (written (xs.map encode)).length ≤ n)
    (hfits' : 4 * xs'.length + (written (xs'.map encode)).length ≤ n) : c.ToldApart c' m := by
  have hcells : [Cell.i32 (.ofNat 0), .i32 (.ofNat 4)].map Function.number = [0, 4] := rfl
  have htwo : Words m 0 4 := ⟨rfl, rfl, by omega, by omega, .inl (by omega)⟩
  refine toldApart_of_succeeds sizes [.i32 (.ofNat 0), .i32 (.ofNat 4)] hsizes.symm
    (P := fun m₁ => m₁.number 0 4 = xs.length ∧
      m₁.number 4 4 = (written (xs.map encode)).length)
    (Q := fun m₁ => m₁.number 0 4 = xs'.length ∧
      m₁.number 4 4 = (written (xs'.map encode)).length) ?_ ?_ ?_
  · rintro v s hs rfl
    obtain ⟨m₁, hcall, hcount, hsize, -⟩ := h.sizes (v := v) hs hcells htwo (by omega) (by omega)
    exact ⟨m₁, hcall, hcount, hsize⟩
  · rintro v s hs rfl
    obtain ⟨m₁, hcall, hcount, hsize, -⟩ := h'.sizes (v := v) hs hcells htwo (by omega) (by omega)
    exact ⟨m₁, hcall, hcount, hsize⟩
  · rintro m₁ ⟨hcount, hsize⟩ ⟨hcount', hsize'⟩
    exact hne ⟨hcount.symm.trans hcount', hsize.symm.trans hsize'⟩

/-- Lists of one number and size are told apart by what is written. -/
lemma Tells.toldApart_of_written (h : c.Tells sizes get encode decode? xs)
    (h' : c'.Tells sizes get encode decode? xs') (hne : xs ≠ xs')
    (hcount : xs.length = xs'.length)
    (hsize : (written (xs.map encode)).length = (written (xs'.map encode)).length)
    (hget : get.params = [.i32, .i32]) (hn : n ≤ m.byteSize) (hreach : n < 2 ^ 32)
    (hfits : 4 * xs.length + (written (xs.map encode)).length ≤ n) : c.ToldApart c' m := by
  set start := 4 * xs.length
  set size := (written (xs.map encode)).length
  have hroom : Room m 0 start xs.length size :=
    ⟨rfl, by omega, by omega, by omega, .inl (by omega)⟩
  have hcells : [Cell.i32 (.ofNat 0), .i32 (.ofNat start)].map Function.number = [0, start] := by
    rw [List.map_cons, List.map_cons, number_i32 (by decide), number_i32 (by omega), List.map_nil]
  refine toldApart_of_succeeds get [.i32 (.ofNat 0), .i32 (.ofNat start)] hget.symm
    (P := fun m₁ => decode? (m₁.slice start size) = some xs)
    (Q := fun m₁ => decode? (m₁.slice start size) = some xs') ?_ ?_ ?_
  · rintro v s hs rfl
    obtain ⟨m₁, hcall, hdecode, -⟩ := h.get (v := v) hs hcells hroom
    exact ⟨m₁, hcall, hdecode⟩
  · rintro v s hs rfl
    rw [hcount, hsize] at hroom
    obtain ⟨m₁, hcall, hdecode, -⟩ := h'.get (v := v) hs hcells hroom
    exact ⟨m₁, hcall, by rwa [hsize]⟩
  · intro m₁ hp hq
    exact hne (Option.some.inj (hp.symm.trans hq))

/-- Different lists are told apart, by their number and size or else by what is written. -/
lemma Tells.toldApart (h : c.Tells sizes get encode decode? xs)
    (h' : c'.Tells sizes get encode decode? xs') (hne : xs ≠ xs')
    (hsizes : sizes.params = [.i32, .i32]) (hget : get.params = [.i32, .i32])
    (hn : n ≤ m.byteSize) (hwords : 8 ≤ n) (hreach : n < 2 ^ 32)
    (hfits : 4 * xs.length + (written (xs.map encode)).length ≤ n)
    (hfits' : 4 * xs'.length + (written (xs'.map encode)).length ≤ n) : c.ToldApart c' m := by
  by_cases hsame : xs.length = xs'.length ∧
      (written (xs.map encode)).length = (written (xs'.map encode)).length
  · exact h.toldApart_of_written h' hne hsame.1 hsame.2 hget hn hreach hfits
  · exact h.toldApart_of_sizes h' hsame hsizes hn hwords hreach hfits hfits'

end Lists

variable {fd : Nat} {name name' : String}

/-- Different names of one number are told apart, by their length or else by what is written. -/
lemma Names.toldApart (h : c.Names fd name) (h' : c'.Names fd name') (hne : name ≠ name')
    (hfd : fd < 2 ^ 32) (hn : n ≤ m.byteSize) (hwords : 8 ≤ n) (hreach : n < 2 ^ 32)
    (hfits : name.utf8ByteSize ≤ n) (hfits' : name'.utf8ByteSize ≤ n) : c.ToldApart c' m := by
  by_cases hsame : name.utf8ByteSize = name'.utf8ByteSize
  · set size := name.utf8ByteSize
    have hcells : [Cell.i32 (.ofNat fd), .i32 (.ofNat 0), .i32 (.ofNat size)].map Function.number =
        [fd, 0, size] := by
      simp only [List.map_cons, List.map_nil, number_i32 hfd, number_i32 (n := 0) (by decide),
        number_i32 (n := size) (by omega)]
    refine toldApart_of_succeeds .fdPrestatDirName
      [.i32 (.ofNat fd), .i32 (.ofNat 0), .i32 (.ofNat size)] rfl
      (P := fun m₁ => text? (m₁.slice 0 size) = some name)
      (Q := fun m₁ => text? (m₁.slice 0 size) = some name') ?_ ?_ ?_
    · rintro v s hs rfl
      exact h.text hs hcells (Nat.le_refl _) (by omega)
    · rintro v s hs rfl
      rw [hsame] at hcells ⊢
      exact h'.text hs hcells (Nat.le_refl _) (by omega)
    · intro m₁ hp hq
      exact hne (Option.some.inj (hp.symm.trans hq))
  · have hcells : [Cell.i32 (.ofNat fd), .i32 (.ofNat 0)].map Function.number = [fd, 0] := by
      simp only [List.map_cons, List.map_nil, number_i32 hfd, number_i32 (n := 0) (by decide)]
    refine toldApart_of_succeeds .fdPrestatGet [.i32 (.ofNat fd), .i32 (.ofNat 0)] rfl
      (P := fun m₁ => m₁.number 4 4 = name.utf8ByteSize)
      (Q := fun m₁ => m₁.number 4 4 = name'.utf8ByteSize) ?_ ?_ ?_
    · rintro v s hs rfl
      obtain ⟨m₁, hcall, -, hlength⟩ := h.length (v := v) hs hcells rfl (by omega) (by omega)
      exact ⟨m₁, hcall, hlength⟩
    · rintro v s hs rfl
      obtain ⟨m₁, hcall, -, hlength⟩ := h'.length (v := v) hs hcells rfl (by omega) (by omega)
      exact ⟨m₁, hcall, hlength⟩
    · intro m₁ hp hq
      exact hsame (hp.symm.trans hq)

/-- A pre-open is told apart from another descriptor. -/
lemma Names.toldApart_none (h : c.Names fd name) (h' : c'.NamesNone fd) (hfd : fd < 2 ^ 32)
    (hn : n ≤ m.byteSize) (hwords : 8 ≤ n) (hreach : n < 2 ^ 32) (hfits : name.utf8ByteSize ≤ n) :
    c.ToldApart c' m := by
  have hcells : [Cell.i32 (.ofNat fd), .i32 (.ofNat 0)].map Function.number = [fd, 0] := by
    simp only [List.map_cons, List.map_nil, number_i32 hfd, number_i32 (n := 0) (by decide)]
  refine ⟨.fdPrestatGet, [.i32 (.ofNat fd), .i32 (.ofNat 0)], rfl, fun v s s' hs hs' hm _ => .inl ?_⟩
  subst hm
  obtain ⟨m₁, hcall, -⟩ := h.length (v := v) hs hcells rfl (by omega) (by omega)
  rw [hcall, h'.length hs' hcells]
  exact fun heq => absurd (Except.ok.inj heq) (by decide)

/-- Different names of one number are told apart as long as the number stands for them. -/
lemma OpensAt.toldApart {i : Nat} (h : c.OpensAt b (3 + i)) (h' : c'.OpensAt b' (3 + i))
    (hne : b.aliases[i]? ≠ b'.aliases[i]?) (hn : n ≤ m.byteSize) (hfits : b.FitsIn n)
    (hfits' : b'.FitsIn n) : c.ToldApart c' m := by
  have hnone {c : Context} {b : StateBuilder} (h : c.OpensAt b (3 + i)) (hi : b.aliases[i]? = none) :
      c.NamesNone (3 + i) :=
    h.reports.unnamed (.inr (Nat.add_le_add_left (List.getElem?_eq_none_iff.1 hi) 3))
  have hsome {c : Context} {b : StateBuilder} (h : c.OpensAt b (3 + i)) {name : String}
      (hi : b.aliases[i]? = some name) : c.Names (3 + i) name := h.reports.named i name rfl hi
  cases hname : b.aliases[i]? with
  | none =>
    cases hname' : b'.aliases[i]? with
    | none => exact absurd (hname.trans hname'.symm) hne
    | some name' =>
      obtain ⟨hfd, hlength⟩ := hfits'.name hname'
      exact ((hsome h' hname').toldApart_none (hnone h hname) hfd hn hfits.words
        hfits.reach hlength).symm
  | some name =>
    obtain ⟨hfd, hlength⟩ := hfits.name hname
    cases hname' : b'.aliases[i]? with
    | none =>
      exact (hsome h hname).toldApart_none (hnone h' hname') hfd hn hfits.words
        hfits.reach hlength
    | some name' =>
      have hdiffer : name ≠ name' := by
        rintro rfl
        exact hne (hname.trans hname'.symm)
      exact (hsome h hname).toldApart (hsome h' hname') hdiffer hfd hn
        hfits.words hfits.reach hlength (hfits'.name hname').2

/-- **Builders that differ in the program name, the arguments, the variables or the names of directories
are told apart** by one call of a guest that has room for them. A name counts as long as its number stands
for it. -/
theorem Holds.toldApart (h : c.Holds b) (h' : c'.Holds b') (hb : b.Sound) (hb' : b'.Sound)
    (hne : b.texts ≠ b'.texts ∨ b.vars ≠ b'.vars ∨
      ∃ i, b.aliases[i]? ≠ b'.aliases[i]? ∧ c.OpensAt b (3 + i) ∧ c'.OpensAt b' (3 + i))
    (hn : n ≤ m.byteSize) (hfits : b.FitsIn n) (hfits' : b'.FitsIn n) : c.ToldApart c' m := by
  rcases hne with hne | hne | ⟨i, hne, ho, ho'⟩
  · exact (h.tells_arguments hb).toldApart (h'.tells_arguments hb') hne rfl rfl hn hfits.words
      hfits.reach hfits.arguments hfits'.arguments
  · exact (h.tells_vars hb).toldApart (h'.tells_vars hb') hne rfl rfl hn hfits.words hfits.reach
      hfits.vars hfits'.vars
  · exact ho.toldApart ho' hne hn hfits hfits'

end Context

end Embedder.Wasi
