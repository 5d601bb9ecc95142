import Embedder.Proofs.Lists
import Embedder.Wasi.Environment
import Mathlib.Tactic.SplitIfs

/-!
# What can be finalized

* `VariableFault.Of`, `DirectoryFault.Of`: what is wrong with a variable or a mapped directory;
* `StateBuilder.Acceptable`, `StateBuilder.finalize_eq_ok_iff`: what a program can be started with;
* `StateBuilder.Refused`, `StateBuilder.finalize_eq_error_iff`: the first thing that prevents it;
* `StateBuilder.CopiedTo`, `StateBuilder.copiedTo_of_finalize`: what an environment has of it.
-/

namespace Embedder.Wasi

open Elementwise

/-! ### What is wrong with a part -/

/-- A text has a character that ends it for the guest. -/
def HoldsNul (s : String) : Prop := '\x00' ∈ s.toList

instance : DecidablePred HoldsNul := fun s => inferInstanceAs (Decidable ('\x00' ∈ s.toList))

lemma hasNul_eq_true_iff {s : String} : hasNul s = true ↔ HoldsNul s := List.contains_iff_mem

/-- Of several faults of a variable the first one counts. -/
inductive VariableFault.Of (key value : String) : VariableFault → Prop
  | emptyKey (h : key = "") : Of key value .emptyKey
  | equalsInKey (hne : key ≠ "") (h : '=' ∈ key.toList) : Of key value .equalsInKey
  | nul (hne : key ≠ "") (heq : '=' ∉ key.toList) (h : HoldsNul key ∨ HoldsNul value) :
      Of key value .nul

/-- Of several faults of a mapped directory the first one counts. -/
inductive DirectoryFault.Of (fs : FileSystem) (guestName path : String) : DirectoryFault → Prop
  | nulInAlias (h : HoldsNul guestName) : Of fs guestName path .nulInAlias
  | unreachable {e : FileError} (hnul : ¬ HoldsNul guestName)
      (h : fs.canonicalize path = .error e) : Of fs guestName path (.unreachable e)
  | notDirectory {i : Nat} (hnul : ¬ HoldsNul guestName) (hi : fs.canonicalize path = .ok i)
      (h : fs.isDirectory i = false) : Of fs guestName path .notDirectory

section Parts

variable {key value guestName path : String} {fs : FileSystem}

lemma variableFault?_eq (key value : String) :
    variableFault? key value =
      if key = "" then some .emptyKey
      else if '=' ∈ key.toList then some .equalsInKey
      else if HoldsNul key ∨ HoldsNul value then some .nul
      else none := by
  simp only [variableFault?, Bool.or_eq_true, hasNul_eq_true_iff, List.contains_iff_mem]

lemma variableFault?_eq_some_iff {f : VariableFault} :
    variableFault? key value = some f ↔ f.Of key value := by
  rw [variableFault?_eq]
  constructor
  · intro h
    split_ifs at h with hempty heq hnul
    · cases h
      exact .emptyKey hempty
    · cases h
      exact .equalsInKey hempty heq
    · cases h
      exact .nul hempty heq hnul
  · rintro (h | ⟨hne, h⟩ | ⟨hne, heq, h⟩)
    · rw [if_pos h]
    · rw [if_neg hne, if_pos h]
    · rw [if_neg hne, if_neg heq, if_pos h]

lemma variableFault?_eq_none_iff :
    variableFault? key value = none ↔
      key ≠ "" ∧ '=' ∉ key.toList ∧ ¬ HoldsNul key ∧ ¬ HoldsNul value := by
  rw [variableFault?_eq, ← not_or]
  split_ifs with hempty heq hnul
  · simp [hempty]
  · simp [heq]
  · simp [hnul]
  · simp [hempty, heq, hnul]

lemma absoluteDirectory_eq (fs : FileSystem) (guestName path : String) :
    absoluteDirectory fs guestName path =
      if HoldsNul guestName then .error .nulInAlias
      else
        match fs.canonicalize path with
        | .error e => .error (.unreachable e)
        | .ok i => if fs.isDirectory i then .ok (fs.pathOf i) else .error .notDirectory := by
  unfold absoluteDirectory
  refine if_congr hasNul_eq_true_iff rfl ?_
  cases fs.canonicalize path <;> rfl

lemma absoluteDirectory_eq_error_iff {f : DirectoryFault} :
    absoluteDirectory fs guestName path = .error f ↔ f.Of fs guestName path := by
  rw [absoluteDirectory_eq]
  constructor
  · intro h
    split_ifs at h with hnul
    · cases h
      exact .nulInAlias hnul
    · split at h
      · rename_i e hpath
        cases h
        exact .unreachable hnul hpath
      · rename_i i hpath
        split_ifs at h with hi
        cases h
        exact .notDirectory hnul hpath (Bool.eq_false_iff.2 hi)
  · rintro (h | ⟨hnul, h⟩ | ⟨hnul, hpath, h⟩)
    · rw [if_pos h]
    · rw [if_neg hnul, h]
    · rw [if_neg hnul, hpath]
      simp [h]

lemma absoluteDirectory_eq_ok_iff {absolute : String} :
    absoluteDirectory fs guestName path = .ok absolute ↔
      ¬ HoldsNul guestName ∧ ∃ i, fs.canonicalize path = .ok i ∧ fs.isDirectory i = true ∧
        absolute = fs.pathOf i := by
  rw [absoluteDirectory_eq]
  by_cases hnul : HoldsNul guestName
  · simp [hnul]
  · cases fs.canonicalize path with
    | error e => simp [hnul]
    | ok i => cases hi : fs.isDirectory i <;> simp [hnul, hi, @eq_comm _ absolute]

end Parts

/-! ### Finalizing -/

namespace StateBuilder

/-- The names that directories are mapped to. -/
def aliases (b : StateBuilder) : List String := b.directories.map Prod.fst

/-- The texts that a program finds as its arguments. -/
def texts (b : StateBuilder) : List String := b.programName :: b.arguments

/-- What a program can be started with. -/
structure Acceptable (b : StateBuilder) (fs : FileSystem) : Prop where
  texts : ∀ s ∈ b.texts, ¬ HoldsNul s
  vars : ∀ k v, (k, v) ∈ b.vars → k ≠ "" ∧ '=' ∉ k.toList ∧ ¬ HoldsNul k ∧ ¬ HoldsNul v
  aliases : ∀ name ∈ b.aliases, ¬ HoldsNul name
  paths : ∀ name path, (name, path) ∈ b.directories →
    ∃ i, fs.canonicalize path = .ok i ∧ fs.isDirectory i = true

/-- The error names the first thing that prevents a start. The texts come first, then the variables,
then the directories, each in their order. -/
inductive Refused (b : StateBuilder) (fs : FileSystem) : StateError → Prop
  | text {before after : List String} {a : String} (h : b.texts = before ++ a :: after)
      (hbefore : ∀ s ∈ before, ¬ HoldsNul s) (ha : HoldsNul a) : Refused b fs (.invalidArgument a)
  | assignment {before after : List (String × String)} {k v : String} {f : VariableFault}
      (htexts : ∀ s ∈ b.texts, ¬ HoldsNul s) (h : b.vars = before ++ (k, v) :: after)
      (hbefore : ∀ e ∈ before, ∀ f : VariableFault, ¬ f.Of e.1 e.2) (hf : f.Of k v) :
      Refused b fs (.invalidVariable k f)
  | mapping {before after : List (String × String)} {name path : String} {f : DirectoryFault}
      (htexts : ∀ s ∈ b.texts, ¬ HoldsNul s)
      (hvars : ∀ e ∈ b.vars, ∀ f : VariableFault, ¬ f.Of e.1 e.2)
      (h : b.directories = before ++ (name, path) :: after)
      (hbefore : ∀ d ∈ before, ∀ f : DirectoryFault, ¬ f.Of fs d.1 d.2)
      (hf : f.Of fs name path) : Refused b fs (.invalidDirectory name path f)

/-- The environment has what the builder has collected, with the directories by the absolute paths
that they have in the file system. -/
structure CopiedTo (b : StateBuilder) (fs : FileSystem) (env : Environment) : Prop where
  programName : env.programName = b.programName
  arguments : env.arguments = b.arguments
  vars : env.vars = b.vars
  directories : List.Forall₂ (fun d d' => d'.1 = d.1 ∧
    ∃ i, fs.canonicalize d.2 = .ok i ∧ d'.2 = fs.pathOf i) b.directories env.directories
  input : env.input = b.input
  output : env.output = b.output
  errors : env.errors = b.errors

/-- What finalizing can answer. -/
structure Answers (b : StateBuilder) (fs : FileSystem) (r : Except StateError Environment) :
    Prop where
  accepted : (∃ env, r = .ok env) ↔ b.Acceptable fs
  copied : ∀ env, r = .ok env → b.CopiedTo fs env
  refused : ∀ e, r = .error e ↔ b.Refused fs e

/-- What becomes of a single mapped directory. -/
def absoluteMapping (fs : FileSystem) (d : String × String) :
    Except StateError (String × String) :=
  match absoluteDirectory fs d.1 d.2 with
  | .error f => .error (.invalidDirectory d.1 d.2 f)
  | .ok absolute => .ok (d.1, absolute)

section Finalizing

variable {b : StateBuilder} {fs : FileSystem}

lemma absoluteDirectories_eq (ds : List (String × String)) :
    absoluteDirectories fs ds = ds.mapM (absoluteMapping fs) := by
  induction ds with
  | nil => rfl
  | cons d ds ih =>
    rw [List.mapM_cons, absoluteDirectories, ih, absoluteMapping]
    cases absoluteDirectory fs d.1 d.2 with
    | error f => rfl
    | ok absolute => cases ds.mapM (absoluteMapping fs) <;> rfl

lemma absoluteMapping_eq_ok_iff {d d' : String × String} :
    absoluteMapping fs d = .ok d' ↔
      d'.1 = d.1 ∧ absoluteDirectory fs d.1 d.2 = .ok d'.2 := by
  unfold absoluteMapping
  cases absoluteDirectory fs d.1 d.2 with
  | error f => simp
  | ok absolute => simp [Prod.ext_iff, eq_comm]

lemma absoluteMapping_eq_error_iff {d : String × String} {e : StateError} :
    absoluteMapping fs d = .error e ↔
      ∃ f : DirectoryFault, f.Of fs d.1 d.2 ∧ e = .invalidDirectory d.1 d.2 f := by
  simp only [← absoluteDirectory_eq_error_iff]
  unfold absoluteMapping
  cases absoluteDirectory fs d.1 d.2 <;> simp [eq_comm]

/-- The first variable that cannot be. -/
def faultyVariable? (b : StateBuilder) : Option (String × VariableFault) :=
  b.vars.findSome? fun e => (variableFault? e.1 e.2).map fun f => (e.1, f)

/-- Finalizing in its three steps. -/
lemma finalize_eq (b : StateBuilder) (fs : FileSystem) :
    b.finalize fs =
      match b.texts.find? hasNul with
      | some a => .error (.invalidArgument a)
      | none =>
        match b.faultyVariable? with
        | some (k, f) => .error (.invalidVariable k f)
        | none =>
          match b.directories.mapM (absoluteMapping fs) with
          | .error e => .error e
          | .ok directories =>
            .ok ⟨b.programName, b.arguments, b.vars, directories, b.input, b.output, b.errors⟩ := by
  rw [← absoluteDirectories_eq]
  rfl

lemma find?_hasNul_eq_some_iff {ts : List String} {a : String} :
    ts.find? hasNul = some a ↔
      ∃ before after, ts = before ++ a :: after ∧ (∀ s ∈ before, ¬ HoldsNul s) ∧ HoldsNul a := by
  rw [List.find?_eq_some_iff_append, hasNul_eq_true_iff]
  simp only [Bool.not_eq_true', ← Bool.not_eq_true, hasNul_eq_true_iff]
  constructor
  · rintro ⟨ha, before, after, h, hbefore⟩
    exact ⟨before, after, h, hbefore, ha⟩
  · rintro ⟨before, after, h, hbefore, ha⟩
    exact ⟨ha, before, after, h, hbefore⟩

lemma find?_hasNul_eq_none_iff {ts : List String} :
    ts.find? hasNul = none ↔ ∀ s ∈ ts, ¬ HoldsNul s := by
  simp only [List.find?_eq_none, hasNul_eq_true_iff]

lemma fault_eq_none_iff {e : String × String} :
    ((variableFault? e.1 e.2).map fun f => (e.1, f)) = none ↔
      ∀ f : VariableFault, ¬ f.Of e.1 e.2 := by
  rw [Option.map_eq_none_iff, Option.eq_none_iff_forall_ne_some]
  simp only [Ne, variableFault?_eq_some_iff]

lemma faultyVariable?_eq_some_iff {k : String} {f : VariableFault} :
    b.faultyVariable? = some (k, f) ↔
      ∃ before v after, b.vars = before ++ (k, v) :: after ∧
        (∀ e ∈ before, ∀ f : VariableFault, ¬ f.Of e.1 e.2) ∧ f.Of k v := by
  unfold faultyVariable?
  rw [List.findSome?_eq_some_iff]
  simp only [fault_eq_none_iff, Option.map_eq_some_iff, variableFault?_eq_some_iff, Prod.mk.injEq]
  constructor
  · rintro ⟨before, ⟨k, v⟩, after, h, ⟨f, hf, rfl, rfl⟩, hbefore⟩
    exact ⟨before, v, after, h, hbefore, hf⟩
  · rintro ⟨before, v, after, h, hbefore, hf⟩
    exact ⟨before, (k, v), after, h, ⟨f, hf, rfl, rfl⟩, hbefore⟩

lemma faultyVariable?_eq_none_iff :
    b.faultyVariable? = none ↔ ∀ e ∈ b.vars, ∀ f : VariableFault, ¬ f.Of e.1 e.2 := by
  unfold faultyVariable?
  simp only [List.findSome?_eq_none_iff, fault_eq_none_iff]

lemma mapM_absoluteMapping_eq_error_iff {ds : List (String × String)} {e : StateError} :
    ds.mapM (absoluteMapping fs) = .error e ↔
      ∃ before name path after, ∃ f : DirectoryFault, ds = before ++ (name, path) :: after ∧
        (∀ d ∈ before, ∀ f : DirectoryFault, ¬ f.Of fs d.1 d.2) ∧ f.Of fs name path ∧
          e = .invalidDirectory name path f := by
  have hok (d : String × String) : (∃ d', absoluteMapping fs d = .ok d') ↔
      ∀ f : DirectoryFault, ¬ f.Of fs d.1 d.2 := by
    simp only [← absoluteDirectory_eq_error_iff]
    unfold absoluteMapping
    cases absoluteDirectory fs d.1 d.2 <;> simp
  rw [mapM_eq_error_iff]
  simp only [hok, absoluteMapping_eq_error_iff]
  constructor
  · rintro ⟨before, ⟨name, path⟩, after, h, hbefore, f, hf, he⟩
    exact ⟨before, name, path, after, f, h, hbefore, hf, he⟩
  · rintro ⟨before, name, path, after, f, h, hbefore, hf, he⟩
    exact ⟨before, (name, path), after, h, hbefore, f, hf, he⟩

/-- **The error names the first thing** that prevents a start. -/
theorem finalize_eq_error_iff {e : StateError} : b.finalize fs = .error e ↔ b.Refused fs e := by
  rw [finalize_eq]
  constructor
  · intro h
    split at h
    · rename_i a ha
      cases h
      obtain ⟨before, after, h, hbefore, ha⟩ := find?_hasNul_eq_some_iff.1 ha
      exact .text h hbefore ha
    · rename_i htexts
      rw [find?_hasNul_eq_none_iff] at htexts
      split at h
      · rename_i k f hf
        cases h
        obtain ⟨before, v, after, h, hbefore, hf⟩ := faultyVariable?_eq_some_iff.1 hf
        exact .assignment htexts h hbefore hf
      · rename_i hvars
        rw [faultyVariable?_eq_none_iff] at hvars
        split at h
        · rename_i hds
          cases h
          obtain ⟨before, name, path, after, f, h, hbefore, hf, rfl⟩ :=
            mapM_absoluteMapping_eq_error_iff.1 hds
          exact .mapping htexts hvars h hbefore hf
        · cases h
  · intro h
    cases h with
    | text h hbefore ha => rw [find?_hasNul_eq_some_iff.2 ⟨_, _, h, hbefore, ha⟩]
    | assignment htexts h hbefore hf =>
      rw [find?_hasNul_eq_none_iff.2 htexts,
        faultyVariable?_eq_some_iff.2 ⟨_, _, _, h, hbefore, hf⟩]
    | mapping htexts hvars h hbefore hf =>
      rw [find?_hasNul_eq_none_iff.2 htexts, faultyVariable?_eq_none_iff.2 hvars,
        mapM_absoluteMapping_eq_error_iff.2 ⟨_, _, _, _, _, h, hbefore, hf, rfl⟩]

lemma exists_mapM_absoluteMapping_iff :
    (∃ ds, b.directories.mapM (absoluteMapping fs) = .ok ds) ↔
      (∀ name ∈ b.aliases, ¬ HoldsNul name) ∧ ∀ name path, (name, path) ∈ b.directories →
        ∃ i, fs.canonicalize path = .ok i ∧ fs.isDirectory i = true := by
  simp only [mapM_eq_ok_iff, exists_forall₂_iff, absoluteMapping_eq_ok_iff,
    absoluteDirectory_eq_ok_iff]
  constructor
  · intro h
    constructor
    · intro name hname
      obtain ⟨d, hd, rfl⟩ := List.mem_map.1 hname
      obtain ⟨-, -, hnul, -⟩ := h d hd
      exact hnul
    · intro name path hd
      obtain ⟨-, -, -, i, hpath, hi, -⟩ := h _ hd
      exact ⟨i, hpath, hi⟩
  · rintro ⟨haliases, hpaths⟩ d hd
    obtain ⟨i, hpath, hi⟩ := hpaths d.1 d.2 hd
    exact ⟨(d.1, fs.pathOf i), rfl, haliases _ (List.mem_map_of_mem hd), i, hpath, hi, rfl⟩

/-- **What can be finalized.** -/
theorem finalize_eq_ok_iff : (∃ env, b.finalize fs = .ok env) ↔ b.Acceptable fs := by
  have hvars : b.faultyVariable? = none ↔ ∀ k v, (k, v) ∈ b.vars →
      k ≠ "" ∧ '=' ∉ k.toList ∧ ¬ HoldsNul k ∧ ¬ HoldsNul v := by
    simp only [faultyVariable?, List.findSome?_eq_none_iff, Option.map_eq_none_iff,
      variableFault?_eq_none_iff, Prod.forall]
  rw [finalize_eq]
  constructor
  · rintro ⟨env, h⟩
    split at h
    · cases h
    · rename_i htexts
      split at h
      · cases h
      · rename_i hvar
        split at h
        · cases h
        · rename_i ds hds
          obtain ⟨haliases, hpaths⟩ := exists_mapM_absoluteMapping_iff.1 ⟨ds, hds⟩
          exact ⟨find?_hasNul_eq_none_iff.1 htexts, hvars.1 hvar, haliases, hpaths⟩
  · rintro ⟨htexts, hvar, haliases, hpaths⟩
    obtain ⟨ds, hds⟩ := exists_mapM_absoluteMapping_iff.2 ⟨haliases, hpaths⟩
    rw [find?_hasNul_eq_none_iff.2 htexts, hvars.2 hvar, hds]
    exact ⟨_, rfl⟩

/-- **An environment has what was collected.** -/
theorem copiedTo_of_finalize {env : Environment} (h : b.finalize fs = .ok env) :
    b.CopiedTo fs env := by
  rw [finalize_eq] at h
  split at h
  · cases h
  · split at h
    · cases h
    · split at h
      · cases h
      · rename_i ds hds
        cases h
        refine ⟨rfl, rfl, rfl, (mapM_eq_ok_iff.1 hds).imp fun d d' hd => ?_, rfl, rfl, rfl⟩
        obtain ⟨hname, hpath⟩ := absoluteMapping_eq_ok_iff.1 hd
        obtain ⟨-, i, hi, -, habsolute⟩ := absoluteDirectory_eq_ok_iff.1 hpath
        exact ⟨hname, i, hi, habsolute⟩

theorem answers_finalize (b : StateBuilder) (fs : FileSystem) : b.Answers fs (b.finalize fs) :=
  ⟨finalize_eq_ok_iff, fun _ => copiedTo_of_finalize, fun _ => finalize_eq_error_iff⟩

end Finalizing

end StateBuilder

end Embedder.Wasi
