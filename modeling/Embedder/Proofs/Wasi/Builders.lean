import Embedder.Proofs.Dictionaries
import Embedder.Proofs.Wasi.Finalizing

/-!
# What builders collect

* `StateBuilder.Step`, `StateBuilder.Session`: calls on a builder, and what came of the times when
  it was finalized;
* `StateBuilder.after`, `StateBuilder.builder_foldl`: what any calls add up to;
* `StateBuilder.Collected`: the same by arguments, variables, directories and streams;
* `StateBuilder.builder_collects_and_checks`: what is known of a builder, and of what came of it,
  after any calls.
-/

namespace Embedder.Wasi.StateBuilder

/-! ### Calls -/

inductive Step where
  | argument (a : String)
  | arguments (as : List String)
  | setVariable (key value : String)
  | setVariables (kvs : List (String × String))
  | mapDirectory (guestName path : String)
  | mapDirectories (ds : List (String × String))
  | preopen (path : String)
  | preopens (paths : List String)
  | input (source : InputSource)
  | output (sink : OutputSink)
  | errors (sink : OutputSink)
  | finalize (fs : FileSystem)

namespace Step

def run (b : StateBuilder) : Step → StateBuilder
  | .argument a => b.addArgument a
  | .arguments as => b.addArguments as
  | .setVariable key value => b.setVariable key value
  | .setVariables kvs => b.setVariables kvs
  | .mapDirectory guestName path => b.mapDirectory guestName path
  | .mapDirectories ds => b.mapDirectories ds
  | .preopen path => b.preopenDirectory path
  | .preopens paths => b.preopenDirectories paths
  | .input source => b.setInput source
  | .output sink => b.setOutput sink
  | .errors sink => b.setErrors sink
  | .finalize _ => b

@[simp] def outcome? (b : StateBuilder) : Step → Option (Except StateError Environment)
  | .finalize fs => some (b.finalize fs)
  | _ => none

@[simp] def texts : Step → List String
  | .argument a => [a]
  | .arguments as => as
  | _ => []

@[simp] def writes : Step → List (String × String)
  | .setVariable key value => [(key, value)]
  | .setVariables kvs => kvs
  | _ => []

/-- A pre-opened directory has its path for a name. -/
@[simp] def mappings : Step → List (String × String)
  | .mapDirectory guestName path => [(guestName, path)]
  | .mapDirectories ds => ds
  | .preopen path => [(path, path)]
  | .preopens paths => paths.map fun path => (path, path)
  | _ => []

@[simp] def input? : Step → Option InputSource
  | .input source => some source
  | _ => none

@[simp] def output? : Step → Option OutputSink
  | .output sink => some sink
  | _ => none

@[simp] def errors? : Step → Option OutputSink
  | .errors sink => some sink
  | _ => none

@[simp] def isFinalize : Step → Bool
  | .finalize _ => true
  | _ => false

end Step

/-- A builder, and what came of the times when it was finalized. -/
structure Session where
  builder : StateBuilder
  outcomes : List (Except StateError Environment)

namespace Session

def start (programName : String) : Session := ⟨.create programName, []⟩

def step (s : Session) (c : Step) : Session :=
  ⟨c.run s.builder, s.outcomes ++ (c.outcome? s.builder).toList⟩

def run (programName : String) (steps : List Step) : Session :=
  steps.foldl step (start programName)

end Session

/-! ### What calls add up to -/

section Collecting

variable (b : StateBuilder)

def after (steps : List Step) : StateBuilder where
  programName := b.programName
  arguments := b.arguments ++ steps.flatMap Step.texts
  vars := b.vars.merge (steps.flatMap Step.writes)
  directories := b.directories ++ steps.flatMap Step.mappings
  input := (steps.filterMap Step.input?).getLast?.getD b.input
  output := (steps.filterMap Step.output?).getLast?.getD b.output
  errors := (steps.filterMap Step.errors?).getLast?.getD b.errors

lemma after_nil : b.after [] = b := by
  simp [after, Dictionary.merge]

lemma after_append (steps steps' : List Step) :
    b.after (steps ++ steps') = (b.after steps).after steps' := by
  simp only [after, List.flatMap_append, List.filterMap_append, List.append_assoc,
    List.getLast?_append, Option.getD_or, Dictionary.merge_append]

lemma addArguments_eq (as : List String) :
    b.addArguments as = { b with arguments := b.arguments ++ as } := by
  induction as generalizing b with
  | nil => simp [addArguments]
  | cons a as ih =>
    have hcons : b.addArguments (a :: as) = (b.addArgument a).addArguments as := rfl
    rw [hcons, ih]
    simp [addArgument]

lemma setVariables_eq (kvs : List (String × String)) :
    b.setVariables kvs = { b with vars := b.vars.merge kvs } := by
  induction kvs generalizing b with
  | nil => rfl
  | cons kv kvs ih =>
    have hcons : b.setVariables (kv :: kvs) = (b.setVariable kv.1 kv.2).setVariables kvs := rfl
    rw [hcons, ih]
    rfl

lemma mapDirectories_eq (ds : List (String × String)) :
    b.mapDirectories ds = { b with directories := b.directories ++ ds } := by
  induction ds generalizing b with
  | nil => simp [mapDirectories]
  | cons d ds ih =>
    have hcons : b.mapDirectories (d :: ds) = (b.mapDirectory d.1 d.2).mapDirectories ds := rfl
    rw [hcons, ih]
    simp [mapDirectory]

lemma preopenDirectories_eq (paths : List String) :
    b.preopenDirectories paths = b.mapDirectories (paths.map fun path => (path, path)) := by
  rw [preopenDirectories, mapDirectories, List.foldl_map]
  rfl

/-- **Each call adds** what it says. -/
theorem run_eq_after (c : Step) : c.run b = b.after [c] := by
  cases c with
  | arguments as => simp [Step.run, addArguments_eq, after, Dictionary.merge]
  | setVariables kvs => simp [Step.run, setVariables_eq, after]
  | mapDirectories ds => simp [Step.run, mapDirectories_eq, after, Dictionary.merge]
  | preopens paths =>
    simp [Step.run, preopenDirectories_eq, mapDirectories_eq, after, Dictionary.merge]
  | _ =>
    simp [Step.run, after, Dictionary.merge, addArgument, setVariable, mapDirectory,
      preopenDirectory, setInput, setOutput, setErrors]

/-- **Any number of them** add up. -/
theorem builder_foldl (s : Session) (steps : List Step) :
    (steps.foldl Session.step s).builder = s.builder.after steps := by
  induction steps generalizing s with
  | nil => exact (after_nil _).symm
  | cons c steps ih =>
    have hstep : (s.step c).builder = s.builder.after [c] := run_eq_after _ c
    rw [List.foldl_cons, ih, hstep, ← after_append, List.singleton_append]

end Collecting

/-! ### Sessions -/

/-- The builder has what the calls say. A key of a variable stands where it came first, and has the
value that it was given last. -/
structure Collected (programName : String) (steps : List Step) (b : StateBuilder) : Prop where
  programName : b.programName = programName
  arguments : b.arguments = steps.flatMap Step.texts
  keys : b.vars.keys = ((steps.flatMap Step.writes).map Prod.fst).eraseDups
  nodup : b.vars.keys.Nodup
  values : ∀ k, b.vars.find? k = Dictionary.latest (steps.flatMap Step.writes) k
  directories : b.directories = steps.flatMap Step.mappings
  input : b.input = (steps.filterMap Step.input?).getLast?.getD .null
  output : b.output = (steps.filterMap Step.output?).getLast?.getD .inherit
  errors : b.errors = (steps.filterMap Step.errors?).getLast?.getD .inherit

lemma nodup_create (programName : String) : (create programName).vars.keys.Nodup := List.nodup_nil

lemma collected_after (programName : String) (steps : List Step) :
    Collected programName steps ((create programName).after steps) where
  programName := rfl
  arguments := rfl
  keys := Dictionary.keys_merge (nodup_create programName) _
  nodup := Dictionary.nodup_keys_merge (nodup_create programName) _
  values k := (Dictionary.find?_merge _ _ k).trans (Option.or_none ..)
  directories := rfl
  input := rfl
  output := rfl
  errors := rfl

namespace Session

variable {s s' : Session}

/-- What came of a builder stays as it is. -/
lemma exists_outcomes_foldl (s : Session) (steps : List Step) :
    ∃ rest, (steps.foldl step s).outcomes = s.outcomes ++ rest := by
  induction steps generalizing s with
  | nil => exact ⟨[], (List.append_nil _).symm⟩
  | cons c steps ih =>
    obtain ⟨rest, h⟩ := ih (s.step c)
    exact ⟨(c.outcome? s.builder).toList ++ rest, by
      rw [List.foldl_cons, h, step, List.append_assoc]⟩

lemma outcome_of_finalize (s : Session) (fs : FileSystem) (steps : List Step) :
    ((.finalize fs :: steps).foldl step s).outcomes[s.outcomes.length]? =
      some (s.builder.finalize fs) := by
  obtain ⟨rest, h⟩ := exists_outcomes_foldl (s.step (.finalize fs)) steps
  have hstep : (s.step (.finalize fs)).outcomes = s.outcomes ++ [s.builder.finalize fs] := rfl
  rw [List.foldl_cons, h, hstep]
  simp

/-- Finalizing counts for nothing that is collected. -/
lemma builder_foldl_filter (h : s.builder = s'.builder) (steps : List Step) :
    ((steps.filter fun c => !c.isFinalize).foldl step s').builder =
      (steps.foldl step s).builder := by
  induction steps generalizing s s' with
  | nil => exact h.symm
  | cons c steps ih =>
    have hstep : (s.step c).builder = (s'.step c).builder := congrArg c.run h
    cases c with
    | finalize fs =>
      -- only the outcomes change
      rw [List.filter_cons_of_neg (by simp), List.foldl_cons]
      exact ih h
    | _ =>
      rw [List.filter_cons_of_pos (by simp), List.foldl_cons, List.foldl_cons]
      exact ih hstep

end Session

/-- What is known of a session: the builder has what the calls say and answers by it. The times
when it was finalized have left no trace in it, and what came of them is what came of the builder
as it was then. -/
structure Session.Sound (programName : String) (steps : List Step) (s : Session) : Prop where
  collected : Collected programName steps s.builder
  answers : ∀ fs, s.builder.Answers fs (s.builder.finalize fs)
  untouched : (run programName (steps.filter fun c => !c.isFinalize)).builder = s.builder
  outcomes : ∀ before fs after, steps = before ++ .finalize fs :: after →
    s.outcomes[(run programName before).outcomes.length]? =
      some ((run programName before).builder.finalize fs)

/-- **A builder collects what it is told and checks it when it is finalized.** -/
theorem builder_collects_and_checks (programName : String) (steps : List Step) :
    (Session.run programName steps).Sound programName steps where
  collected := by
    rw [Session.run, builder_foldl]
    exact collected_after programName steps
  answers fs := answers_finalize _ fs
  untouched := Session.builder_foldl_filter rfl steps
  outcomes before fs after h := by
    rw [h, Session.run, List.foldl_append]
    exact Session.outcome_of_finalize _ fs after

-- A variable that is set again keeps its place.
example : ((create "p").setVariables [("A", "1"), ("B", "2"), ("A", "3")]).vars =
    [("A", "3"), ("B", "2")] := by
  decide

end Embedder.Wasi.StateBuilder
