import Embedder.Proofs.Modules.Compiling
import Embedder.Proofs.World.Phases
import Mathlib.Data.List.Nodup

/-!
# Programs of one snapshot

A program names the snapshot that it was built for by the namespace of its imports. Finding out the
snapshot goes by the beginning of the namespace, an import object is generated for what a version
stands for, and imports are served under the exact namespace. For a program that takes all it
imports from one snapshot the three agree.

* `Wasi.Version.linker`: the functions of a snapshot as imports ask for them;
* `Wasi.detect_eq_ok`: imports of a single snapshot are found to be of that snapshot;
* `Wasi.Environment.serves_generate_iff`: a generated object serves the functions of its snapshot,
  and no other imports;
* `World.program_of_one_snapshot`: detection, generation and resolution for such a program.
-/

namespace Embedder

open Elementwise

namespace Wasi

/-! ### The functions of a snapshot -/

/-- What the system interface of a snapshot offers, as imports ask for it. Latest is the newer
snapshot, and only the newer one takes connections. -/
def Version.linker : Version → List ImportType
  | .snapshot0 => (Function.all.filter (· ≠ .sockAccept)).map fun f =>
    ⟨"wasi_unstable", f.name, .function f.type⟩
  | _ => Function.all.map fun f => ⟨"wasi_snapshot_preview1", f.name, .function f.type⟩

namespace Function

lemma mem_all (f : Function) : f ∈ all := by cases f <;> decide

lemma names_nodup : (all.map name).Nodup := by decide +kernel

lemma eq_of_name_eq {f g : Function} (h : f.name = g.name) : f = g :=
  List.inj_on_of_nodup_map names_nodup f.mem_all g.mem_all h

lemma isIn_iff (f : Function) (v : Version) :
    f.isIn v = true ↔ v.resolve = .snapshot0 → f ≠ .sockAccept := by
  unfold isIn
  cases v <;> cases f <;> simp [Version.resolve]

/-- A snapshot has at most one function of a name. -/
lemma find?_eq_some_iff {v : Version} {s : String} {f : Function} :
    find? v s = some f ↔ f.name = s ∧ f.isIn v = true := by
  constructor
  · intro h
    simpa using List.find?_some h
  · rintro ⟨rfl, hf⟩
    have hsome : (find? v f.name).isSome = true :=
      List.find?_isSome.2 ⟨f, f.mem_all, by simp [hf]⟩
    obtain ⟨g, hg⟩ := Option.isSome_iff_exists.1 hsome
    have hfound : g.name = f.name ∧ g.isIn v = true := by simpa using List.find?_some hg
    obtain rfl : g = f := eq_of_name_eq hfound.1
    exact hg

lemma find?_resolve (v : Version) (s : String) : find? v.resolve s = find? v s := by
  cases v <;> rfl

end Function

lemma Version.importNamespace_resolve (v : Version) :
    v.resolve.importNamespace = v.importNamespace := by
  cases v <;> rfl

/-- An import that a snapshot offers asks for one of its functions by name, type and namespace. -/
lemma Version.mem_linker_iff {v : Version} {i : ImportType} :
    i ∈ v.linker ↔ i.module = v.importNamespace ∧
      ∃ f, Function.find? v i.name = some f ∧ i.type = .function f.type := by
  obtain ⟨ns, name, type⟩ := i
  simp only [Function.find?_eq_some_iff, Function.isIn_iff]
  cases v with
  | snapshot0 =>
    simp [linker, importNamespace, resolve, Function.mem_all]
    grind
  | snapshot1 =>
    simp [linker, importNamespace, resolve, Function.mem_all]
    grind
  | latest =>
    simp [linker, importNamespace, resolve, Function.mem_all]
    grind

/-! ### Finding out the snapshot -/

/-- A namespace of a snapshot begins with that of no other one. -/
lemma Version.ofNamespace?_importNamespace (v : Version) :
    ofNamespace? v.importNamespace = some v.resolve := by
  cases v <;> decide

lemma mem_snapshotsOf {is : List ImportType} {e : Version × String} (h : e ∈ snapshotsOf is) :
    ∃ i ∈ is, Version.ofNamespace? i.module = some e.1 := by
  induction is with
  | nil => cases h
  | cons i is ih =>
    unfold snapshotsOf at h
    split at h
    · obtain ⟨j, hj, hv⟩ := ih h
      exact ⟨j, by simp [hj], hv⟩
    · rename_i v hv
      rcases List.mem_cons.1 h with rfl | h
      · exact ⟨i, by simp, hv⟩
      · obtain ⟨j, hj, hv⟩ := ih (List.mem_of_mem_filter h)
        exact ⟨j, by simp [hj], hv⟩

/-- **Imports of a single snapshot are found to be of that snapshot**, in strict mode too. -/
theorem detect_eq_ok {is : List ImportType} {v : Version} (hne : is ≠ [])
    (h : ∀ i ∈ is, Version.ofNamespace? i.module = some v) (strict : Bool) :
    detect is strict = .ok v := by
  obtain ⟨i, rest, rfl⟩ := List.exists_cons_of_ne_nil hne
  have hothers : ∀ e ∈ snapshotsOf rest, e.1 = v := by
    rintro ⟨w, ns⟩ he
    obtain ⟨j, hj, hw⟩ := mem_snapshotsOf he
    exact Option.some.inj (hw.symm.trans (h j (by simp [hj])))
  have hfound : snapshotsOf (i :: rest) = [(v, i.module)] := by
    simp only [snapshotsOf, h i (by simp)]
    rw [List.filter_eq_nil_iff.2 fun e he => by simp [hothers e he]]
  simp [detect, hfound, newest]

/-! ### Generating and resolving -/

namespace Environment

variable {σ : Type} (env : Environment) {m : Module} {e : Engine} {v : Version}

/-- **A generated object serves the functions of its snapshot, and no other imports.** -/
theorem serves_generate_iff (strict : Bool) {i : ImportType} {p : Provided σ} :
    ((env.generate e v).setStrict strict).Serves i p ↔
      i ∈ v.linker ∧ ∃ f, Function.find? v i.name = some f ∧ p = .generated v.resolve f := by
  rw [Version.mem_linker_iff]
  constructor
  · intro h
    cases h with
    | item hi => cases hi
    | generated _ hb hn hf ht =>
      cases hb
      rw [Function.find?_resolve] at hf
      have hns : v.resolve.importNamespace = i.module := hn
      rw [Version.importNamespace_resolve] at hns
      exact ⟨⟨hns.symm, _, hf, ht⟩, _, hf, rfl⟩
  · rintro ⟨⟨hns, f, hf, ht⟩, f', hf', rfl⟩
    obtain rfl : f' = f := Option.some.inj (hf'.symm.trans hf)
    rw [← Version.importNamespace_resolve] at hns
    rw [← Function.find?_resolve] at hf
    exact .generated (b := ⟨env, v.resolve, e.number⟩) rfl rfl hns.symm hf ht

/-- No item of the host is left that a strict object would miss an import of. -/
lemma allImported_generate (strict : Bool) (is : List ImportType) :
    ((env.generate e v).setStrict strict : ImportObject σ).AllImported is :=
  fun _ _ h => nomatch h

lemma agreesWith_generate_iff (strict : Bool) (e' : Engine) :
    ((env.generate e v).setStrict strict : ImportObject σ).AgreesWith e' ↔ e.number = e'.number := by
  simp [ImportObject.AgreesWith, generate, ImportObject.withWasi, ImportObject.setStrict]

/-- A program that takes all it imports from the snapshot is resolved. -/
theorem resolve_generate_eq_ok_iff (strict : Bool) {ps : List (Provided σ)} :
    ((env.generate e v).setStrict strict).resolve m = .ok ps ↔
      e.number = m.engine.number ∧ List.Forall₂ (fun i p => i ∈ v.linker ∧
        ∃ f, Function.find? v i.name = some f ∧ p = .generated v.resolve f) m.imports ps := by
  rw [ImportObject.resolve_eq_ok_iff, agreesWith_generate_iff]
  simp only [allImported_generate, implies_true, and_true]
  refine and_congr_right fun _ => ?_
  exact ⟨fun h => h.imp fun i p => (env.serves_generate_iff strict).1,
    fun h => h.imp fun i p => (env.serves_generate_iff strict).2⟩

/-- An object for another engine resolves nothing. -/
theorem resolve_generate_of_engine_ne (strict : Bool) (h : e.number ≠ m.engine.number) :
    ((env.generate e v).setStrict strict : ImportObject σ).resolve m =
      .error (.link (.engineMismatch v.importNamespace)) := by
  rw [ImportObject.resolve_eq_error_iff, ← Version.importNamespace_resolve]
  exact .inl (if_neg h)

/-- The first import of another namespace is the one that is missing. -/
theorem resolve_generate_of_namespace_ne (strict : Bool) (h : e.number = m.engine.number)
    {i : ImportType} {rest : List ImportType} (hi : m.imports = i :: rest)
    (hns : i.module ≠ v.importNamespace) :
    ((env.generate e v).setStrict strict : ImportObject σ).resolve m =
      .error (.link (.missingModule i.module i.name)) := by
  rw [ImportObject.resolve_eq_error_iff]
  refine .inr (.inl ⟨(env.agreesWith_generate_iff strict _).2 h, [], i, rest, hi, by simp, ?_⟩)
  have hother : (v.resolve.importNamespace == i.module) = false := by
    rw [Version.importNamespace_resolve, beq_eq_false_iff_ne]
    exact hns.symm
  simp only [ImportObject.resolveImport, ImportObject.get?, generate, ImportObject.withWasi,
    ImportObject.setStrict, ImportObject.empty, Dictionary.find?, Option.filter_some,
    Wasi.Binding.importNamespace, hother]
  simp

end Environment

end Wasi

namespace World

variable {σ : Type}

/-- The directories that are mapped in an environment can be opened. -/
def Opens (w : World σ) (env : Wasi.Environment) : Prop :=
  ∃ ds, Wasi.Context.openDirectories w.system.files env.directories = .ok ds

variable {w : World σ} {env : Wasi.Environment} {e : Engine} {v : Wasi.Version} {strict : Bool}

lemma Opens.contextFor_eq (h : w.Opens env) :
    ∃ c, w.contextFor ((env.generate e v).setStrict strict) = .ok c := by
  obtain ⟨ds, hds⟩ := h
  have hcontext : w.contextFor ((env.generate e v).setStrict strict) =
      Wasi.Context.ofEnvironment w.system.files env := rfl
  rw [hcontext, Wasi.Context.ofEnvironment, hds]
  exact ⟨_, rfl⟩

/-- A link error of a generated object is what an instantiation ends with. -/
lemma Opens.instantiate_eq_link_iff (h : w.Opens env) {m : Module} {r : LinkError} :
    (w.instantiate m ((env.generate e v).setStrict strict)).1 = .refused (.link r) ↔
      ((env.generate e v).setStrict strict : ImportObject σ).resolve m = .error (.link r) := by
  rw [World.instantiate_eq_link_iff]
  exact and_iff_right h.contextFor_eq

/-- **Detection, generation and resolution of the system interface fit together.** Let a program take
all it imports, one thing at least, from one snapshot. The snapshot is found, in strict mode too. The
object generated for it serves all imports, in strict mode too, and nothing that comes later in an
instantiation is a link error. The object for latest is the one for the newer snapshot. The object
for the other snapshot has nothing for the first import, and one for another engine is refused by
every module. -/
theorem program_of_one_snapshot {m : Module} {v : Wasi.Version} (hv : v ≠ .latest)
    (hne : m.imports ≠ []) (hm : m.imports ⊆ v.linker) :
    (∀ strict, Wasi.detect m.imports strict = .ok v) ∧
    (∀ (env : Wasi.Environment) (e : Engine) (strict : Bool), e.number = m.engine.number →
      let o : ImportObject σ := (env.generate e v).setStrict strict
      (∃ ps, o.resolve m = .ok ps ∧ List.Forall₂ (fun i p => ∃ f : Wasi.Function,
        f.name = i.name ∧ i.type = .function f.type ∧ p = .generated v f) m.imports ps) ∧
      ∀ w : World σ, w.Opens env →
        (∃ c, w.contextFor o = .ok c) ∧ ∀ r, (w.instantiate m o).1 ≠ .refused (.link r)) ∧
    (∀ (env : Wasi.Environment) (e : Engine),
      (env.generate e .latest : ImportObject σ) = env.generate e .snapshot1) ∧
    (∀ (env : Wasi.Environment) (e : Engine) (u : Wasi.Version) (strict : Bool) (i : ImportType)
      (rest : List ImportType), e.number = m.engine.number → u.resolve ≠ v → m.imports = i :: rest →
      let o : ImportObject σ := (env.generate e u).setStrict strict
      o.resolve m = .error (.link (.missingModule i.module i.name)) ∧
      ∀ w : World σ, w.Opens env →
        (w.instantiate m o).1 = .refused (.link (.missingModule i.module i.name))) ∧
    (∀ (env : Wasi.Environment) (e : Engine) (u : Wasi.Version) (strict : Bool) (m' : Module),
      e.number ≠ m'.engine.number →
      let o : ImportObject σ := (env.generate e u).setStrict strict
      o.resolve m' = .error (.link (.engineMismatch u.importNamespace)) ∧
      ∀ w : World σ, w.Opens env →
        (w.instantiate m' o).1 = .refused (.link (.engineMismatch u.importNamespace))) := by
  have hresolve : v.resolve = v := by cases v <;> simp_all [Wasi.Version.resolve]
  have hlinker {i : ImportType} (hi : i ∈ m.imports) := Wasi.Version.mem_linker_iff.1 (hm hi)
  refine ⟨?_, ?_, fun env e => rfl, ?_, ?_⟩
  · refine Wasi.detect_eq_ok hne fun i hi => ?_
    rw [(hlinker hi).1, Wasi.Version.ofNamespace?_importNamespace, hresolve]
  · intro env e strict he o
    have hserved : ∀ i ∈ m.imports, ∃ p : Provided σ, i ∈ v.linker ∧
        ∃ f, Wasi.Function.find? v i.name = some f ∧ p = .generated v.resolve f := by
      intro i hi
      obtain ⟨-, f, hf, -⟩ := hlinker hi
      exact ⟨_, hm hi, f, hf, rfl⟩
    obtain ⟨ps, hps⟩ := exists_forall₂_iff.2 hserved
    have hok : o.resolve m = .ok ps := (env.resolve_generate_eq_ok_iff strict).2 ⟨he, hps⟩
    refine ⟨⟨ps, hok, hps.imp fun i p => ?_⟩, fun w hw => ⟨hw.contextFor_eq, fun r hr => ?_⟩⟩
    · rintro ⟨hi, f, hf, rfl⟩
      obtain ⟨-, f', hf', ht⟩ := Wasi.Version.mem_linker_iff.1 hi
      obtain rfl : f' = f := Option.some.inj (hf'.symm.trans hf)
      exact ⟨f', (Wasi.Function.find?_eq_some_iff.1 hf').1, ht, by rw [hresolve]⟩
    · rw [hw.instantiate_eq_link_iff, hok] at hr
      cases hr
  · intro env e u strict i rest he hu hi o
    have hmem : i ∈ m.imports := by simp [hi]
    have hns : i.module ≠ u.importNamespace := by
      intro heq
      have hsame := Wasi.Version.ofNamespace?_importNamespace u
      rw [← heq, (hlinker hmem).1, Wasi.Version.ofNamespace?_importNamespace, hresolve] at hsame
      exact hu (Option.some.inj hsame).symm
    have herror := env.resolve_generate_of_namespace_ne (σ := σ) strict he hi hns
    exact ⟨herror, fun w hw => hw.instantiate_eq_link_iff.2 herror⟩
  · intro env e u strict m' he o
    have herror := env.resolve_generate_of_engine_ne (σ := σ) (v := u) strict he
    exact ⟨herror, fun w hw => hw.instantiate_eq_link_iff.2 herror⟩

end World

/-- A program that imports a function twice, and one that only the newer snapshot has. -/
def Module.listenerDefinition : Definition :=
  { Definition.empty with
    types := [⟨[.i32, .i32, .i32, .i32], [.i32]⟩, ⟨[.i32, .i32, .i32], [.i32]⟩]
    imports := [⟨"wasi_snapshot_preview1", "fd_write", .function 0⟩,
      ⟨"wasi_snapshot_preview1", "sock_accept", .function 1⟩,
      ⟨"wasi_snapshot_preview1", "fd_write", .function 0⟩] }

def Module.listener : Module where
  engine := .standard 0
  binary := Binary.encode listenerDefinition .empty
  definition := listenerDefinition
  code := []
  imports := [⟨"wasi_snapshot_preview1", "fd_write", .function Wasi.Function.fdWrite.type⟩,
    ⟨"wasi_snapshot_preview1", "sock_accept", .function Wasi.Function.sockAccept.type⟩,
    ⟨"wasi_snapshot_preview1", "fd_write", .function Wasi.Function.fdWrite.type⟩]
  exports := []
  customs := []
  name := none
  bodies_eq := by decide
  imports_eq := rfl
  exports_eq := rfl

lemma Module.compile_listener : compile (.standard 0) listener.binary = .ok listener :=
  compile_self (m := listener) (by decide +kernel) (by decide +kernel) (by decide +kernel)
    rfl rfl

/-- A listener is a program of the newer snapshot, and an object for the older one lacks its first
import. -/
theorem World.listener_needs_newer_snapshot :
    Module.compile (.standard 0) Module.listener.binary = .ok .listener ∧
      Wasi.Version.snapshot1 ≠ .latest ∧ Module.listener.imports ≠ [] ∧
      Module.listener.imports ⊆ Wasi.Version.snapshot1.linker ∧
      Wasi.detect Module.listener.imports true = .ok .snapshot1 ∧
      ∀ env : Wasi.Environment, (World.create () (.ofFiles .empty)).Opens env →
        (World.instantiate (.create () (.ofFiles .empty)) .listener
          (env.generate (.standard 0) .snapshot0)).1 =
            .refused (.link (.missingModule "wasi_snapshot_preview1" "fd_write")) := by
  have hm : Module.listener.imports ⊆ Wasi.Version.snapshot1.linker := by
    intro i hi
    simp only [Module.listener, List.mem_cons, List.not_mem_nil, or_false] at hi
    rw [Wasi.Version.mem_linker_iff]
    obtain rfl | rfl | rfl := hi
    · exact ⟨rfl, .fdWrite, by decide, rfl⟩
    · exact ⟨rfl, .sockAccept, by decide, rfl⟩
    · exact ⟨rfl, .fdWrite, by decide, rfl⟩
  have hne : Module.listener.imports ≠ [] := by simp [Module.listener]
  obtain ⟨hdetect, -, -, hother, -⟩ := program_of_one_snapshot (σ := Unit) (by decide) hne hm
  refine ⟨Module.compile_listener, by decide, hne, hm, hdetect true, fun env hopen => ?_⟩
  exact (hother env (.standard 0) .snapshot0 false _ _ rfl (by decide) rfl).2 _ hopen

end Embedder
