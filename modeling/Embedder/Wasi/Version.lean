import Embedder.Types.Text

/-!
The snapshots of the system interface, and finding out which of them a module was built for.

* `Wasi.Version`: two snapshots, the older one first, and a name for the newest;
* `Wasi.detect`: the newest snapshot among a module's imports, or in strict mode the only one.
-/

namespace Embedder.Wasi

/-- A snapshot, or the name `latest` for the newest one. -/
inductive Version where
  | snapshot0
  | snapshot1
  | latest
  deriving DecidableEq, Inhabited

inductive VersionError where
  | notWasi
  | ambiguous (namespaces : List String)
  | unsupported (what : String)
  deriving DecidableEq

def VersionError.message : VersionError → String
  | .notWasi => "module does not import any WASI namespace"
  | .ambiguous namespaces => "module imports from several WASI snapshots: " ++
      Inspect.list (namespaces.map Inspect.text)
  | .unsupported what => "unsupported WASI version: " ++ what

namespace Version

def text : Version → String
  | .snapshot0 => "snapshot0"
  | .snapshot1 => "snapshot1"
  | .latest => "latest"

/-- The place in the order from the oldest to the newest. -/
def rank : Version → Nat
  | .snapshot0 => 0
  | .snapshot1 => 1
  | .latest => 2

def compare (a b : Version) : Ordering := Ord.compare a.rank b.rank

/-- The snapshot that a version stands for. -/
def resolve : Version → Version
  | .latest => .snapshot1
  | v => v

/-- The namespace under which guests import the functions of the snapshot. -/
def importNamespace (v : Version) : String :=
  match v.resolve with
  | .snapshot0 => "wasi_unstable"
  | _ => "wasi_snapshot_preview1"

def code : Version → Nat
  | .latest => 1
  | .snapshot0 => 2
  | .snapshot1 => 3

def ofCode (n : Nat) : Except VersionError Version :=
  match n with
  | 1 => .ok .latest
  | 2 => .ok .snapshot0
  | 3 => .ok .snapshot1
  | n => .error (.unsupported ("version code " ++ toString n))

/-- A version by its own name or by its namespace. -/
def ofText (s : String) : Except VersionError Version :=
  if s = "latest" then .ok .latest
  else if s = "snapshot0" ∨ s = "wasi_unstable" then .ok .snapshot0
  else if s = "snapshot1" ∨ s = "wasi_snapshot_preview1" then .ok .snapshot1
  else .error (.unsupported s)

/-- The snapshot whose namespace begins the given one, the newer snapshot asked first. -/
def ofNamespace? (ns : String) : Option Version :=
  [Version.snapshot1, .snapshot0].find? fun v => v.importNamespace.toList.isPrefixOf ns.toList

end Version

/-- The snapshots among the imports, each with the namespace of its first import. -/
def snapshotsOf : List ImportType → List (Version × String)
  | [] => []
  | i :: rest =>
    match Version.ofNamespace? i.module with
    | none => snapshotsOf rest
    | some v => (v, i.module) :: (snapshotsOf rest).filter fun (w, _) => w != v

def newest : Version → List Version → Version
  | v, [] => v
  | v, w :: rest => newest (if v.rank < w.rank then w else v) rest

/-- The newest snapshot among the imports. In strict mode more than one is refused, and the answer
names the namespace of the first import of each. -/
def detect (imports : List ImportType) (strict : Bool) : Except VersionError Version :=
  match snapshotsOf imports with
  | [] => .error .notWasi
  | (v, ns) :: rest =>
    if strict && !rest.isEmpty then
      .error (.ambiguous ((ns :: rest.map Prod.snd).mergeSort fun a b => decide (a ≤ b)))
    else .ok (newest v (rest.map Prod.fst))

end Embedder.Wasi
