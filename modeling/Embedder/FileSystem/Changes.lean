import Embedder.FileSystem

/-!
Changes to a file system.

* `FileSystem.push`, `FileSystem.setBytes`: a new node, and the contents of a file;
* `FileSystem.attach`, `FileSystem.detach`: a node gets a name, and it loses one;
* `FileSystem.create`, `FileSystem.move`: a new node gets a name, and a node gets another one;
* `FileSystem.add`, `FileSystem.removeTree`: by path of the working directory;
* `FileSystem.listing`: everything below the working directory;
* `FileSystem.newItems`, `FileSystem.lostPaths`: what tells two file systems from each other.
-/

namespace Embedder.FileSystem

/-! ### Single nodes -/

/-- Adds a node that has no name yet. -/
def push (fs : FileSystem) (n : Node) : FileSystem := { fs with nodes := fs.nodes.push n }

/-- Replaces the contents of a file. -/
def setBytes (fs : FileSystem) (i : Nat) (bytes : List UInt8) : FileSystem :=
  { fs with
    nodes := fs.nodes.modify i fun n =>
      match n with
      | .file _ => .file bytes
      | n => n }

/-- Changes the names in a directory. -/
def setEntries (fs : FileSystem) (dir : Nat)
    (change : List (String × Nat) → List (String × Nat)) : FileSystem :=
  { fs with
    nodes := fs.nodes.modify dir fun n =>
      match n with
      | .directory p es => .directory p (change es)
      | n => n }

/-- Puts a directory below another one, or below none. -/
def setParent (fs : FileSystem) (i : Nat) (parent : Option Nat) : FileSystem :=
  { fs with
    nodes := fs.nodes.modify i fun n =>
      match n with
      | .directory _ es => .directory parent es
      | n => n }

/-! ### Single names -/

/-- Gives a node a name in a directory where nothing has it. -/
def attach (fs : FileSystem) (dir : Nat) (name : String) (i : Nat) : FileSystem :=
  (fs.setEntries dir fun es => es ++ [(name, i)]).setParent i (some dir)

/-- Takes a name away from the node that has it. -/
def detach (fs : FileSystem) (dir : Nat) (name : String) (i : Nat) : FileSystem :=
  (fs.setEntries dir fun es => es.filter fun e => e.1 != name).setParent i none

/-- Adds a node under a name, and tells its number. -/
def create (fs : FileSystem) (dir : Nat) (name : String) (n : Node) : FileSystem × Nat :=
  ((fs.push n).attach dir name fs.nodes.size, fs.nodes.size)

/-- Gives a node another name for the one that it has. -/
def move (fs : FileSystem) (dir : Nat) (name : String) (i newDir : Nat) (newName : String) :
    FileSystem :=
  (fs.detach dir name i).attach newDir newName i

/-! ### Whole paths -/

/-- The directory below `dir` under each of the names in turn, made where it is missing. -/
def enter (fs : FileSystem) (dir : Nat) : List Part → Except FileError (FileSystem × Nat)
  | [] => .ok (fs, dir)
  | p :: rest =>
    match fs.resolve none true maxLinks dir [p] with
    | .error e => .error e
    | .ok (.missing dir name) =>
      let (fs, i) := fs.create dir name (.directory none [])
      enter fs i rest
    | .ok (.entry _ _ i) | .ok (.directory i) =>
      if fs.isDirectory i then enter fs i rest else .error .notDirectory

/-- What can be put at a path. -/
inductive Item where
  | directory
  | file (bytes : List UInt8)
  | link (target : String)
  deriving DecidableEq

/-- Puts an item at a path of the working directory and makes the directories above it. -/
def add (fs : FileSystem) (path : String) (item : Item) : Except FileError FileSystem := do
  let ps := parts path
  match item with
  | .directory =>
    let (fs, _) ← fs.enter (fs.startOf path) ps
    return fs
  | .file bytes =>
    let (fs, dir) ← fs.enter (fs.startOf path) ps.dropLast
    match ← fs.resolve none true maxLinks dir (ps.drop (ps.length - 1)) with
    | .missing dir name => return (fs.create dir name (.file bytes)).1
    | .entry _ _ i | .directory i =>
      if fs.isDirectory i then throw .isDirectory else return fs.setBytes i bytes
  | .link target =>
    let (fs, dir) ← fs.enter (fs.startOf path) ps.dropLast
    match ← fs.resolve none false maxLinks dir (ps.drop (ps.length - 1)) with
    | .missing dir name => return (fs.create dir name (.link target)).1
    | _ => throw .present

/-- A directory and the ones below it. -/
def directoriesFrom (fs : FileSystem) : (rounds : Nat) → (dir : Nat) → List Nat
  | 0, dir => [dir]
  | rounds + 1, dir =>
    dir :: (fs.entries dir).flatMap fun (_, i) =>
      if fs.isDirectory i then directoriesFrom fs rounds i else []

/-- Removes a directory and everything in it. -/
def removeTree (fs : FileSystem) (path : String) : Except FileError FileSystem := do
  match ← fs.resolve none false maxLinks (fs.startOf path) (parts path) with
  | .entry dir name i =>
    if fs.isDirectory i then
      let removed := fs.directoriesFrom fs.nodes.size i
      let fs := fs.detach dir name i
      return { fs with
        nodes := removed.foldl (fun nodes d => nodes.setIfInBounds d (.directory none [])) fs.nodes }
    else throw .notDirectory
  | .missing _ _ => throw .noEntry
  | .directory _ => throw .invalidArgument

/-! ### Listings -/

/-- Everything below a directory with its path behind `base`. -/
def listingFrom (fs : FileSystem) : (rounds : Nat) → (base : String) → (dir : Nat) →
    List (String × Item)
  | 0, _, _ => []
  | rounds + 1, base, dir =>
    (fs.entries dir).flatMap fun (name, i) =>
      match fs.nodes[i]? with
      | some (.directory _ _) =>
        (base ++ name, .directory) :: listingFrom fs rounds (base ++ name ++ "/") i
      | some (.file bytes) => [(base ++ name, .file bytes)]
      | some (.link target) => [(base ++ name, .link target)]
      | none => []

/-- Everything below the working directory in the order of the paths. -/
def listing (fs : FileSystem) : List (String × Item) :=
  (fs.listingFrom fs.nodes.size "" fs.working).mergeSort fun a b => decide (a.1 ≤ b.1)

/-- All files and links by their absolute paths. -/
def inventory (fs : FileSystem) : List (String × Item) :=
  (fs.listingFrom fs.nodes.size "/" root).filter fun e => e.2 != .directory

/-- The items that are new or not what they were. -/
def newItems (before after : FileSystem) : List (String × Item) :=
  after.inventory.filter fun e => !before.inventory.contains e

/-- The paths at which there is nothing any more. -/
def lostPaths (before after : FileSystem) : List String :=
  (before.inventory.map Prod.fst).filter fun path => !(after.inventory.map Prod.fst).contains path

/-- A file system whose working directory is the empty directory at the given path. -/
def atWorking (path : String) : FileSystem :=
  match empty.enter root (parts path) with
  | .ok (fs, i) => { fs with working := i }
  | .error _ => empty

end Embedder.FileSystem
