import Embedder.Text.Quoted

/-!
A tree of directories, files and symbolic links, and the meaning of paths in it.

* `FileSystem`: nodes by number; a node that is open outlives its last name;
* `FileSystem.resolve`: where a path leads, from any directory and, if asked for, never out of it;
* `FileSystem.canonicalize`: the directory or file that a path of the working directory means;
* `FileSystem.pathOf`: the absolute path of a directory;
* `FileSystem.isAbove`: the way up from a directory.

A node is what a program can tell of it by its contents. The numbers that a host counts for it besides,
such as when it was changed and how many names it has, are not kept.
-/

namespace Embedder

/-- Why a path cannot be used as intended. `outside` is for paths that would leave the directory
they are confined to. -/
inductive FileError where
  | noEntry
  | notDirectory
  | isDirectory
  | present
  | tooManyLinks
  | outside
  | invalidArgument
  | nulInName
  | notOpened
  deriving DecidableEq

/-- The text of the host's errors, each with its number. -/
def FileError.message : FileError → String
  | .noEntry => "No such file or directory (os error 2)"
  | .notOpened => "Bad file descriptor (os error 9)"
  | .present => "File exists (os error 17)"
  | .notDirectory => "Not a directory (os error 20)"
  | .isDirectory => "Is a directory (os error 21)"
  | .invalidArgument => "Invalid argument (os error 22)"
  | .tooManyLinks => "Too many levels of symbolic links (os error 40)"
  | .outside => "a path led outside of the filesystem"
  | .nulInName => "file name contained an unexpected NUL byte"

/-- A directory knows the one above it; the root is above itself and a removed directory has none
above it. -/
inductive Node where
  | directory (parent : Option Nat) (entries : List (String × Nat))
  | file (bytes : List UInt8)
  | link (target : String)
  deriving DecidableEq, Inhabited

namespace Node

/-- The names in a directory. -/
def entries : Node → List (String × Nat)
  | .directory _ es => es
  | _ => []

/-- The directory above a directory. -/
def parent? : Node → Option Nat
  | .directory p _ => p
  | _ => none

def isDirectory : Node → Bool
  | .directory _ _ => true
  | _ => false

def bytes? : Node → Option (List UInt8)
  | .file bytes => some bytes
  | _ => none

end Node

/-- Node 0 is the root; relative paths start at `working`. -/
structure FileSystem where
  nodes : Array Node
  working : Nat
  deriving DecidableEq, Inhabited

namespace FileSystem

def root : Nat := 0

/-- Nothing but the root, which is the working directory too. -/
def empty : FileSystem := ⟨#[.directory (some root) []], root⟩

/-! ### Nodes -/

variable (fs : FileSystem)

def entries (i : Nat) : List (String × Nat) := (fs.nodes[i]?).elim [] Node.entries

def parent? (i : Nat) : Option Nat := (fs.nodes[i]?).elim none Node.parent?

def isDirectory (i : Nat) : Bool := (fs.nodes[i]?).elim false Node.isDirectory

def bytes? (i : Nat) : Option (List UInt8) := (fs.nodes[i]?).elim none Node.bytes?

/-! ### Paths -/

/-- A part of a path between slashes. Nothing and a single dot both mean the directory itself. -/
inductive Part where
  | here
  | up
  | name (s : String)
  deriving DecidableEq

def Part.ofText (s : String) : Part :=
  if s = "" ∨ s = "." then .here else if s = ".." then .up else .name s

def parts (path : String) : List Part := (path.splitOn "/").map Part.ofText

def isAbsolute (path : String) : Bool := path.toList.head? == some '/'

/-- Where a path leads: to a name in a directory, with or without something there, or to a
directory as such. -/
inductive Place where
  | entry (directory : Nat) (name : String) (node : Nat)
  | missing (directory : Nat) (name : String)
  | directory (node : Nat)
  deriving DecidableEq

def Place.node? : Place → Option Nat
  | .entry _ _ node | .directory node => some node
  | .missing _ _ => none

/-- How far a walk comes before it meets a symbolic link that it has to follow. -/
inductive Progress where
  | arrived (p : Place)
  | link (directory : Nat) (target : String) (rest : List Part)

/-- Walks along a path. A walk confined to `base` does not go up from there; a link at the end is
left alone unless `follow`. -/
def advance (base : Option Nat) (follow : Bool) (dir : Nat) : List Part → Except FileError Progress
  | [] => .ok (.arrived (.directory dir))
  | .here :: rest => advance base follow dir rest
  | .up :: rest =>
    if base = some dir then .error .outside
    else
      match fs.parent? dir with
      | some p => advance base follow p rest
      | none => .error .noEntry
  | .name s :: rest =>
    match (fs.entries dir).lookup s with
    | none => if rest.isEmpty then .ok (.arrived (.missing dir s)) else .error .noEntry
    | some i =>
      match fs.nodes[i]? with
      | some (.link target) =>
        if rest.isEmpty && !follow then .ok (.arrived (.entry dir s i))
        else .ok (.link dir target rest)
      | some (.directory _ _) =>
        if rest.isEmpty then .ok (.arrived (.entry dir s i)) else advance base follow i rest
      | _ => if rest.isEmpty then .ok (.arrived (.entry dir s i)) else .error .notDirectory

/-- The number of symbolic links that one path may lead through. -/
def maxLinks : Nat := 40

/-- Walks along a path and through the symbolic links on it. -/
def resolve (base : Option Nat) (follow : Bool) :
    (links : Nat) → (dir : Nat) → List Part → Except FileError Place
  | links, dir, ps =>
    match fs.advance base follow dir ps with
    | .error e => .error e
    | .ok (.arrived p) => .ok p
    | .ok (.link dir target rest) =>
      match links with
      | 0 => .error .tooManyLinks
      | links + 1 =>
        if isAbsolute target then
          if base.isSome then .error .outside
          else resolve base follow links root (parts target ++ rest)
        else resolve base follow links dir (parts target ++ rest)

/-- Where a path leads from a directory out of which it must not lead. -/
def resolveWithin (dir : Nat) (follow : Bool) (path : String) : Except FileError Place :=
  if path.toList.contains '\x00' then .error .invalidArgument
  else if path = "" then .error .noEntry
  else if isAbsolute path then .error .outside
  else fs.resolve (some dir) follow maxLinks dir (parts path)

/-- The directory at which a path of the working directory starts. -/
def startOf (path : String) : Nat := if isAbsolute path then root else fs.working

/-- Where a path of the working directory leads, through every link. -/
def locate (path : String) : Except FileError Place :=
  if path.toList.contains '\x00' then .error .nulInName
  else if path = "" then .error .noEntry
  else fs.resolve none true maxLinks (fs.startOf path) (parts path)

/-- What a path of the working directory means. -/
def canonicalize (path : String) : Except FileError Nat :=
  match fs.locate path with
  | .error e => .error e
  | .ok p =>
    match p.node? with
    | some i => .ok i
    | none => .error .noEntry

/-- The directory that a path of the working directory means. -/
def openDirectory (path : String) : Except FileError Nat :=
  match fs.canonicalize path with
  | .error e => .error e
  | .ok i => if fs.isDirectory i then .ok i else .error .notDirectory

/-- The bytes of the file that a path of the working directory means. -/
def read (path : String) : Except FileError (List UInt8) :=
  match fs.canonicalize path with
  | .error e => .error e
  | .ok i =>
    match fs.bytes? i with
    | some bytes => .ok bytes
    | none => .error .isDirectory

/-! ### Absolute paths -/

/-- The name of a directory in the one above it. -/
def nameOf? (i : Nat) : Option String := do
  let p ← fs.parent? i
  let e ← (fs.entries p).find? fun e => e.2 == i
  some e.1

/-- The names on the way down to a directory; no way is longer than there are nodes. -/
def namesTo : (rounds : Nat) → Nat → List String
  | 0, _ => []
  | rounds + 1, i =>
    if i = root then []
    else
      match fs.parent? i, fs.nameOf? i with
      | some p, some name => namesTo rounds p ++ [name]
      | _, _ => []

def pathOf (i : Nat) : String :=
  "/" ++ "/".intercalate (fs.namesTo fs.nodes.size i)

/-! ### Ways up -/

/-- The way up from a directory comes to `i`. -/
def isAbove (i : Nat) : (rounds : Nat) → Nat → Bool
  | 0, d => d == i
  | rounds + 1, d =>
    d == i ||
      match fs.parent? d with
      | some p => isAbove i rounds p
      | none => false

end FileSystem

end Embedder
