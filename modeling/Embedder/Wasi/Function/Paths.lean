import Embedder.FileSystem.Changes
import Embedder.Wasi.Calling
import Embedder.Wasi.Version

/-!
Paths below the directories that a program was given.

* `Calling.locate`: where a path leads, which must not be out of its directory;
* `Calling.openPath`: opens or creates; what is asked for is in `OpenRequest`;
* `Calling.directoryAlias`: the names of the directories that were given.
-/

namespace Embedder.Wasi

/-- What opening a path is asked to do. -/
structure OpenRequest where
  follow : Bool
  create : Bool
  directory : Bool
  exclusive : Bool
  truncate : Bool
  read : Bool
  write : Bool
  append : Bool
  nonblocking : Bool
  deriving DecidableEq

namespace OpenRequest

/-- Creating opens for writing. -/
def writable (r : OpenRequest) : Bool := r.write || r.create

/-- What is not to be written is opened for reading in any case. -/
def readable (r : OpenRequest) : Bool := r.read || !r.write

/-- A directory cannot be opened to be written or truncated. -/
def changes (r : OpenRequest) : Bool := r.writable || r.truncate

/-- Only something that is not there yet will do. -/
def createNew (r : OpenRequest) : Bool := r.create && r.exclusive

def openFile (r : OpenRequest) (node : Nat) : Descriptor :=
  .file ⟨node, 0, r.append, r.nonblocking, r.readable, r.writable⟩

end OpenRequest

/-- The number of kinds of rights that a snapshot knows. -/
def rightCount (v : Version) : Nat :=
  match v.resolve with
  | .snapshot0 => 29
  | _ => 30

namespace Calling

open FileSystem (Place)

/-! ### Places -/

/-- Where a path leads, without leaving the directory. -/
def locate (dir : Nat) (follow : Bool) (path : String) : Calling Place := do
  lift ((← files).resolveWithin dir follow path)

/-- Puts a new node at a name that is not taken. There is nothing below a directory that was taken
away. -/
def createEntry (dir : Nat) (name : String) (n : Node) : Calling Nat := do
  let fs ← files
  if (fs.parent? dir).isSome then
    let (fs, node) := fs.create dir name n
    setFiles fs
    return node
  else fail .noEntry

def endsInSlash (path : String) : Bool := path.toList.getLast? == some '/'

/-- A path without the slashes at its end. -/
def withoutSlashes (path : String) : String :=
  if FileSystem.isAbsolute path then path
  else String.ofList (path.toList.reverse.dropWhile (· == '/')).reverse

/-! ### Opening -/

/-- Opens what is there. -/
def openPresent (r : OpenRequest) (node : Nat) : Calling Descriptor := do
  let fs ← files
  if r.createNew then fail .present
  else
    match fs.nodes[node]? with
    | some (.directory _ _) =>
      if r.changes then fail .isDirectory else return .directory node none
    | some (.file _) =>
      if r.directory then fail .notDirectory
      else
        if r.truncate then setFiles (fs.setBytes node [])
        return r.openFile node
    | some (.link _) => fail .tooManyLinks
    | none => fail .noEntry

/-- Creates a file that is not there. -/
def createMissing (r : OpenRequest) (dir : Nat) (name : String) : Calling Descriptor := do
  if r.create then return r.openFile (← createEntry dir name (.file []))
  else fail .noEntry

/-- Opens a path below a directory. -/
def openBelow (r : OpenRequest) (dir : Nat) (path : String) : Calling Descriptor := do
  if r.directory && (r.create || r.exclusive || r.truncate) then fail .invalid
  else
    if r.create && endsInSlash path then
      let _ ← locate dir true (withoutSlashes path)
      fail .isDirectory
    else
      match ← locate dir (r.follow && !r.createNew) path with
      | .entry _ _ node | .directory node => openPresent r node
      | .missing dir name => createMissing r dir name

/-- Gives a descriptor a number. -/
def insert (d : Descriptor) : Calling Nat := do
  match (← context).insert? d with
  | some (fd, c) => do
    setContext c
    return fd
  | none => fail .tooManyLinks

def openPath (v : Version) (dirfd lookup start length oflags rights inheriting fdflags result : Nat) :
    Calling Unit := do
  let oflags := oflags % 65536
  let fdflags := fdflags % 65536
  let rightLimit := 2 ^ rightCount v
  if 2 ≤ lookup ∨ 16 ≤ oflags ∨ rightLimit ≤ rights ∨ rightLimit ≤ inheriting ∨ 32 ≤ fdflags then
    fail .invalid
  else
    let path ← readText start length
    match ← descriptor dirfd with
    | .directory dir _ =>
      let r : OpenRequest :=
        { follow := lookup.testBit 0, create := oflags.testBit 0, directory := oflags.testBit 1
          exclusive := oflags.testBit 2, truncate := oflags.testBit 3, read := rights.testBit 1
          write := rights.testBit 6, append := fdflags.testBit 0
          nonblocking := fdflags.testBit 2 }
      if fdflags.testBit 1 || fdflags.testBit 3 || fdflags.testBit 4 then fail .notSupported
      else
        writeWord 4 result (← insert (← openBelow r dir path))
    | .file _ => fail .notDirectory
    | .input | .output _ => fail .badDescriptor

/-! ### Given directories -/

/-- The length of the name behind a tag. -/
def describeAlias (fd result : Nat) : Calling Unit := do
  match ← descriptor fd with
  | .directory _ (some guestName) =>
    writeBytes result [0] *> writeWord 4 (result + 4) guestName.utf8ByteSize
  | _ => fail .badDescriptor

def directoryAlias (fd start room : Nat) : Calling Unit := do
  match ← descriptor fd with
  | .directory _ (some guestName) =>
    if room < guestName.utf8ByteSize then fail .nameTooLong
    else writeBytes start guestName.toUTF8.toList
  | _ => fail .notDirectory

end Calling

end Embedder.Wasi
