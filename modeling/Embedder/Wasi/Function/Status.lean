import Embedder.Wasi.Function.Names
import Embedder.Wasi.Function.Streams

/-!
What can be told of files and descriptors, and what can be set.

* `Calling.fileStatus`, `Calling.pathStatus`: the kind and the size of a file;
* `Calling.descriptorStatus`: the flags and the rights of a descriptor;
* `Calling.setSize`, `Calling.setTimes`, `Calling.setPathTimes`: changes of a file.

Times, and the numbers that a host gives to its files, are not kept: they are told as zero, and a file
is told to have one name.
-/

namespace Embedder.Wasi

/-! ### Rights -/

/-- What a descriptor is allowed to be used for, in the order of the bits. -/
inductive Right where
  | fdDatasync
  | fdRead
  | fdSeek
  | fdFdstatSetFlags
  | fdSync
  | fdTell
  | fdWrite
  | fdAdvise
  | fdAllocate
  | pathCreateDirectory
  | pathCreateFile
  | pathLinkSource
  | pathLinkTarget
  | pathOpen
  | fdReaddir
  | pathReadlink
  | pathRenameSource
  | pathRenameTarget
  | pathFilestatGet
  | pathFilestatSetSize
  | pathFilestatSetTimes
  | fdFilestatGet
  | fdFilestatSetSize
  | fdFilestatSetTimes
  | pathSymlink
  | pathRemoveDirectory
  | pathUnlinkFile
  | pollFdReadwrite
  | sockShutdown
  | sockAccept
  deriving DecidableEq

namespace Right

def all : List Right :=
  [.fdDatasync, .fdRead, .fdSeek, .fdFdstatSetFlags, .fdSync, .fdTell, .fdWrite, .fdAdvise,
    .fdAllocate, .pathCreateDirectory, .pathCreateFile, .pathLinkSource, .pathLinkTarget, .pathOpen,
    .fdReaddir, .pathReadlink, .pathRenameSource, .pathRenameTarget, .pathFilestatGet,
    .pathFilestatSetSize, .pathFilestatSetTimes, .fdFilestatGet, .fdFilestatSetSize,
    .fdFilestatSetTimes, .pathSymlink, .pathRemoveDirectory, .pathUnlinkFile, .pollFdReadwrite,
    .sockShutdown, .sockAccept]

/-- Rights as a number. -/
def mask (rights : List Right) : Nat :=
  all.zipIdx.foldl (fun n (r, bit) => if r ∈ rights then n + 2 ^ bit else n) 0

/-- What a directory that was given to a program is good for. -/
def ofGivenDirectory : List Right :=
  [.pathCreateDirectory, .pathCreateFile, .pathLinkSource, .pathLinkTarget, .pathOpen, .fdReaddir,
    .pathReadlink, .pathRenameSource, .pathRenameTarget, .pathSymlink, .pathRemoveDirectory,
    .pathUnlinkFile, .pathFilestatGet, .pathFilestatSetTimes, .fdFilestatGet, .fdFilestatSetTimes]

/-- And what is opened below it. -/
def belowGivenDirectory : List Right :=
  ofGivenDirectory ++ [.fdDatasync, .fdRead, .fdSeek, .fdFdstatSetFlags, .fdSync, .fdTell, .fdWrite,
    .fdAdvise, .fdAllocate, .fdFilestatSetSize, .pollFdReadwrite]

/-- The rights that a snapshot knows, but for some. -/
def allBut (v : Version) (rights : List Right) : List Right :=
  (all.take (rightCount v)).filter fun r => r ∉ rights

def ofDirectory (v : Version) : List Right :=
  allBut v [.fdSeek, .fdFilestatSetSize, .pathFilestatSetSize, .fdWrite]

def ofFile (v : Version) (f : OpenFile) : List Right :=
  allBut v ((if f.readable then [] else [.fdRead, .fdReaddir]) ++
    (if f.writable then [] else [.fdWrite]))

end Right

def OpenFile.flags (f : OpenFile) : Nat :=
  (if f.append then 1 else 0) + (if f.nonblocking then 4 else 0)

namespace Calling

/-! ### The status of a descriptor -/

def writeDescriptorStatus (result : Nat) (kind : FileKind) (flags : Nat)
    (rights inheriting : List Right) : Calling Unit :=
  writeFields result [⟨0, 1, kind.code⟩, ⟨2, 2, flags⟩, ⟨8, 8, Right.mask rights⟩,
    ⟨16, 8, Right.mask inheriting⟩]

def descriptorStatus (v : Version) (fd result : Nat) : Calling Unit := do
  match ← descriptor fd with
  | .input => writeDescriptorStatus result .unknown 0 [.fdRead] [.fdRead]
  | .output _ => writeDescriptorStatus result .unknown 0 [.fdWrite] [.fdWrite]
  | .directory _ (some _) =>
    writeDescriptorStatus result .directory 0 Right.ofGivenDirectory Right.belowGivenDirectory
  | .directory _ none =>
    writeDescriptorStatus result .directory 0 (Right.ofDirectory v) (Right.ofDirectory v)
  | .file f =>
    writeDescriptorStatus result .regular f.flags (Right.ofFile v f) (Right.ofFile v f)

/-- Rights cannot be changed. -/
def setRights (v : Version) (fd rights inheriting : Nat) : Calling Unit := do
  let limit := 2 ^ rightCount v
  if limit ≤ rights ∨ limit ≤ inheriting then fail .invalid
  else
    let _ ← node fd
    fail .notSupported

/-! ### The status of a file -/

/-- The two snapshots count the names of a file in numbers of another size. -/
def writeStatus (v : Version) (result device : Nat) (kind : FileKind) (names size : Nat) :
    Calling Unit :=
  writeFields result <|
    [⟨0, 8, device⟩, ⟨8, 8, 0⟩, ⟨16, 1, kind.code⟩] ++
    match v.resolve with
    | .snapshot0 => [⟨20, 4, names⟩, ⟨24, 8, size⟩, ⟨32, 8, 0⟩, ⟨40, 8, 0⟩, ⟨48, 8, 0⟩]
    | _ => [⟨24, 8, names⟩, ⟨32, 8, size⟩, ⟨40, 8, 0⟩, ⟨48, 8, 0⟩, ⟨56, 8, 0⟩]

/-- The bytes of a file or of the path that a link leads to. -/
def sizeOf : Node → Nat
  | .directory _ _ => 0
  | .file bytes => bytes.length
  | .link target => target.utf8ByteSize

def writeNodeStatus (v : Version) (i result : Nat) : Calling Unit := do
  match (← files).nodes[i]? with
  | some n => writeStatus v result 1 (.ofNode n) 1 (sizeOf n)
  | none => fail .noEntry

def fileStatus (v : Version) (fd result : Nat) : Calling Unit := do
  match ← descriptor fd with
  | .input | .output _ => writeStatus v result 0 .unknown 0 0
  | .directory i _ => writeNodeStatus v i result
  | .file f => writeNodeStatus v f.node result

def pathStatus (v : Version) (dirfd lookup start length result : Nat) : Calling Unit := do
  if 2 ≤ lookup then fail .invalid
  else
    let dir ← directory dirfd
    let path ← readText start length
    match (← locate dir (lookup.testBit 0) path).node? with
    | some i => writeNodeStatus v i result
    | none => fail .noEntry

/-! ### Changes -/

/-- The contents cut to a size, or filled up with zeros. -/
def resize (contents : List UInt8) (size : Nat) : List UInt8 :=
  contents.take size ++ List.replicate (size - contents.length) 0

def setSize (fd size : Nat) : Calling Unit := do
  let f ← openFile fd
  if !f.writable || decide (positionLimit ≤ size) then fail .invalid
  else
    let contents ← file f
    setFiles ((← files).setBytes f.node (resize contents size))

/-- Each of two times is left, set to a given one or set to the present one. -/
def timesAreValid (flags : Nat) : Bool :=
  decide (flags < 16) && !(flags.testBit 0 && flags.testBit 1) &&
    !(flags.testBit 2 && flags.testBit 3)

def setTimes (fd flags : Nat) : Calling Unit := do
  if timesAreValid (flags % 65536) then
    let _ ← node fd
  else fail .invalid

def setPathTimes (dirfd lookup start length flags : Nat) : Calling Unit := do
  if 2 ≤ lookup ∨ !timesAreValid (flags % 65536) then fail .invalid
  else
    let dir ← directory dirfd
    let path ← readText start length
    match (← locate dir (lookup.testBit 0) path).node? with
    | some _ => pure ()
    | none => fail .noEntry

/-- Advice is taken for files and changes nothing. -/
def advise (fd advice : Nat) : Calling Unit := do
  if 5 < advice % 256 then fail .invalid
  else
    let _ ← openFile fd

/-- Room cannot be reserved. -/
def allocate (fd : Nat) : Calling Unit := do
  let _ ← openFile fd
  fail .notSupported

/-- What is written is there at once. -/
def synchronise (fd : Nat) : Calling Unit := do
  let _ ← node fd

end Calling

end Embedder.Wasi
