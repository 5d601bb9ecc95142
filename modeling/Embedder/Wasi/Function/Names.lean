import Embedder.Wasi.Function.Paths

/-!
The names below a directory: what has one, and how names come and go.

* `Calling.createDirectory`, `Calling.symlink`, `Calling.link`: new names;
* `Calling.unlinkPath`, `Calling.removeDirectory`, `Calling.rename`: names that go;
* `Calling.readDirectory`, `Calling.readLink`: what there is.

A slash at the end of a path is no part of the name of a directory.
-/

namespace Embedder.Wasi

/-- The kinds of files that can be told. -/
inductive FileKind where
  | unknown
  | directory
  | regular
  | link
  deriving DecidableEq

def FileKind.code : FileKind → Nat
  | .unknown => 0
  | .directory => 3
  | .regular => 4
  | .link => 7

def FileKind.ofNode : Node → FileKind
  | .directory _ _ => .directory
  | .file _ => .regular
  | .link _ => .link

namespace Calling

/-! ### New names -/

def createDirectory (dirfd start length : Nat) : Calling Unit := do
  let dir ← directory dirfd
  let path ← readText start length
  match ← locate dir false (withoutSlashes path) with
  | .missing parent name => do
    let _ ← createEntry parent name (.directory none [])
  | .entry _ _ _ | .directory _ => fail .present

/-- A link leads to a path of the directory that it is in, so not to an absolute one. -/
def symlink (targetStart targetLength dirfd start length : Nat) : Calling Unit := do
  let dir ← directory dirfd
  let target ← readText targetStart targetLength
  let path ← readText start length
  if FileSystem.isAbsolute target then fail .notPermitted
  else
    let place ← locate dir false path
    if hasNul target then fail .invalid
    else if target = "" then fail .noEntry
    else
      match place with
      | .missing parent name => do
        let _ ← createEntry parent name (.link target)
      | .entry _ _ _ | .directory _ => fail .present

/-- Another name for a file. Directories have one name only. -/
def link (dirfd lookup start length newDirfd newStart newLength : Nat) : Calling Unit := do
  if 2 ≤ lookup then fail .invalid
  else
    let dir ← directory dirfd
    let newDir ← directory newDirfd
    let path ← readText start length
    let newPath ← readText newStart newLength
    if lookup.testBit 0 then fail .invalid
    else
      let place ← locate dir false path
      let newPlace ← locate newDir false newPath
      let fs ← files
      match place.node?, newPlace with
      | none, _ => fail .noEntry
      | some _, .entry _ _ _ | some _, .directory _ => fail .present
      | some i, .missing parent name =>
        if (fs.parent? parent).isNone then fail .noEntry
        else if fs.isDirectory i then fail .notPermitted
        else setFiles (fs.attach parent name i)

/-! ### Names that go -/

def unlinkPath (dirfd start length : Nat) : Calling Unit := do
  let dir ← directory dirfd
  let path ← readText start length
  match ← locate dir false path with
  | .entry parent name i => do
    let fs ← files
    if fs.isDirectory i then fail .isDirectory else setFiles (fs.detach parent name i)
  | .directory _ => fail .isDirectory
  | .missing _ _ => fail .noEntry

def removeDirectory (dirfd start length : Nat) : Calling Unit := do
  let dir ← directory dirfd
  let path ← readText start length
  match ← locate dir false (withoutSlashes path) with
  | .entry parent name i => do
    let fs ← files
    if !fs.isDirectory i then fail .notDirectory
    else if (fs.entries i).isEmpty then setFiles (fs.detach parent name i)
    else fail .notEmpty
  | .directory _ => fail .invalid
  | .missing _ _ => fail .noEntry

/-- Something gets the name of something else, which loses it. -/
def replace (dir : Nat) (name : String) (i newDir : Nat) (newName : String) (j : Nat) :
    Calling Unit := do
  let fs ← files
  if fs.isDirectory j && fs.isAbove j fs.nodes.size dir then fail .notEmpty
  else if i = j then pure ()
  else if fs.isDirectory i && !fs.isDirectory j then fail .notDirectory
  else if !fs.isDirectory i && fs.isDirectory j then fail .isDirectory
  else if (fs.entries j).isEmpty then
    setFiles ((fs.detach newDir newName j).move dir name i newDir newName)
  else fail .notEmpty

/-- Slashes can be behind the names of directories only, and a directory does not move below itself. -/
def checkMove (i newDir : Nat) (slash : Bool) : Calling Unit := do
  let fs ← files
  if fs.isDirectory i then
    if fs.isAbove i fs.nodes.size newDir then fail .invalid
  else
    if slash then fail .notDirectory

/-- What a path leads to otherwise than by a name does not move. -/
def rename (dirfd start length newDirfd newStart newLength : Nat) : Calling Unit := do
  let dir ← directory dirfd
  let newDir ← directory newDirfd
  let path ← readText start length
  let newPath ← readText newStart newLength
  let slash := endsInSlash path || endsInSlash newPath
  let place ← locate dir false (withoutSlashes path)
  let newPlace ← locate newDir false (withoutSlashes newPath)
  match place, newPlace with
  | .directory _, _ | _, .directory _ => fail .busy
  | .missing _ _, _ => fail .noEntry
  | .entry dir name i, .missing newDir newName => do
    checkMove i newDir slash
    let fs ← files
    if (fs.parent? newDir).isNone then fail .noEntry
    else setFiles (fs.move dir name i newDir newName)
  | .entry dir name i, .entry newDir newName j => do
    checkMove i newDir slash
    replace dir name i newDir newName j

/-! ### What there is -/

/-- An entry of a directory as it is told: the number of the next one, the length of the name and the
kind, and the name. -/
def entryPieces (next : Nat) (kind : FileKind) (name : String) : List (List UInt8) :=
  let bytes := name.toUTF8.toList
  [littleEndianBytes 8 next ++ littleEndianBytes 8 0 ++ littleEndianBytes 4 bytes.length ++
    [UInt8.ofNat kind.code, 0, 0, 0], bytes]

/-- The entries from a number on. -/
def entriesFrom (fs : FileSystem) : (next : Nat) → List (String × Nat) → List (List (List UInt8))
  | _, [] => []
  | next, (name, i) :: rest =>
    entryPieces next ((fs.nodes[i]?).elim .unknown .ofNode) name :: entriesFrom fs (next + 1) rest

/-- A directory has itself and the one above it as its first entries. -/
def directoryPieces (fs : FileSystem) (dir : Nat) : List (List (List UInt8)) :=
  entryPieces 1 .directory "." :: entryPieces 2 .directory ".." :: entriesFrom fs 3 (fs.entries dir)

/-- As much of the pieces as there is room for. -/
def cut : (room : Nat) → List (List UInt8) → List (List UInt8)
  | _, [] => []
  | room, piece :: rest => piece.take room :: cut (room - piece.length) rest

/-- Tells the entries behind a number, as far as there is room. -/
def readDirectory (fd start room cookie result : Nat) : Calling Unit := do
  let dir ← directory fd
  let pieces := cut room ((directoryPieces (← files) dir).drop cookie).flatten
  let stop ← writePieces start pieces
  writeWord 4 result (stop - start)

/-- Where a link leads. One that leads to an absolute path does not tell. -/
def readLink (dirfd start length target room result : Nat) : Calling Unit := do
  let dir ← directory dirfd
  let path ← readText start length
  match ← locate dir false path with
  | .missing _ _ => fail .noEntry
  | .directory _ => fail .invalid
  | .entry _ _ i =>
    match (← files).nodes[i]? with
    | some (.link text) =>
      if FileSystem.isAbsolute text then fail .notPermitted
      else
        let bytes := text.toUTF8.toList.take room
        writeBytes target bytes
        writeWord 4 result bytes.length
    | _ => fail .invalid

end Calling

end Embedder.Wasi
