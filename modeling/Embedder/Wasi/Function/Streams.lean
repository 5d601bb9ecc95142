import Embedder.FileSystem.Changes
import Embedder.Wasi.Calling
import Embedder.Wasi.Version

/-!
Reading, writing and seeking.

* `Calling.write`, `Calling.read`: only the first buffer that is not empty counts;
* `Calling.writeAt`, `Calling.readAt`: the same at a given position;
* `Calling.seek`, `Calling.tell`: the position of a file, which may be past its end;
* `Calling.close`, `Calling.renumber`, `Calling.setFlags`.
-/

namespace Embedder.Wasi

/-! ### Contents of files -/

/-- The contents with bytes replaced from a position on; a gap before it is filled with zeros. -/
def overwrite (contents : List UInt8) (position : Nat) (bytes : List UInt8) : List UInt8 :=
  let gap := List.replicate (position - contents.length) 0
  contents.take position ++ gap ++ bytes ++ contents.drop (position + bytes.length)

/-- Where a position is counted from. -/
inductive Whence where
  | start
  | current
  | «end»
  deriving DecidableEq

/-- The two snapshots number the origins differently. -/
def Whence.ofNumber? (v : Version) (n : Nat) : Option Whence :=
  match v.resolve, n % 256 with
  | .snapshot0, 0 => some .current
  | .snapshot0, 1 => some .«end»
  | .snapshot0, 2 => some .start
  | .snapshot0, _ => none
  | _, 0 => some .start
  | _, 1 => some .current
  | _, 2 => some .«end»
  | _, _ => none

/-- The signed number whose `64` bits are given. -/
def signedOffset (n : Nat) : Int := (BitVec.ofNat 64 n).toInt

/-- A sum that fits 64 bits. -/
def position? (base : Nat) (offset : Int) : Option Nat :=
  let sum := (base : Int) + offset
  if 0 ≤ sum ∧ sum < (2 ^ 64 : Nat) then some sum.toNat else none

namespace Calling

def file (f : OpenFile) : Calling (List UInt8) := do
  return ((← files).bytes? f.node).getD []

/-! ### Writing -/

/-- The number of bytes that a stream takes at once. -/
def chunkSize : Nat := 4096

/-- Writes bytes to a stream, and tells whether all were taken. -/
def send (stream : OutputStream) (bytes : List UInt8) : Calling Bool :=
  modifyGet fun s =>
    let (taken, system) := s.system.write stream (s.context.sink stream) bytes
    (taken, { s with system })

/-- Writes bytes of the caller's memory to a stream, chunk after chunk. -/
def writeChunks (stream : OutputStream) (start : Nat) (length : Nat) : Calling Unit := do
  if _h : length = 0 then pure ()
  else
    let size := min length chunkSize
    if ← send stream (← readBytes start size) then
      writeChunks stream (start + size) (length - size)
    else fail .io
termination_by length
decreasing_by simp only [chunkSize]; omega

/-- Writes bytes to a file: at its end if it is open for appending, else at the position. -/
def writeFile (fd : Nat) (f : OpenFile) (bytes : List UInt8) : Calling Unit := do
  if f.writable then
    let contents ← file f
    let position := if f.append then contents.length else f.position
    setFiles ((← files).setBytes f.node (overwrite contents position bytes))
    setDescriptor fd (some (.file { f with position := position + bytes.length }))
  else fail .badDescriptor

def write (fd list count result : Nat) : Calling Unit := do
  match ← descriptor fd with
  | .output stream =>
    match ← firstBuffer list count with
    | none => writeWord 4 result 0
    | some (start, length) =>
      writeChunks stream start length
      writeWord 4 result length
  | .file f =>
    match ← firstBuffer list count with
    | none => writeWord 4 result 0
    | some (start, length) =>
      writeFile fd f (← readBytes start length)
      writeWord 4 result length
  | .input | .directory _ _ => fail .badDescriptor

/-! ### Reading -/

/-- Takes bytes from the input. -/
def takeInput (room : Nat) : Calling (List UInt8) :=
  modifyGet fun s =>
    match s.context.input with
    | .inherited =>
      (s.system.input.take room,
        { s with system := { s.system with input := s.system.input.drop room } })
    | .own bytes =>
      (bytes.take room, { s with context := { s.context with input := .own (bytes.drop room) } })

/-- Reads what is left of the input, as far as there is room for it. Without room there is no answer
while something is left. -/
def readInput (room : Nat) : Calling (List UInt8) := do
  let s ← get
  if (s.context.input.left s.system).isEmpty then return []
  else if room = 0 then fail .interrupted
  else takeInput room

def readFile (fd : Nat) (f : OpenFile) (start length : Nat) : Calling Nat := do
  let _ ← readBytes start length
  if f.readable then
    let bytes := ((← file f).drop f.position).take length
    writeBytes start bytes
    setDescriptor fd (some (.file { f with position := f.position + bytes.length }))
    return bytes.length
  else fail .badDescriptor

def read (fd list count result : Nat) : Calling Unit := do
  match ← descriptor fd with
  | .input =>
    let (start, length) := (← firstBuffer list count).getD (0, 0)
    let bytes ← readInput length
    writeBytes start bytes
    writeWord 4 result bytes.length
  | .file f =>
    match ← firstBuffer list count with
    | none => writeWord 4 result 0
    | some (start, length) => writeWord 4 result (← readFile fd f start length)
  | .output _ | .directory _ _ => fail .badDescriptor

/-! ### Reading and writing elsewhere -/

/-- A position in a file is below this one. -/
def positionLimit : Nat := 2 ^ 63

def readAt (fd list count position result : Nat) : Calling Unit := do
  match ← descriptor fd with
  | .file f =>
    match ← firstBuffer list count with
    | none => writeWord 4 result 0
    | some (start, length) =>
      if !f.readable then fail .badDescriptor
      else if positionLimit ≤ position then fail .invalid
      else
        let bytes := ((← file f).drop position).take length
        writeBytes start bytes
        writeWord 4 result bytes.length
  | .input => fail .notSeekable
  | .output _ | .directory _ _ => fail .badDescriptor

def writeAt (fd list count position result : Nat) : Calling Unit := do
  match ← descriptor fd with
  | .file f =>
    match ← firstBuffer list count with
    | none => writeWord 4 result 0
    | some (start, length) =>
      let bytes ← readBytes start length
      if !f.writable then fail .badDescriptor
      else if positionLimit ≤ position then fail .invalid
      else
        let contents ← file f
        setFiles ((← files).setBytes f.node (overwrite contents position bytes))
        writeWord 4 result length
  | .output _ => fail .notSeekable
  | .input | .directory _ _ => fail .badDescriptor

/-! ### Positions -/

/-- A file; streams have no position. -/
def seekable (fd : Nat) : Calling OpenFile := do
  match ← descriptor fd with
  | .file f => return f
  | .input | .output _ => fail .notSeekable
  | .directory _ _ => fail .badDescriptor

def seek (v : Version) (fd offset whence result : Nat) : Calling Unit := do
  match Whence.ofNumber? v whence with
  | none => fail .invalid
  | some whence =>
    let f ← seekable fd
    let base ← match whence with
      | .start => pure 0
      | .current => pure f.position
      | .«end» => do pure (← file f).length
    match position? base (signedOffset offset) with
    | none => fail .invalid
    | some position =>
      setDescriptor fd (some (.file { f with position }))
      writeWord 8 result position

def tell (fd result : Nat) : Calling Unit := do
  writeWord 8 result (← seekable fd).position

/-! ### Descriptors -/

def close (fd : Nat) : Calling Unit := do
  let _ ← descriptor fd
  setDescriptor fd none

/-- A descriptor gets another number, and what has that one is closed. -/
def renumber (fd newFd : Nat) : Calling Unit := do
  let d ← descriptor fd
  if fd = newFd then pure () else setContext ((← context).renumber fd newFd d)

/-- The flags that ask for synchronised writing. -/
def synchronised (flags : Nat) : Bool := flags.testBit 1 || flags.testBit 3 || flags.testBit 4

/-- Makes a file append or not, and wait or not. -/
def setFlags (fd flags : Nat) : Calling Unit := do
  let flags := flags % 65536
  if 32 ≤ flags then fail .invalid
  else
    let f ← openFile fd
    if synchronised flags then fail .invalid
    else
      let f := { f with append := flags.testBit 0, nonblocking := flags.testBit 2 }
      setDescriptor fd (some (.file f))

end Calling

end Embedder.Wasi
