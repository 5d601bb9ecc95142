import Embedder.Execution.Memory
import Embedder.Wasi.Context

/-!
How a function of the system interface works on its caller.

* `Errno`: the numbers that functions answer with;
* `Calling`: a computation on the caller's memory, its context and the system, which an error, a
  trap or an exit ends;
* `readBytes`, `writeBytes`, `readWord`, `writeWord`, `writeFields`: the caller's memory. A pointer that
  leads outside of it is a trap, and so is a number at an address that is no multiple of its size.
-/

namespace Embedder.Wasi

inductive Errno where
  | badDescriptor
  | busy
  | present
  | illegalText
  | invalid
  | interrupted
  | io
  | isDirectory
  | tooManyLinks
  | nameTooLong
  | noEntry
  | notDirectory
  | notEmpty
  | notSocket
  | notSupported
  | overflow
  | notPermitted
  | notSeekable
  deriving DecidableEq

def Errno.code : Errno → Nat
  | .badDescriptor => 8
  | .busy => 10
  | .present => 20
  | .illegalText => 25
  | .interrupted => 27
  | .invalid => 28
  | .io => 29
  | .isDirectory => 31
  | .tooManyLinks => 32
  | .nameTooLong => 37
  | .noEntry => 44
  | .notDirectory => 54
  | .notEmpty => 55
  | .notSocket => 57
  | .notSupported => 58
  | .overflow => 61
  | .notPermitted => 63
  | .notSeekable => 70

def Errno.ofFileError : FileError → Errno
  | .noEntry => .noEntry
  | .notDirectory => .notDirectory
  | .isDirectory => .isDirectory
  | .present => .present
  | .tooManyLinks => .tooManyLinks
  | .outside => .notPermitted
  | .invalidArgument | .nulInName => .invalid
  | .notOpened => .badDescriptor

/-- How a call ends before its time. -/
inductive Ending where
  | errno (e : Errno)
  | trap (message : String)
  | exit (code : Nat)
  deriving DecidableEq

structure CallState where
  memory : Memory
  context : Context
  system : System

/-- What was done before the end stays done. -/
abbrev Calling := ExceptT Ending (StateM CallState)

namespace Calling

variable {α : Type}

def fail (e : Errno) : Calling α := throw (.errno e)

def trap (message : String) : Calling α := throw (.trap message)

def lift : Except FileError α → Calling α
  | .ok a => pure a
  | .error e => fail (.ofFileError e)

/-! ### Parts of the state -/

def context : Calling Context := do return (← get).context

def setContext (c : Context) : Calling Unit := modify fun s => { s with context := c }

def system : Calling System := do return (← get).system

def files : Calling FileSystem := do return (← system).files

def setFiles (fs : FileSystem) : Calling Unit :=
  modify fun s => { s with system := { s.system with files := fs } }

def descriptor (fd : Nat) : Calling Descriptor := do
  match (← context).descriptor? fd with
  | some d => pure d
  | none => fail .badDescriptor

def setDescriptor (fd : Nat) (d : Option Descriptor) : Calling Unit := do
  setContext ((← context).set fd d)

/-- The directory that a number stands for. -/
def directory (fd : Nat) : Calling Nat := do
  match ← descriptor fd with
  | .directory dir _ => return dir
  | _ => fail .badDescriptor

/-- The file that a number stands for. -/
def openFile (fd : Nat) : Calling OpenFile := do
  match ← descriptor fd with
  | .file f => return f
  | _ => fail .badDescriptor

/-- The file or directory that a number stands for. -/
def node (fd : Nat) : Calling Nat := do
  match ← descriptor fd with
  | .file f => return f.node
  | .directory dir _ => return dir
  | _ => fail .badDescriptor

/-! ### The caller's memory -/

def region (start length : Nat) : String :=
  Inspect.record "Region" [("start", toString start), ("len", toString length)]

def outOfBounds (start length : Nat) : Calling α :=
  trap ("Pointer out of bounds: " ++ region start length)

def notAligned (start length : Nat) : Calling α :=
  trap ("Pointer not aligned to " ++ toString length ++ ": " ++ region start length)

def readBytes (start length : Nat) : Calling (List UInt8) := do
  match (← get).memory.read? start length with
  | some bytes => pure bytes
  | none => outOfBounds start length

def writeBytes (start : Nat) (bytes : List UInt8) : Calling Unit := do
  if bytes.isEmpty then pure ()
  else
    if (← get).memory.inBounds start bytes.length then
      modify fun s => { s with memory := s.memory.write start bytes }
    else outOfBounds start bytes.length

/-- Ends the call unless the bytes are in the memory. -/
def checkRange (start length : Nat) : Calling Unit := do
  if (← get).memory.inBounds start length then pure () else outOfBounds start length

/-- Ends the call unless a number of `size` bytes can be at the address. -/
def checkWord (size start : Nat) : Calling Unit := do
  if (← get).memory.inBounds start size then
    if start % size = 0 then pure () else notAligned start size
  else outOfBounds start size

def readWord (size start : Nat) : Calling Nat := do
  checkWord size start
  return littleEndian (← readBytes start size)

def writeWord (size start n : Nat) : Calling Unit := do
  checkWord size start
  writeBytes start (littleEndianBytes size n)

/-- A number in a record: where it stands, its size and its value. -/
structure Field where
  offset : Nat
  size : Nat
  value : Nat

/-- Writes the numbers of a record, one after the other. -/
def writeFields (start : Nat) : List Field → Calling Unit
  | [] => pure ()
  | f :: rest => do
    writeWord f.size (start + f.offset) f.value
    writeFields start rest

/-- The text at an address. -/
def readText (start length : Nat) : Calling String := do
  match String.fromUTF8? ⟨(← readBytes start length).toArray⟩ with
  | some s => pure s
  | none => fail .illegalText

/-- Writes pieces one behind the other and answers with the address behind the last one. -/
def writePieces (start : Nat) : List (List UInt8) → Calling Nat
  | [] => pure start
  | piece :: rest => do
    writeBytes start piece
    writePieces (start + piece.length) rest

/-- The first of a list of buffers that is not empty, by address and length. -/
def firstBuffer (list : Nat) : (count : Nat) → Calling (Option (Nat × Nat))
  | 0 => return none
  | count + 1 => do
    let start ← readWord 4 list
    let length ← readWord 4 (list + 4)
    if length = 0 then firstBuffer (list + 8) count else return some (start, length)

end Calling

end Embedder.Wasi
