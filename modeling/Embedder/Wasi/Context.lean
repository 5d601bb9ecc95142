import Embedder.Wasi.Environment

/-!
What one instance of a program holds of the system interface: what it was started with, the input
it has not read yet, and its descriptors.

* `Descriptor`, `OpenFile`: what a number stands for;
* `Context.ofEnvironment`: three streams, then the mapped directories in their order;
* `Context.insert?`: a new descriptor gets the lowest number that was closed, or else the one behind
  all others.
-/

namespace Embedder.Wasi

/-- A file that is open, by its node. -/
structure OpenFile where
  node : Nat
  position : Nat
  append : Bool
  nonblocking : Bool
  readable : Bool
  writable : Bool
  deriving DecidableEq, Inhabited

/-- A directory that was given to the program has a name of its own. -/
inductive Descriptor where
  | input
  | output (stream : OutputStream)
  | directory (node : Nat) (guestName : Option String)
  | file (f : OpenFile)
  deriving DecidableEq

/-- The input of a program: that of the host, or what is left of its own. -/
inductive Input where
  | inherited
  | own (bytes : List UInt8)
  deriving DecidableEq

def Input.left (s : System) : Input → List UInt8
  | .inherited => s.input
  | .own bytes => bytes

/-- The descriptors by number; under a number that was closed there is none. `looks` and `drawn`
count how often the program looked at a clock and how many bytes of chance it drew. -/
structure Context where
  arguments : List String
  vars : List (String × String)
  input : Input
  output : OutputSink
  errors : OutputSink
  descriptors : Dictionary Nat (Option Descriptor)
  looks : Nat
  drawn : Nat
  deriving DecidableEq

namespace Context

/-- Descriptors under the numbers from one on. -/
def numbered : (first : Nat) → List Descriptor → Dictionary Nat (Option Descriptor)
  | _, [] => []
  | n, d :: rest => (n, some d) :: numbered (n + 1) rest

def streams : List Descriptor := [.input, .output .standard, .output .error]

/-- The context of a module that is not a program of the system interface. -/
def empty : Context := ⟨[], [], .own [], .null, .null, numbered 0 streams, 0, 0⟩

def descriptor? (c : Context) (fd : Nat) : Option Descriptor := (c.descriptors.find? fd).join

/-- Numbers are below this one. -/
def numberLimit : Nat := 2 ^ 32

/-- The number that a new descriptor gets, if there is any. -/
def nextNumber? (c : Context) : Option Nat :=
  let numbers := c.descriptors.keys
  match (numbers.filter fun fd => c.descriptors.find? fd == some none).min? with
  | some fd => some fd
  | none =>
    match numbers.max? with
    | none => some 0
    | some last =>
      let below := (List.range (numbers.length + 1)).map fun k => numberLimit - 2 - k
      (if last + 1 < numberLimit then [last + 1] else below).find? fun fd =>
        !numbers.contains fd

def set (c : Context) (fd : Nat) (d : Option Descriptor) : Context :=
  { c with descriptors := c.descriptors.insert fd d }

/-- A new descriptor and its number. -/
def insert? (c : Context) (d : Descriptor) : Option (Nat × Context) :=
  c.nextNumber?.map fun fd => (fd, c.set fd (some d))

/-- A descriptor gets another number, whatever has that one. -/
def renumber (c : Context) (fd newFd : Nat) (d : Descriptor) : Context :=
  (c.set fd none).set newFd (some d)

def sink (c : Context) : OutputStream → OutputSink
  | .standard => c.output
  | .error => c.errors

/-- Opens the mapped directories. -/
def openDirectories (fs : FileSystem) (ds : List (String × String)) :
    Except FileError (List Descriptor) :=
  ds.mapM fun (guestName, path) => do
    let node ← fs.openDirectory path
    return .directory node (some guestName)

/-- The context that an instance starts with. -/
def ofEnvironment (fs : FileSystem) (e : Environment) : Except FileError Context := do
  let directories ← openDirectories fs e.directories
  let input := match e.input with
    | .inherit => .inherited
    | .null => .own []
    | .bytes data => .own data
  return ⟨e.programName :: e.arguments, e.vars, input, e.output, e.errors,
    numbered 0 (streams ++ directories), 0, 0⟩

end Context

end Embedder.Wasi
