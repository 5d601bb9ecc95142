import Embedder.FileSystem

/-!
What instances share with the host and with each other when they write and open files.

* `Pipe`: collects what guests write, up to a capacity;
* `OutputSink`: where a guest's output goes;
* `Surroundings`: what clocks show, and where chance comes from;
* `System`: the pipes, the files, the input of the host and what was printed.
-/

namespace Embedder.Wasi

/-- A pipe without a capacity takes everything. -/
structure Pipe where
  capacity : Option Nat
  contents : List UInt8
  deriving DecidableEq, Inhabited

namespace Pipe

def create (capacity : Option Nat) : Pipe := ⟨capacity, []⟩

/-- Writes what fits. A write that leaves no room reports that the pipe is closed. -/
def write (p : Pipe) (bytes : List UInt8) : Bool × Pipe :=
  match p.capacity with
  | none => (true, { p with contents := p.contents ++ bytes })
  | some capacity =>
    let room := capacity - p.contents.length
    (bytes.isEmpty || decide (bytes.length < room),
      { p with contents := p.contents ++ bytes.take room })

end Pipe

/-- Output is printed, dropped or collected by the pipe of a number. -/
inductive OutputSink where
  | inherit
  | null
  | pipe (number : Nat)
  deriving DecidableEq, Inhabited

/-- The two streams of a program. -/
inductive OutputStream where
  | standard
  | error
  deriving DecidableEq

/-- The clocks that tell a time. -/
inductive Clock where
  | wall
  | steady
  deriving DecidableEq

/-- What a clock shows when an instance looks at it for the `n`th time, in nanoseconds, and the `n`th
byte of chance that an instance draws. -/
structure Surroundings where
  clock : Clock → Nat → Nat
  chance : Nat → UInt8
  deriving Inhabited

/-- Clocks that go on by a microsecond from look to look, and bytes that take turns. -/
def Surroundings.plain : Surroundings where
  clock
    | .wall, n => 1700000000000000000 + 1000 * n
    | .steady, n => 1000 * (n + 1)
  chance n := UInt8.ofNat (n * n * 131 + n * 89 + 57)

/-- `input` is what the host has not read of its own input, and `printed` and `printedErrors` are what
guests wrote to streams that they inherit. -/
structure System where
  files : FileSystem
  pipes : Array Pipe
  printed : List UInt8
  printedErrors : List UInt8
  input : List UInt8
  surroundings : Surroundings
  deriving Inhabited

namespace System

def ofFiles (files : FileSystem) : System := ⟨files, #[], [], [], [], .plain⟩

/-- A new pipe and its number. -/
def addPipe (s : System) (capacity : Option Nat) : Nat × System :=
  (s.pipes.size, { s with pipes := s.pipes.push (.create capacity) })

def pipeContents (s : System) (number : Nat) : List UInt8 :=
  (s.pipes[number]?).elim [] Pipe.contents

/-- Writes to a sink, and tells whether all was taken. -/
def write (s : System) (stream : OutputStream) (sink : OutputSink) (bytes : List UInt8) :
    Bool × System :=
  match sink with
  | .null => (true, s)
  | .pipe number =>
    match s.pipes[number]? with
    | some p =>
      let (taken, p) := p.write bytes
      (taken, { s with pipes := s.pipes.setIfInBounds number p })
    | none => (true, s)
  | .inherit =>
    match stream with
    | .standard => (true, { s with printed := s.printed ++ bytes })
    | .error => (true, { s with printedErrors := s.printedErrors ++ bytes })

end System

end Embedder.Wasi
