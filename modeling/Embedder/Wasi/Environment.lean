import Embedder.Dictionary
import Embedder.Types.Text
import Embedder.Wasi.System

/-!
What a program is started with: its name, arguments, variables, directories and streams.

* `StateBuilder`: collects them, in any order and without checks;
* `StateBuilder.finalize`: the environment, or the first part of it that cannot be;
* `Environment`: what was collected, with directories by their absolute paths.
-/

namespace Embedder.Wasi

inductive InputSource where
  | inherit
  | null
  | bytes (data : List UInt8)
  deriving DecidableEq, Inhabited

structure StateBuilder where
  programName : String
  arguments : List String
  vars : Dictionary String String
  directories : List (String × String)
  input : InputSource
  output : OutputSink
  errors : OutputSink
  deriving DecidableEq, Inhabited

namespace StateBuilder

/-- A program reads nothing and prints what it writes unless it is told otherwise. -/
def create (programName : String) : StateBuilder :=
  ⟨programName, [], [], [], .null, .inherit, .inherit⟩

variable (b : StateBuilder)

def addArgument (a : String) : StateBuilder := { b with arguments := b.arguments ++ [a] }

def addArguments (as : List String) : StateBuilder := as.foldl addArgument b

/-- Sets a variable. One that is set already keeps its place. -/
def setVariable (key value : String) : StateBuilder :=
  { b with vars := b.vars.insert key value }

def setVariables (kvs : List (String × String)) : StateBuilder :=
  kvs.foldl (fun b kv => b.setVariable kv.1 kv.2) b

/-- Gives a directory of the host to the program under a name of its own. -/
def mapDirectory (guestName path : String) : StateBuilder :=
  { b with directories := b.directories ++ [(guestName, path)] }

def mapDirectories (ds : List (String × String)) : StateBuilder :=
  ds.foldl (fun b d => b.mapDirectory d.1 d.2) b

/-- Gives a directory to the program under the path that the host uses. -/
def preopenDirectory (path : String) : StateBuilder := b.mapDirectory path path

def preopenDirectories (paths : List String) : StateBuilder := paths.foldl preopenDirectory b

def setInput (source : InputSource) : StateBuilder := { b with input := source }

def setOutput (sink : OutputSink) : StateBuilder := { b with output := sink }

def setErrors (sink : OutputSink) : StateBuilder := { b with errors := sink }

end StateBuilder

/-! ### What cannot be -/

inductive VariableFault where
  | emptyKey
  | equalsInKey
  | nul
  deriving DecidableEq

def VariableFault.text : VariableFault → String
  | .emptyKey => "empty key"
  | .equalsInKey => "key contains '='"
  | .nul => "contains a NUL byte"

inductive DirectoryFault where
  | nulInAlias
  | notDirectory
  | unreachable (e : FileError)
  deriving DecidableEq

def DirectoryFault.text : DirectoryFault → String
  | .nulInAlias => "alias contains a NUL byte"
  | .notDirectory => "not a directory"
  | .unreachable e => e.message

inductive StateError where
  | invalidArgument (a : String)
  | invalidVariable (key : String) (f : VariableFault)
  | invalidDirectory (guestName path : String) (f : DirectoryFault)
  deriving DecidableEq

def StateError.message : StateError → String
  | .invalidArgument a => "argument contains a NUL byte: " ++ Inspect.text a
  | .invalidVariable key f => "invalid environment variable " ++ Inspect.text key ++ ": " ++ f.text
  | .invalidDirectory guestName path f =>
    "cannot map directory '" ++ guestName ++ "' to " ++ path ++ ": " ++ f.text

def hasNul (s : String) : Bool := s.toList.contains '\x00'

/-- What is wrong with a variable, the key looked at first. -/
def variableFault? (key value : String) : Option VariableFault :=
  if key = "" then some .emptyKey
  else if key.toList.contains '=' then some .equalsInKey
  else if hasNul key || hasNul value then some .nul
  else none

/-- The absolute path of a directory that is given to a program. -/
def absoluteDirectory (fs : FileSystem) (guestName path : String) : Except DirectoryFault String :=
  if hasNul guestName then .error .nulInAlias
  else
    match fs.canonicalize path with
    | .error e => .error (.unreachable e)
    | .ok i => if fs.isDirectory i then .ok (fs.pathOf i) else .error .notDirectory

/-! ### Environments -/

structure Environment where
  programName : String
  arguments : List String
  vars : Dictionary String String
  directories : List (String × String)
  input : InputSource
  output : OutputSink
  errors : OutputSink
  deriving DecidableEq, Inhabited

/-- The mapped directories by absolute path, or the first one that cannot be mapped. -/
def absoluteDirectories (fs : FileSystem) :
    List (String × String) → Except StateError (List (String × String))
  | [] => .ok []
  | (guestName, path) :: rest =>
    match absoluteDirectory fs guestName path with
    | .error f => .error (.invalidDirectory guestName path f)
    | .ok absolute =>
      match absoluteDirectories fs rest with
      | .error e => .error e
      | .ok ds => .ok ((guestName, absolute) :: ds)

/-- The environment of what was collected. Arguments are checked first, then variables, then
directories, each in their order. -/
def StateBuilder.finalize (b : StateBuilder) (fs : FileSystem) : Except StateError Environment :=
  match (b.programName :: b.arguments).find? hasNul with
  | some a => .error (.invalidArgument a)
  | none =>
    let fault := b.vars.findSome? fun (k, v) => (variableFault? k v).map fun f => (k, f)
    match fault with
    | some (k, f) => .error (.invalidVariable k f)
    | none =>
      match absoluteDirectories fs b.directories with
      | .error e => .error e
      | .ok directories =>
        .ok ⟨b.programName, b.arguments, b.vars, directories, b.input, b.output, b.errors⟩

/-! ### Inspection -/

def InputSource.inspect : InputSource → String
  | .inherit => "Inherit"
  | .null => "Null"
  | .bytes data => Inspect.variant "Bytes" (Inspect.list (data.map fun b => toString b.toNat))

def inspectPipe (length : Nat) : String :=
  Inspect.record "OutputPipe" [("len", toString length)]

/-- A pipe shows how much it holds at the time. -/
def OutputSink.inspect (s : System) : OutputSink → String
  | .inherit => "Inherit"
  | .null => "Null"
  | .pipe number => Inspect.variant "Pipe" (inspectPipe (s.pipeContents number).length)

/-- The fields that builders and environments have in common. -/
def inspectParts (s : System) (name : String) (arguments : List String)
    (vars directories : List (String × String)) (input : InputSource)
    (output errors : OutputSink) : List (String × String) :=
  [("program_name", Inspect.text name),
    ("arguments", Inspect.list (arguments.map Inspect.text)),
    ("environment", Inspect.list (vars.map fun (k, v) =>
      Inspect.pair (Inspect.text k) (Inspect.text v))),
    ("directories", Inspect.list (directories.map fun (guestName, path) =>
      Inspect.pair (Inspect.text guestName) (Text.Quoted.quotePath path))),
    ("stdin", input.inspect), ("stdout", output.inspect s), ("stderr", errors.inspect s)]

def StateBuilder.inspect (b : StateBuilder) (s : System) : String :=
  Inspect.record "StateBuilder"
    (inspectParts s b.programName b.arguments b.vars b.directories b.input b.output b.errors)

def Environment.inspect (e : Environment) (s : System) : String :=
  Inspect.record "Environment"
    [("inner", Inspect.record "EnvironmentInner"
      (inspectParts s e.programName e.arguments e.vars e.directories e.input e.output
        e.errors))]

end Embedder.Wasi
