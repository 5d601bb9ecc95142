import Embedder.Command
import Embedder.FileSystem
import Embedder.Module
import Embedder.Text.Utf8
import Embedder.Wasi.Version

/-!
The engine and the module that a command works with.

* `Failure`: why a command does not succeed;
* `Command.loadEngine`: an engine by the file with its configuration;
* `Command.loadModule`: a module by its file, after which it is called if it has no name;
* `Command.version?`: tells programs of the system interface from other modules.
-/

namespace Embedder

/-- Why a command does not succeed, and what is behind it unless that says the same. -/
structure Failure where
  message : String
  cause : Option String
  deriving DecidableEq

namespace Failure

def ofMessage (message : String) : Failure := ⟨message, none⟩

/-- The lines of a cause, each behind four blanks. -/
def indented (cause : String) : String :=
  String.ofList ("    ".toList ++
    cause.toList.flatMap fun c => if c = '\n' then "\n    ".toList else [c])

def report (f : Failure) : String :=
  "Error: " ++ f.message ++ "\n" ++
    f.cause.elim "" fun cause => "\nCaused by:\n" ++ indented cause ++ "\n"

def ofConfig : ConfigError → Failure
  | .noStack => .ofMessage ConfigError.noStack.message
  | e => ⟨e.message, some e.reason⟩

end Failure

namespace Command

/-! ### Engines -/

/-- The text of a configuration file. -/
def configText (fs : FileSystem) (path : String) : Except ConfigError String :=
  match fs.read path with
  | .error e => .error (.unreadable e.message)
  | .ok bytes =>
    match Text.Utf8.decode? ⟨bytes.toArray⟩ with
    | some text => .ok text
    | none => .error (.unreadable "stream did not contain valid UTF-8")

/-- The number of the only engine of a command. -/
def engineNumber : Nat := 0

def loadEngine (fs : FileSystem) : Option String → Except Failure Engine
  | none => .ok (.standard engineNumber)
  | some path =>
    match configText fs path with
    | .error e => .error (.ofConfig e)
    | .ok text => (Engine.ofJson engineNumber text).mapError .ofConfig

/-! ### Modules -/

/-- A file's name without what follows the last dot, unless nothing is before that. -/
def stem (name : String) : String :=
  match ((name.toList.reverse.dropWhile (· != '.')).drop 1).reverse with
  | [] => name
  | cs => String.ofList cs

/-- The last name on a path. -/
def fileName (path : String) : String :=
  String.ofList (path.toList.reverse.takeWhile (· != '/')).reverse

/-- The name that a module without one gets from its file. -/
def named (path : String) (m : Module) : Module :=
  match m.name with
  | some _ => m
  | none => m.setName (stem (fileName path))

def loadModule (fs : FileSystem) (e : Engine) (path : String) : Except Failure Module :=
  match fs.read path with
  | .error r => .error ⟨"Failed to read " ++ path, some r.message⟩
  | .ok bytes =>
    match Module.compile e bytes with
    | .error r => .error ⟨"Failed to compile " ++ path, some r.message⟩
    | .ok m => .ok (named path m)

/-- The snapshot of the system interface that a module imports from. -/
def version? (m : Module) : Option Wasi.Version := (Wasi.detect m.imports false).toOption

end Command

end Embedder
