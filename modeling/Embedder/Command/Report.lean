import Embedder.Command.Inspect
import Embedder.Command.Run

/-!
What a command prints and how it ends.

* `Report`: the exit code, what is printed, and the files when the command is done;
* `Command.execute`: the report on the command that a list of arguments asks for.
-/

namespace Embedder

structure Report where
  code : Nat
  output : List UInt8
  errors : List UInt8
  files : FileSystem
  deriving DecidableEq

namespace Command

def utf8 (s : String) : List UInt8 := s.toUTF8.toList

/-- The exit code of a command that does not succeed. -/
def failureCode : Nat := 1

/-- The exit code for arguments that are no command. -/
def refusalCode : Nat := 2

/-- The results of a call, each on a line of its own. -/
def resultLines (results : List Value) : String :=
  String.join (results.map fun v => v.text ++ "\n")

/-- The report on a run. Results and failures come after what the program printed. -/
def Conclusion.report (c : Conclusion) (s : Wasi.System) : Report :=
  match c with
  | .returned results => ⟨0, s.printed ++ utf8 (resultLines results), s.printedErrors, s.files⟩
  | .exited code => ⟨code, s.printed, s.printedErrors, s.files⟩
  | .failed f => ⟨failureCode, s.printed, s.printedErrors ++ utf8 f.report, s.files⟩

def report (fs : FileSystem) : Command → Report
  | .inspect file json =>
    match inspectFile fs file json with
    | .error f => ⟨failureCode, [], utf8 f.report, fs⟩
    | .ok text => ⟨0, utf8 text, [], fs⟩
  | .run r =>
    let (c, s) := runRequest fs r
    c.report s

def execute (fs : FileSystem) (arguments : List String) : Report :=
  match ofArguments? arguments with
  | none => ⟨refusalCode, [], utf8 usage, fs⟩
  | some c => c.report fs

/-- The paths that a command works with. -/
def paths : Command → List String
  | .inspect file _ => [file]
  | .run r => r.file :: r.config.toList ++ r.directories.map fun d => (directoryOf d).2

end Command

end Embedder
