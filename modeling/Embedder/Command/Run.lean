import Embedder.Command.Loading
import Embedder.Instance
import Embedder.Value.Text

/-!
Calling a function of a module.

* `Command.importsFor`: what the module is instantiated with;
* `Command.callOf`: the function to call and the values for it;
* `Command.runRequest`: how the call ends, and what the program printed and wrote until then.
-/

namespace Embedder.Command

open Wasi (StateBuilder Environment)

/-! ### The environment of a program -/

/-- What is before and what is behind the first place where `separator` is found. -/
def splitOnce? (separator : List Char) : List Char → Option (List Char × List Char)
  | [] => none
  | c :: cs =>
    if separator.isPrefixOf (c :: cs) then some ([], (c :: cs).drop separator.length)
    else (splitOnce? separator cs).map fun (before, behind) => (c :: before, behind)

/-- Sets the variable that is written as its name, an equality sign and its value. -/
def addVariable (b : StateBuilder) (text : String) : Except Failure StateBuilder :=
  match splitOnce? ['='] text.toList with
  | some (key, value) => .ok (b.setVariable (String.ofList key) (String.ofList value))
  | none => .error (.ofMessage ("Invalid --env '" ++ text ++ "', expected KEY=VALUE"))

/-- The name that a program knows a directory by, and its path; a path alone is both. -/
def directoryOf (text : String) : String × String :=
  match splitOnce? [':', ':'] text.toList with
  | some (guestName, path) => (String.ofList guestName, String.ofList path)
  | none => (text, text)

def addVariables (b : StateBuilder) : List String → Except Failure StateBuilder
  | [] => .ok b
  | text :: rest =>
    match addVariable b text with
    | .error f => .error f
    | .ok b => addVariables b rest

/-- The environment that a request gives to a program. -/
def environmentFor (fs : FileSystem) (m : Module) (r : CallRequest) : Except Failure Environment :=
  let b := (StateBuilder.create (m.name.getD "main")).addArguments r.arguments
  match addVariables b r.vars with
  | .error f => .error f
  | .ok b =>
    ((b.mapDirectories (r.directories.map directoryOf)).finalize fs).mapError fun e =>
      .ofMessage e.message

/-- What a module is instantiated with: programs get their snapshot of the system interface, other
modules nothing. -/
def importsFor (fs : FileSystem) (m : Module) (r : CallRequest) :
    Except Failure (ImportObject Unit) :=
  match version? m with
  | none => .ok .empty
  | some v => (environmentFor fs m r).map fun env => env.generate m.engine v

/-! ### The call -/

/-- The values that texts write for the parameters of the given types. -/
def parseArguments : List ValueType → List String → Except Failure (List Value)
  | t :: types, text :: texts =>
    match Value.parse? t text with
    | none => .error (.ofMessage ("Cannot parse '" ++ text ++ "' as " ++ t.text))
    | some v => (parseArguments types texts).map (v :: ·)
  | _, _ => .ok []

def callArguments (t : FunctionType) (texts : List String) : Except Failure (List Value) :=
  if t.params.length = texts.length then parseArguments t.params texts
  else
    .error (.ofMessage ("Expected " ++ toString t.params.length ++ " argument(s), got " ++
      toString texts.length))

/-- The function that a request names; programs have one that they start with. -/
def functionName (m : Module) (r : CallRequest) : Except Failure String :=
  match r.function, version? m with
  | some name, _ => .ok name
  | none, some _ => .ok "_start"
  | none, none =>
    .error (.ofMessage "--invoke is required for modules that are not WASI programs")

/-- The function to call and the values for it. Programs find their arguments in the environment,
so their functions get none. -/
def callOf (i : Instance) (r : CallRequest) : Except Failure (Handle FunctionType × List Value) :=
  match functionName i.module r with
  | .error f => .error f
  | .ok name =>
    match i.exports.function name with
    | .error e => .error (.ofMessage e.message)
    | .ok h =>
      match version? i.module with
      | some _ => .ok (h, [])
      | none => (callArguments h.type r.arguments).map fun values => (h, values)

/-! ### The run -/

inductive Conclusion where
  | returned (results : List Value)
  | exited (code : Nat)
  | failed (f : Failure)
  deriving DecidableEq

/-- What the end of a call means for the run. -/
def Conclusion.ofCall : World.Ended (Except CallError (List Value)) → Conclusion
  | .done (.ok results) => .returned results
  | .done (.error (.exit code)) => .exited code
  | .done (.error e) => .failed (.ofMessage e.message)
  | .failed message => .failed (.ofMessage message)
  | .panicked => .failed (.ofMessage "panic")

def runIn (w : World Unit) (i : Instance) (r : CallRequest) : Conclusion × World Unit :=
  match callOf i r with
  | .error f => (.failed f, w)
  | .ok (h, values) =>
    let (ended, w) := w.perform (h.call values)
    (.ofCall ended, w)

/-- Instantiates a module for a request and makes the call. -/
def runModule (s : Wasi.System) (m : Module) (o : ImportObject Unit) (r : CallRequest) :
    Conclusion × Wasi.System :=
  match (World.create () s).instantiate m o with
  | (.made i, w) =>
    let (c, w) := runIn w i r
    (c, w.system)
  | (.refused e, w) => (.failed (.ofMessage e.message), w.system)
  | (.panicked, w) => (.failed (.ofMessage "panic"), w.system)

/-- The module of a request and what it is instantiated with. The configuration is read first, then
the module, then the environment. -/
def prepare (fs : FileSystem) (r : CallRequest) : Except Failure (Module × ImportObject Unit) :=
  match loadEngine fs r.config with
  | .error f => .error f
  | .ok e =>
    match loadModule fs e r.file with
    | .error f => .error f
    | .ok m => (importsFor fs m r).map fun o => (m, o)

def runRequest (fs : FileSystem) (r : CallRequest) : Conclusion × Wasi.System :=
  match prepare fs r with
  | .error f => (.failed f, .ofFiles fs)
  | .ok (m, o) => runModule (.ofFiles fs) m o r

end Embedder.Command
