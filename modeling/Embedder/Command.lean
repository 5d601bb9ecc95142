/-!
What can be asked for on the command line.

* `Command`: showing what a module imports and exports, or calling a function that it exports;
* `Word`: how a single argument is read;
* `Command.ofArguments?`: the command that a list of arguments asks for, if they are one.
-/

namespace Embedder

/-- A call to a function of the module in `file`. Programs of the system interface are given the
arguments, variables and directories; other functions get the arguments as values. -/
structure CallRequest where
  file : String
  function : Option String
  vars : List String
  directories : List String
  config : Option String
  arguments : List String
  deriving DecidableEq

inductive Command where
  | inspect (file : String) (json : Bool)
  | run (r : CallRequest)
  deriving DecidableEq

namespace Command

/-! ### Words -/

/-- What a word is before the separator. Only a word without a dash in front, or a dash alone, can
be the value of an option or stand for itself. -/
inductive Word where
  | separator
  | option (name : String) (value : Option String)
  | letters
  | plain (s : String)
  deriving DecidableEq

/-- The name of an option, and the value behind the first equality sign if there is one. -/
def optionParts (cs : List Char) : String × Option String :=
  match cs.dropWhile (· != '=') with
  | [] => (String.ofList cs, none)
  | _ :: value => (String.ofList (cs.takeWhile (· != '=')), some (String.ofList value))

def Word.ofText (s : String) : Word :=
  match s.toList with
  | ['-', '-'] => .separator
  | '-' :: '-' :: cs =>
    let (name, value) := optionParts cs
    .option name value
  | ['-'] => .plain s
  | '-' :: _ => .letters
  | _ => .plain s

/-! ### Subcommands -/

/-- The words behind a subcommand: options without and with values, the plain words among them,
and all words behind the separator. -/
structure Words where
  flags : List String
  options : List (String × String)
  plain : List String
  rest : List String
  deriving DecidableEq

namespace Words

def none : Words := ⟨[], [], [], []⟩

def addFlag (name : String) (ws : Words) : Words := { ws with flags := name :: ws.flags }

def addOption (name value : String) (ws : Words) : Words :=
  { ws with options := (name, value) :: ws.options }

def addPlain (s : String) (ws : Words) : Words := { ws with plain := s :: ws.plain }

/-- Sorts the words behind a subcommand that has the given options without and with values. -/
def ofList? (flags valued : List String) : List String → Option Words
  | [] => some none
  | w :: ws =>
    match Word.ofText w with
    | .separator => some { none with rest := ws }
    | .letters => Option.none
    | .plain s => (ofList? flags valued ws).map (addPlain s)
    | .option name (some value) =>
      if name ∈ valued then (ofList? flags valued ws).map (addOption name value) else Option.none
    | .option name Option.none =>
      if name ∈ flags then (ofList? flags valued ws).map (addFlag name)
      else if name ∈ valued then
        match ws with
        | [] => Option.none
        | v :: ws =>
          match Word.ofText v with
          | .plain value => (ofList? flags valued ws).map (addOption name value)
          | _ => Option.none
      else Option.none

/-- The values of an option in their order. -/
def values (ws : Words) (name : String) : List String :=
  (ws.options.filter fun o => o.1 == name).map Prod.snd

/-- The value of an option that may be missing but not repeated. -/
def value? (ws : Words) (name : String) : Option (Option String) :=
  match ws.values name with
  | [] => some Option.none
  | [v] => some (some v)
  | _ => Option.none

end Words

/-- The one file of a command. -/
def file? : List String → Option String
  | [file] => if file = "" then none else some file
  | _ => none

def inspectOf? (ws : Words) : Option Command :=
  match file? (ws.plain ++ ws.rest), ws.flags with
  | some file, [] => some (.inspect file false)
  | some file, [_] => some (.inspect file true)
  | _, _ => none

def runOf? (ws : Words) : Option Command :=
  match file? ws.plain, ws.value? "invoke", ws.value? "config" with
  | some file, some function, some config =>
    if config = some "" then none
    else
      some (.run ⟨file, function, ws.values "env", ws.values "dir", config, ws.rest⟩)
  | _, _, _ => none

/-- The command that the arguments ask for. The subcommand comes first; options and plain words
follow in any order, and behind a separator there are no options. -/
def ofArguments? : List String → Option Command
  | "inspect" :: ws => (Words.ofList? ["json"] [] ws).bind inspectOf?
  | "run" :: ws => (Words.ofList? [] ["invoke", "env", "dir", "config"] ws).bind runOf?
  | _ => none

/-- How commands are written. -/
def usage : String :=
  "usage: inspect FILE [--json]\n" ++
  "       run FILE [--invoke NAME] [--env KEY=VALUE]... [--dir ALIAS::PATH]... [--config FILE]\n" ++
  "           [-- ARGUMENTS...]\n"

end Command

end Embedder
