import Embedder.Action

/-!
Calling exported functions.

* `SignatureFault`: what keeps a call from being made, in the order in which it is looked for;
* `Handle.call`: calls a function of an instance at rest;
* `CallError`: why there are no results.
-/

namespace Embedder

open Execution (Stop)

/-! ### Signatures -/

/-- Why arguments and results do not pass between host and guest. -/
inductive SignatureFault where
  | referenceResult (index : Nat) (type : ValueType)
  | argumentCount (expected actual : Nat)
  | argumentType (index : Nat) (expected actual : ValueType)
  | unreadableResults
  deriving DecidableEq

def SignatureFault.text : SignatureFault → String
  | .referenceResult i t =>
    "result " ++ toString i ++ " is a " ++ t.text ++ ", which cannot be returned to the host"
  | .argumentCount expected actual =>
    "expected " ++ toString expected ++ " argument(s), got " ++ toString actual
  | .argumentType i expected actual =>
    "argument " ++ toString i ++ " should be " ++ expected.text ++ ", got " ++ actual.text
  | .unreadableResults => "reference results cannot be returned to the host"

/-- The first result that is a reference, counted from `i`. -/
def referenceResult? (i : Nat) : List ValueType → Option SignatureFault
  | [] => none
  | t :: rest => if t.isReference then some (.referenceResult i t) else referenceResult? (i + 1) rest

/-- The first argument of another type, counted from `i`. -/
def argumentFault? (i : Nat) : List ValueType → List Value → Option SignatureFault
  | t :: types, v :: values =>
    if v.type = t then argumentFault? (i + 1) types values else some (.argumentType i t v.type)
  | _, _ => none

/-- What keeps a function of a type from being called with the given arguments. -/
def FunctionType.fault? (t : FunctionType) (arguments : List Value) : Option SignatureFault :=
  match referenceResult? 0 t.results with
  | some f => some f
  | none =>
    if arguments.length = t.params.length then argumentFault? 0 t.params arguments
    else some (.argumentCount t.params.length arguments.length)

/-! ### Calls -/

/-- What a host is told when it uses an instance from a function that the instance has called. -/
def reentrantMessage : String :=
  "re-entrant access to a running instance from one of its host functions"

inductive CallError where
  | signatureMismatch (expected : FunctionType) (f : SignatureFault)
  | trap (message : String)
  | exit (code : Nat)
  | reentrant
  deriving DecidableEq

def CallError.message : CallError → String
  | .signatureMismatch expected f => "signature mismatch calling " ++ expected.text ++ ": " ++ f.text
  | .trap message => "trap: " ++ message
  | .exit code => "program exited with code " ++ toString code
  | .reentrant => reentrantMessage

/-- The message of a stop that is no exit. -/
def Execution.Stop.message : Stop → String
  | .fault (.trap t) => t.message
  | .fault .stuck => "unsupported instruction"
  | .failed message => message
  | .exited code => "program exited with code " ++ toString code
  | .engine message => message
  | .panicked => "panic"
  | .outOfFuel => "out of fuel"

def CallError.ofStop : Stop → CallError
  | .exited code => .exit code
  | s => .trap s.message

/-- The results of a call for the host. -/
def CallError.results (t : FunctionType) :
    Option (Except Stop (List Cell)) → Except CallError (List Value)
  | none => .error .reentrant
  | some (.error s) => .error (.ofStop s)
  | some (.ok cells) =>
    match cells.mapM Cell.toValue? with
    | some values => .ok values
    | none => .error (.signatureMismatch t .unreadableResults)

/-- Calls a function. A call whose signature does not fit is not made. -/
def Handle.call {σ : Type} (h : Handle FunctionType) (arguments : List Value) :
    Action σ (Except CallError (List Value)) :=
  match h.type.fault? arguments with
  | some f => .done (.error (.signatureMismatch h.type f))
  | none => .call h.address arguments fun a => .done (CallError.results h.type a)

/-! ### By name -/

/-- Why a function cannot be called by name. -/
inductive InvokeError where
  | exports (e : ExportError)
  | call (e : CallError)
  deriving DecidableEq

/-- Calls the exported function of a name. -/
def Exports.invoke {σ : Type} (es : Exports) (name : String) (arguments : List Value) :
    Action σ (Except InvokeError (List Value)) :=
  match es.function name with
  | .error e => .done (.error (.exports e))
  | .ok h => do return (← h.call arguments).mapError .call

end Embedder
