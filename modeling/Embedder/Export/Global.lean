import Embedder.Export.Function

/-!
Exported globals and tables.

* `Handle.get`, `Handle.set`: a global of a number or vector type can be read, and written if it is
  mutable;
* `Handle.elementCount`: the size of a table.
-/

namespace Embedder

inductive GlobalError where
  | immutable
  | typeMismatch (expected actual : ValueType)
  | unreadable (type : ValueType)
  | reentrant
  deriving DecidableEq

def GlobalError.message : GlobalError → String
  | .immutable => "global is immutable"
  | .typeMismatch expected actual =>
    "global has type " ++ expected.text ++ ", got a " ++ actual.text ++ " value"
  | .unreadable t => "global access failed: cannot read a " ++ t.text ++ " global"
  | .reentrant => reentrantMessage

namespace Handle

variable {σ : Type}

def get (h : Handle GlobalType) : Action σ (Except GlobalError Value) :=
  .operate h.address.owner (.globalGet h.address.index) fun
    | none => .done (.error .reentrant)
    | some cell =>
      match cell.toValue? with
      | some v => .done (.ok v)
      | none => .done (.error (.unreadable h.type.value))

/-- Writes a value of the global's type to a mutable global. -/
def set (h : Handle GlobalType) (v : Value) : Action σ (Except GlobalError Unit) :=
  if h.type.mutable then
    if v.type = h.type.value then
      .operate h.address.owner (.globalSet h.address.index v) fun
        | none => .done (.error .reentrant)
        | some () => .done (.ok ())
    else .done (.error (.typeMismatch h.type.value v.type))
  else .done (.error .immutable)

/-- The number of elements of a table; a running instance does not tell. -/
def elementCount (h : Handle TableType) : Action σ (Option Nat) :=
  .operate h.address.owner (.tableSize h.address.index) .done

end Handle

end Embedder
