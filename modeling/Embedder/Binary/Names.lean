import Embedder.Binary.Sections

/-!
The custom section `name`, which gives the module and its entities names for people to read.

* `Names`: the names of one module;
* `Binary.names`: the names in the custom sections of a module.

A name is never worth an error: what cannot be read ends the reading, and what was read before it
counts. These names may have any length.
-/

namespace Embedder

/-- Names by index; those of locals and labels are first by the index of a function, and those of the
fields of a structure by that of its type. -/
structure Names where
  module : Option String
  functions : List (Nat × String)
  locals : List (Nat × List (Nat × String))
  labels : List (Nat × List (Nat × String))
  types : List (Nat × String)
  tables : List (Nat × String)
  memories : List (Nat × String)
  globals : List (Nat × String)
  elements : List (Nat × String)
  datas : List (Nat × String)
  fields : List (Nat × List (Nat × String))
  tags : List (Nat × String)
  deriving DecidableEq

def Names.empty : Names :=
  { module := none, functions := [], locals := [], labels := [], types := [], tables := [],
    memories := [], globals := [], elements := [], datas := [], fields := [], tags := [] }

namespace Binary

def naming : Decoder (Nat × String) := do
  let index ← u32
  let name ← text
  pure (index, name)

def nameMap : Decoder (List (Nat × String)) := vector naming

def indirectNameMap : Decoder (List (Nat × List (Nat × String))) :=
  vector do
    let index ← u32
    let names ← nameMap
    pure (index, names)

/-- The contents of the part with the given number; unknown parts say nothing. -/
def namePart (number : UInt8) (n : Names) : Decoder Names := do
  match number with
  | 0 => pure { n with module := some (← text) }
  | 1 => pure { n with functions := ← nameMap }
  | 2 => pure { n with locals := ← indirectNameMap }
  | 3 => pure { n with labels := ← indirectNameMap }
  | 4 => pure { n with types := ← nameMap }
  | 5 => pure { n with tables := ← nameMap }
  | 6 => pure { n with memories := ← nameMap }
  | 7 => pure { n with globals := ← nameMap }
  | 8 => pure { n with elements := ← nameMap }
  | 9 => pure { n with datas := ← nameMap }
  | 10 => pure { n with fields := ← indirectNameMap }
  | 11 => pure { n with tags := ← nameMap }
  | _ =>
    let _ ← remaining
    pure n

/-- Reads one part: its number below 128, its size and its contents. -/
def namePartOf (bytes : List UInt8) (n : Names) : Except Fault (Names × List UInt8) := do
  let (number, bytes) ← byte.run bytes
  if 0x80 ≤ number then .error .integerTooLong
  else
    let (contents, bytes) ← byteVector.run bytes
    let (n, _) ← (whole (namePart number n) contents).run []
    .ok (n, bytes)

/-- Reads parts up to the first one that is malformed. -/
def nameParts : (rounds : Nat) → List UInt8 → Names → Names
  | 0, _, n => n
  | rounds + 1, bytes, n =>
    match namePartOf bytes n with
    | .error _ => n
    | .ok (n, bytes) => nameParts rounds bytes n

/-- The names in the custom sections of a module; a later section adds to an earlier one. -/
def names (customs : List CustomSection) : Names :=
  (customs.filter fun c => c.name == "name").foldl
    (fun n c => nameParts c.bytes.length c.bytes n) .empty

end Binary

end Embedder
