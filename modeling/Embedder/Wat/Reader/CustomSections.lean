import Embedder.Wat.Reader.Instructions

/-!
Reading the annotations that stand for custom sections.

* `Wat.customField`: a section by its name and its bytes, at any place;
* `Wat.producersField`: the tools that made the module, at the end;
* `Wat.linkingField`: what a dynamic linker has to know, in front of everything else.
-/

namespace Embedder.Wat

open Binary (nameBytes sizedBytes unsignedBytes vectorBytes)

/-! ### Bytes under a name -/

def sectionKind : Reading SectionKind := do
  if ← takeKeyword "type" then return .types
  else if ← takeKeyword "import" then return .imports
  else if ← takeKeyword "func" then return .functions
  else if ← takeKeyword "table" then return .tables
  else if ← takeKeyword "memory" then return .memories
  else if ← takeKeyword "global" then return .globals
  else if ← takeKeyword "export" then return .exports
  else if ← takeKeyword "start" then return .start
  else if ← takeKeyword "elem" then return .elements
  else if ← takeKeyword "code" then return .code
  else if ← takeKeyword "data" then return .datas
  else if ← takeKeyword "tag" then return .tags
  else fail

def customPlace : Reading CustomPlace := do
  if (← peek) = .opening then
    parens do
      if ← takeKeyword "before" then
        if ← takeKeyword "first" then return .first else return .before (← sectionKind)
      else if ← takeKeyword "after" then
        if ← takeKeyword "last" then return .last else return .after (← sectionKind)
      else fail
  else return .last

def customField : Reading Field := do
  expect (.note "custom")
  let name ← text
  let place ← customPlace
  return .custom name place (← untilClosing bytes).flatten

/-! ### Producers -/

/-- What producers are listed under, in the order of the section. -/
def producerKinds : List String := ["language", "sdk", "processed-by"]

/-- A tool and its version, and what they are listed under. -/
def producer : Reading (String × String × String) :=
  parens do
    match ← peek with
    | .keyword w =>
      if producerKinds.contains w then
        advance
        return (w, ← text, ← text)
      else fail
    | _ => fail

/-- The lists that are not empty. -/
def producersBytes (ps : List (String × String × String)) : List UInt8 :=
  let lists := producerKinds.filterMap fun kind =>
    let tools := (ps.filter fun p => p.1 == kind).map Prod.snd
    if tools.isEmpty then none else some (kind, tools)
  let toolBytes := fun (t : String × String) => nameBytes t.1 ++ nameBytes t.2
  vectorBytes (fun l => nameBytes l.1 ++ vectorBytes toolBytes l.2) lists

def producersField : Reading Field := do
  expect (.note "producers")
  return .custom "producers" .last (producersBytes (← untilClosing producer))

/-! ### Dynamic linking -/

/-- A part of the section: its number and its entries. Entries of neighbours with the same number
may become one part. -/
structure LinkingPart where
  number : UInt8
  merges : Bool
  entries : List (List UInt8)

/-- The bits that say what a symbol is like. -/
def symbolFlags : List (String × Nat) :=
  [("binding-weak", 0x01), ("binding-local", 0x02), ("visibility-hidden", 0x04),
    ("undefined", 0x10), ("exported", 0x20), ("explicit-name", 0x40), ("no-strip", 0x80)]

def symbolFlag : Reading Nat := do
  match ← peek with
  | .keyword w =>
    match symbolFlags.lookup w with
    | some bit =>
      advance
      return bit
    | none => fail
  | _ => natural 32

def symbolBytes (names : List String) : Reading (List UInt8) := do
  let flags := (← untilClosing symbolFlag).foldl (· ||| ·) 0
  return names.flatMap nameBytes ++ unsignedBytes flags

/-- A size and an alignment; without them both are zero. -/
def sizeAndAlign (keyword : String) : Reading (List UInt8) := do
  if ← aheadIs [keyword] then
    parens do
      expectKeyword keyword
      return unsignedBytes (← natural 32) ++ unsignedBytes (← natural 32)
  else return [0, 0]

def linkingPart : Reading LinkingPart :=
  parens do
    if ← takeKeyword "mem-info" then
      return ⟨1, false, [← sizeAndAlign "memory", ← sizeAndAlign "table"]⟩
    else if ← takeKeyword "needed" then return ⟨2, false, (← untilClosing text).map nameBytes⟩
    else if ← takeKeyword "export-info" then return ⟨3, true, [← symbolBytes [← text]]⟩
    else if ← takeKeyword "import-info" then
      return ⟨4, true, [← symbolBytes [← text, ← text]]⟩
    else fail

def mergeParts : List LinkingPart → List LinkingPart
  | [] => []
  | p :: ps =>
    match mergeParts ps with
    | q :: qs =>
      if p.merges ∧ p.number = q.number then { p with entries := p.entries ++ q.entries } :: qs
      else p :: q :: qs
    | [] => [p]

/-- Sizes stand alone and all else in vectors. -/
def LinkingPart.bytes (p : LinkingPart) : List UInt8 :=
  p.number :: sizedBytes (if p.number = 1 then p.entries.flatten else vectorBytes id p.entries)

def linkingField : Reading Field := do
  expect (.note "dylink.0")
  let parts ← untilClosing linkingPart
  return .custom "dylink.0" .first ((mergeParts parts).flatMap LinkingPart.bytes)

end Embedder.Wat
