import Embedder.Config
import Embedder.Json.Cursor
import Embedder.FloatFormat.Decimal

/-!
Reading a configuration from JSON text.

* `Config.ofJson`: an object with any of the four fields, or an array of the first fields' values;
* `Config.Complaint`: what can be wrong beside faults of the text: a value of another type, an
  unknown name, a field given twice.

A complaint about a value is placed behind what was read of it. One about a member's name is
placed where reading of the object stops.
-/

namespace Embedder.Config

open Json (Fault Position Cursor)

/-! ### Complaints -/

/-- A JSON value as a complaint names it. -/
inductive Found where
  | null
  | bool (b : Bool)
  | number (n : Json.Number)
  | string (s : String)
  | array
  | object
  deriving DecidableEq

inductive Complaint where
  | fault (f : Fault)
  | wrongType (found : Found) (expected : String)
  | wrongValue (n : Int) (expected : String)
  | unknownVariant (name : String)
  | unknownField (name : String)
  | repeatedField (name : String)
  deriving DecidableEq

inductive Field where
  | optimization
  | debugInfo
  | parallelCompilation
  | maxWasmStack
  deriving DecidableEq

def Field.all : List Field := [.optimization, .debugInfo, .parallelCompilation, .maxWasmStack]

def Field.text : Field → String
  | .optimization => "optimization"
  | .debugInfo => "debug_info"
  | .parallelCompilation => "parallel_compilation"
  | .maxWasmStack => "max_wasm_stack"

def Field.ofText? (s : String) : Option Field := Field.all.find? fun f => f.text == s

/-- A floating-point number with the fewest digits, always with a point or an exponent: positional
from 1e-5 up to below 1e16. -/
def floatText (bits : Nat) : String :=
  let f := FloatFormat.binary64
  let sign := if f.isNegative bits then "-" else ""
  let magnitude := f.magnitude bits
  if magnitude = 0 then sign ++ "0.0"
  else
    let (d, e) := f.shortest magnitude
    let (d, e) := Decimal.trimZeros d e
    let ds := Decimal.ofNat d
    let point : Int := ds.length + e
    if -5 < point ∧ point ≤ 16 then
      sign ++ String.ofList (Decimal.positional ds e) ++ if 0 ≤ e then ".0" else ""
    else
      let fraction := match ds.drop 1 with
        | [] => []
        | more => '.' :: more
      sign ++ String.ofList (ds.take 1 ++ fraction ++ 'e' :: Decimal.ofInt (point - 1))

def Found.text : Found → String
  | .null => "null"
  | .bool b => "boolean `" ++ (if b then "true" else "false") ++ "`"
  | .number (.unsigned n) => "integer `" ++ toString n ++ "`"
  | .number (.negative n) => "integer `" ++ toString n ++ "`"
  | .number (.float bits) => "floating point `" ++ floatText bits ++ "`"
  | .string s => "string " ++ Text.Quoted.quote s
  | .array => "sequence"
  | .object => "map"

/-- Names in backquotes, separated by commas. -/
def nameList : List String → String
  | [] => ""
  | [s] => "`" ++ s ++ "`"
  | s :: rest => "`" ++ s ++ "`, " ++ nameList rest

def Complaint.text : Complaint → String
  | .fault f => f.text
  | .wrongType found expected => "invalid type: " ++ found.text ++ ", expected " ++ expected
  | .wrongValue n expected => "invalid value: integer `" ++ toString n ++ "`, expected " ++ expected
  | .unknownVariant name => "unknown variant `" ++ name ++ "`, expected one of " ++
      nameList [Optimization.none.text, Optimization.speed.text, Optimization.speedAndSize.text]
  | .unknownField name => "unknown field `" ++ name ++ "`, expected one of " ++
      nameList (Field.all.map Field.text)
  | .repeatedField name => "duplicate field `" ++ name ++ "`"

/-- A complaint and its place. -/
structure Rejection where
  complaint : Complaint
  position : Position
  deriving DecidableEq

def Rejection.text (r : Rejection) : String :=
  r.complaint.text ++ " at line " ++ toString r.position.line ++ " column " ++
    toString r.position.column

abbrev Reading := Except Rejection

def reject {α : Type} (c : Complaint) (p : Position) : Reading α := .error ⟨c, p⟩

def faultAt {α : Type} (f : Fault) (p : Position) : Reading α := reject (.fault f) p

def lift {α : Type} : Json.Reading α → Reading α
  | .ok a => .ok a
  | .error (f, p) => faultAt f p

/-! ### Single values -/

/-- Reads what stands in the place of a value of the type `expected`, to complain about it. -/
def rejectValue {α : Type} (expected : String) (c : Cursor) : Reading α :=
  let wrong (found : Found) (c : Cursor) : Reading α :=
    reject (.wrongType found expected) c.position
  match Json.peek? c with
  | some 'n' => do
    let ((), c) ← lift (Json.readWord "ull".toList c.next)
    wrong .null c
  | some 't' => do
    let ((), c) ← lift (Json.readWord "rue".toList c.next)
    wrong (.bool true) c
  | some 'f' => do
    let ((), c) ← lift (Json.readWord "alse".toList c.next)
    wrong (.bool false) c
  | some '-' => do
    let (n, c) ← lift (Json.readNumber false c.next)
    wrong (.number n) c
  | some '"' => do
    let (s, c) ← lift (Json.readString c.next)
    wrong (.string s) c
  | some '[' => wrong .array c
  | some '\x7b' => wrong .object c
  | some x =>
    if x.isDigit then do
      let (n, c) ← lift (Json.readNumber true c)
      wrong (.number n) c
    else faultAt .expectedValue c.nextBytePosition
  | none => faultAt .expectedValue c.nextBytePosition

def readBool (c : Cursor) : Reading (Bool × Cursor) :=
  let c := c.skipBlanks
  match Json.peek? c with
  | none => faultAt .endInValue c.position
  | some 't' => do
    let ((), c) ← lift (Json.readWord "rue".toList c.next)
    .ok (true, c)
  | some 'f' => do
    let ((), c) ← lift (Json.readWord "alse".toList c.next)
    .ok (false, c)
  | _ => rejectValue "a boolean" c

/-- A size: a number of 64 bits without a sign, a point or an exponent. -/
def sizeOfNumber (n : Json.Number) (c : Cursor) : Reading (Nat × Cursor) :=
  match n with
  | .unsigned n => .ok (n, c)
  | .negative n => reject (.wrongValue n "usize") c.position
  | .float _ => reject (.wrongType (.number n) "usize") c.position

def readSize (c : Cursor) : Reading (Nat × Cursor) :=
  let c := c.skipBlanks
  match Json.peek? c with
  | none => faultAt .endInValue c.position
  | some '-' => do
    let (n, c) ← lift (Json.readNumber false c.next)
    sizeOfNumber n c
  | some x =>
    if x.isDigit then do
      let (n, c) ← lift (Json.readNumber true c)
      sizeOfNumber n c
    else rejectValue "usize" c

def readOptionalSize (c : Cursor) : Reading (Option Nat × Cursor) :=
  let c := c.skipBlanks
  match Json.peek? c with
  | some 'n' => do
    let ((), c) ← lift (Json.readWord "ull".toList c.next)
    .ok (none, c)
  | _ => do
    let (n, c) ← readSize c
    .ok (some n, c)

/-- The name of an optimization, in quotes. -/
def readVariant (c : Cursor) : Reading (Optimization × Cursor) :=
  let c := c.skipBlanks
  match Json.peek? c with
  | none => faultAt .endInValue c.position
  | some '"' => do
    let (s, c) ← lift (Json.readString c.next)
    match Optimization.ofText? s with
    | some o => .ok (o, c)
    | none => reject (.unknownVariant s) c.position
  | _ => rejectValue "variant identifier" c

def readColon (c : Cursor) : Reading Cursor :=
  let c := c.skipBlanks
  match Json.peek? c with
  | some ':' => .ok c.next
  | some _ => faultAt .expectedColon c.nextBytePosition
  | none => faultAt .endInObject c.position

def readNull (c : Cursor) : Reading Cursor :=
  let c := c.skipBlanks
  match Json.peek? c with
  | none => faultAt .endInValue c.position
  | some 'n' => do
    let ((), c) ← lift (Json.readWord "ull".toList c.next)
    .ok c
  | _ => rejectValue "unit" c

/-- A name, or an object whose one member has the name and the value null. -/
def readOptimization (c : Cursor) : Reading (Optimization × Cursor) :=
  let c := c.skipBlanks
  match Json.peek? c with
  | none => faultAt .endInValue c.position
  | some '"' => readVariant c
  | some '\x7b' => do
    let (o, c) ← readVariant c.next
    let c ← readColon c
    let c ← readNull c
    let c := c.skipBlanks
    match Json.peek? c with
    | some '\x7d' => .ok (o, c.next)
    | some _ => faultAt .expectedValue c.position
    | none => faultAt .endInObject c.position
  | some _ => faultAt .expectedValue c.nextBytePosition

/-! ### The fields -/

/-- The fields that have been read so far. -/
structure Given where
  optimization : Option Optimization
  debugInfo : Option Bool
  parallelCompilation : Option Bool
  maxWasmStack : Option (Option Nat)
  deriving DecidableEq

namespace Given

def empty : Given := ⟨none, none, none, none⟩

def has (g : Given) : Field → Bool
  | .optimization => g.optimization.isSome
  | .debugInfo => g.debugInfo.isSome
  | .parallelCompilation => g.parallelCompilation.isSome
  | .maxWasmStack => g.maxWasmStack.isSome

/-- A field that was not given has its standard value. -/
def complete (g : Given) : Config :=
  { optimization := g.optimization.getD standard.optimization
    debugInfo := g.debugInfo.getD standard.debugInfo
    parallelCompilation := g.parallelCompilation.getD standard.parallelCompilation
    maxWasmStack := g.maxWasmStack.getD standard.maxWasmStack }

def read (g : Given) (f : Field) (c : Cursor) : Reading (Given × Cursor) :=
  match f with
  | .optimization => do
    let (v, c) ← readOptimization c
    .ok ({ g with optimization := some v }, c)
  | .debugInfo => do
    let (v, c) ← readBool c
    .ok ({ g with debugInfo := some v }, c)
  | .parallelCompilation => do
    let (v, c) ← readBool c
    .ok ({ g with parallelCompilation := some v }, c)
  | .maxWasmStack => do
    let (v, c) ← readOptionalSize c
    .ok ({ g with maxWasmStack := some v }, c)

end Given

/-! ### Objects -/

/-- The closing brace. Whether it is there or not, reading stops at the cursor given back. -/
def closeObject (c : Cursor) : Reading Unit × Cursor :=
  let c := c.skipBlanks
  match Json.peek? c with
  | some '\x7d' => (.ok (), c.next)
  | some ',' => (faultAt .trailingComma c.nextBytePosition, c)
  | some _ => (faultAt .trailingCharacters c.nextBytePosition, c)
  | none => (faultAt .endInObject c.position, c)

/-- Whether another member follows; if so the cursor given back is at its name. -/
def memberFollows (first : Bool) (c : Cursor) : Reading (Bool × Cursor) :=
  let c := c.skipBlanks
  match Json.peek? c with
  | none => faultAt .endInObject c.position
  | some '\x7d' => .ok (false, c)
  | some x =>
    if first then
      if x = '"' then .ok (true, c) else faultAt .keyMustBeString c.nextBytePosition
    else if x ≠ ',' then faultAt .expectedObjectCommaOrEnd c.nextBytePosition
    else
      let c := c.next.skipBlanks
      match Json.peek? c with
      | some '"' => .ok (true, c)
      | some '\x7d' => faultAt .trailingComma c.nextBytePosition
      | some _ => faultAt .keyMustBeString c.nextBytePosition
      | none => faultAt .endInValue c.position

/-- A complaint about a member's name: placed where an attempt to close the object stops. -/
def rejectMember {α : Type} (complaint : Complaint) (c : Cursor) : Reading α :=
  reject complaint (closeObject c).2.position

/-- The members of an object up to its closing brace. Each of them takes a character at least. -/
def readMembers : (rounds : Nat) → (first : Bool) → Given → Cursor → Reading (Given × Cursor)
  | 0, _, _, c => faultAt .endInObject c.position
  | rounds + 1, first, g, c => do
    let (more, c) ← memberFollows first c
    if !more then
      let (closed, c) := closeObject c
      let () ← closed
      .ok (g, c)
    else
      let (name, c) ← lift (Json.readString c.next)
      match Field.ofText? name with
      | none => rejectMember (.unknownField name) c
      | some f =>
        if g.has f then rejectMember (.repeatedField name) c
        else
          let c ← readColon c
          let (g, c) ← g.read f c
          readMembers rounds false g c

/-! ### Arrays -/

/-- Whether another item follows; if so the cursor given back is before it. -/
def itemFollows (first : Bool) (c : Cursor) : Reading (Bool × Cursor) :=
  let c := c.skipBlanks
  match Json.peek? c with
  | none => faultAt .endInList c.position
  | some ']' => .ok (false, c)
  | some x =>
    if first then .ok (true, c)
    else if x ≠ ',' then faultAt .expectedListCommaOrEnd c.nextBytePosition
    else
      let c := c.next.skipBlanks
      match Json.peek? c with
      | some ']' => faultAt .trailingComma c.nextBytePosition
      | some _ => .ok (true, c)
      | none => faultAt .endInValue c.position

def closeArray (c : Cursor) : Reading Cursor :=
  let c := c.skipBlanks
  match Json.peek? c with
  | some ']' => .ok c.next
  | some ',' =>
    let c := c.next.skipBlanks
    match Json.peek? c with
    | some ']' => faultAt .trailingComma c.nextBytePosition
    | _ => faultAt .trailingCharacters c.nextBytePosition
  | some _ => faultAt .trailingCharacters c.nextBytePosition
  | none => faultAt .endInList c.position

/-- The values of the given fields in their order, as many as the array has. -/
def readItems (first : Bool) (g : Given) (c : Cursor) : List Field → Reading (Given × Cursor)
  | [] => do
    let c ← closeArray c
    .ok (g, c)
  | f :: fs => do
    let (more, c) ← itemFollows first c
    if !more then
      let c ← closeArray c
      .ok (g, c)
    else
      let (g, c) ← g.read f c
      readItems false g c fs

/-! ### The whole text -/

def readGiven (c : Cursor) : Reading (Given × Cursor) :=
  let c := c.skipBlanks
  match Json.peek? c with
  | none => faultAt .endInValue c.position
  | some '[' => readItems true .empty c.next Field.all
  | some '\x7b' => readMembers (c.rest.length + 1) true .empty c.next
  | some _ => rejectValue "struct StoreConfig" c

/-- The configuration that a JSON text describes. -/
def ofJson (s : String) : Except Rejection Config := do
  let (g, c) ← readGiven (Cursor.ofString s)
  let c := c.skipBlanks
  match Json.peek? c with
  | some _ => faultAt .trailingCharacters c.nextBytePosition
  | none => .ok g.complete

end Embedder.Config
