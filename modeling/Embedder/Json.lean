/-!
JSON documents and their two written forms.

* `Json`: a document whose objects keep the order of their members;
* `Json.compact`: without blanks;
* `Json.pretty`: one member or item a line, indented by two blanks a level.
-/

namespace Embedder

inductive Json where
  | null
  | bool (b : Bool)
  | nat (n : Nat)
  | str (s : String)
  | arr (items : List Json)
  | obj (members : List (String × Json))

namespace Json

/-! ### Strings -/

/-- A control character by its number, in four hexadecimal digits. -/
def controlEscape (c : Char) : List Char :=
  let ds := Nat.toDigits 16 c.toNat
  '\\' :: 'u' :: List.replicate (4 - ds.length) '0' ++ ds

def escapeChar (c : Char) : List Char :=
  if c = '"' then ['\\', '"']
  else if c = '\\' then ['\\', '\\']
  else if c = '\n' then ['\\', 'n']
  else if c = '\r' then ['\\', 'r']
  else if c = '\t' then ['\\', 't']
  else if c = '\x08' then ['\\', 'b']
  else if c = '\x0c' then ['\\', 'f']
  else if c.toNat < 0x20 then controlEscape c
  else [c]

def quoted (s : String) : List Char := '"' :: s.toList.flatMap escapeChar ++ ['"']

def literal (b : Bool) : List Char := if b then "true".toList else "false".toList

/-! ### The compact form -/

mutual

def compactChars : Json → List Char
  | .null => "null".toList
  | .bool b => literal b
  | .nat n => Nat.toDigits 10 n
  | .str s => quoted s
  | .arr items => '[' :: compactItems items ++ [']']
  | .obj members => '\x7b' :: compactMembers members ++ ['\x7d']

def compactItems : List Json → List Char
  | [] => []
  | [j] => compactChars j
  | j :: k :: rest => compactChars j ++ ',' :: compactItems (k :: rest)

def compactMembers : List (String × Json) → List Char
  | [] => []
  | [(name, j)] => quoted name ++ ':' :: compactChars j
  | (name, j) :: m :: rest => quoted name ++ ':' :: compactChars j ++ ',' :: compactMembers (m :: rest)

end

def compact (j : Json) : String := String.ofList (compactChars j)

/-! ### The indented form -/

def newline (depth : Nat) : List Char := '\n' :: List.replicate (2 * depth) ' '

mutual

def prettyChars (depth : Nat) : Json → List Char
  | .null => "null".toList
  | .bool b => literal b
  | .nat n => Nat.toDigits 10 n
  | .str s => quoted s
  | .arr [] => ['[', ']']
  | .arr (j :: rest) => '[' :: prettyItems (depth + 1) (j :: rest) ++ newline depth ++ [']']
  | .obj [] => ['\x7b', '\x7d']
  | .obj (m :: rest) => '\x7b' :: prettyMembers (depth + 1) (m :: rest) ++ newline depth ++ ['\x7d']

def prettyItems (depth : Nat) : List Json → List Char
  | [] => []
  | [j] => newline depth ++ prettyChars depth j
  | j :: k :: rest => newline depth ++ prettyChars depth j ++ ',' :: prettyItems depth (k :: rest)

def prettyMembers (depth : Nat) : List (String × Json) → List Char
  | [] => []
  | [(name, j)] => newline depth ++ quoted name ++ ':' :: ' ' :: prettyChars depth j
  | (name, j) :: m :: rest =>
    newline depth ++ quoted name ++ ':' :: ' ' :: prettyChars depth j ++
      ',' :: prettyMembers depth (m :: rest)

end

def pretty (j : Json) : String := String.ofList (prettyChars 0 j)

/-! ### The order of members -/

def insertMember (name : String) (j : Json) : List (String × Json) → List (String × Json)
  | [] => [(name, j)]
  | (other, k) :: rest =>
    if name < other then (name, j) :: (other, k) :: rest
    else (other, k) :: insertMember name j rest

mutual

/-- The same document with the members of every object in ascending order of their names. -/
def sorted : Json → Json
  | .arr items => .arr (sortedItems items)
  | .obj members => .obj (sortedMembers members)
  | j => j

def sortedItems : List Json → List Json
  | [] => []
  | j :: rest => sorted j :: sortedItems rest

def sortedMembers : List (String × Json) → List (String × Json)
  | [] => []
  | (name, j) :: rest => insertMember name (sorted j) (sortedMembers rest)

end

end Json

end Embedder
