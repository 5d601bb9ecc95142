import Embedder.Text.Property

/-!
Text in double quotes, as error messages and inspection output show it: the quote, the backslash
and the usual blanks are written with a backslash, and a character that would not be visible on
its own is written by its number.
-/

namespace Embedder.Text.Quoted

def hexDigits (n : Nat) : List Char := Nat.toDigits 16 n

/-- A character by its number: the letter `u` and the hexadecimal digits in braces. -/
def byNumber (c : Char) : List Char :=
  ['\\', 'u', '\x7b'] ++ hexDigits c.toNat ++ ['\x7d']

def encodeChar (c : Char) : List Char :=
  if c = '\x00' then ['\\', '0']
  else if c = '\t' then ['\\', 't']
  else if c = '\r' then ['\\', 'r']
  else if c = '\n' then ['\\', 'n']
  else if c = '\\' then ['\\', '\\']
  else if c = '"' then ['\\', '"']
  else if Property.extendsGrapheme c then byNumber c
  else if Property.isPrintable c then [c]
  else byNumber c

def encode (cs : List Char) : List Char := cs.flatMap encodeChar

/-- The text between quotes. -/
def quote (s : String) : String := String.ofList ('"' :: encode s.toList ++ ['"'])

/-- The text of a path between quotes; in a path the single quote has a backslash too. -/
def quotePath (path : String) : String :=
  let encoded := path.toList.flatMap fun c => if c = '\'' then ['\\', c] else encodeChar c
  String.ofList ('"' :: encoded ++ ['"'])

end Embedder.Text.Quoted
