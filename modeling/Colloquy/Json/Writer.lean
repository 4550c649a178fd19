import Colloquy.Json.Basic

/-!
# Writing JSON

A value is written without white space; what is unusable is written as `null`. In strings the quote,
the backslash and the control characters are escaped, and so are the three characters outside ASCII
that end a line.
-/

namespace Colloquy

namespace Json

/-- A hexadecimal digit. -/
def hexDigit (n : Nat) : Char :=
  if n < 10 then Char.ofNat ('0'.toNat + n) else Char.ofNat ('a'.toNat + (n - 10))

/-- The escape of a character by its code point, in four hexadecimal digits. -/
def unicodeEscape (c : Char) : Text :=
  let n := c.toNat
  ['\\', 'u', hexDigit (n / 4096 % 16), hexDigit (n / 256 % 16), hexDigit (n / 16 % 16),
    hexDigit (n % 16)]

/-- The characters that are always written by their code point. -/
def isEscaped (c : Char) : Bool :=
  c.toNat < 0x20 || c.toNat = 0x85 || c.toNat = 0x2028 || c.toNat = 0x2029

/-- A character as it is written in a string. -/
def escape (c : Char) : Text :=
  if c = '"' then ['\\', '"']
  else if c = '\\' then ['\\', '\\']
  else if isEscaped c then unicodeEscape c
  else [c]

/-- A string with its quotes. -/
def quote (t : Text) : Text :=
  '"' :: t.flatMap escape ++ ['"']

mutual

/-- A value as it is written. -/
def write : Json → Text
  | null | unusable => "null".toList
  | bool true => "true".toList
  | bool false => "false".toList
  | int i => (toString i).toList
  | real literal => literal
  | str t => quote t
  | arr items => '[' :: List.intercalate [','] (writeItems items) ++ [']']
  | obj members => '{' :: List.intercalate [','] (writeMembers members) ++ ['}']

/-- The items of an array, each as it is written. -/
def writeItems : List Json → List Text
  | [] => []
  | j :: js => write j :: writeItems js

/-- The members of an object, each as it is written. -/
def writeMembers : List (Text × Json) → List Text
  | [] => []
  | (name, j) :: ms => (quote name ++ ':' :: write j) :: writeMembers ms

end

end Json

end Colloquy
