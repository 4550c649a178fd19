import Colloquy.Json.Basic

/-!
# Reading JSON

A text is one JSON value with optional white space around it. The reader descends through the value;
every step takes at least one character or is followed by one that does, so twice the length of the
text bounds the number of steps. A string is read in pieces, since only two halves of a surrogate
pair together make a character; a string with a half that stands alone is still JSON.
-/

namespace Colloquy

namespace Json

/-! ## Strings -/

/-- The value of a hexadecimal digit. -/
def hexValue? (c : Char) : Option Nat :=
  if '0' ≤ c ∧ c ≤ '9' then some (c.toNat - '0'.toNat)
  else if 'a' ≤ c ∧ c ≤ 'f' then some (c.toNat - 'a'.toNat + 10)
  else if 'A' ≤ c ∧ c ≤ 'F' then some (c.toNat - 'A'.toNat + 10)
  else none

/-- Four hexadecimal digits and the text after them. -/
def hexUnit? : Text → Option (Nat × Text)
  | a :: b :: c :: d :: rest => do
    let a ← hexValue? a
    let b ← hexValue? b
    let c ← hexValue? c
    let d ← hexValue? d
    return (((a * 16 + b) * 16 + c) * 16 + d, rest)
  | _ => none

/-- What a character or an escape of a string stands for. -/
inductive Piece where
  /-- A character. -/
  | char (c : Char)
  /-- Half of a surrogate pair, by its code. -/
  | half (code : Nat)
  deriving DecidableEq, Repr

/-- The piece with the given code. -/
def Piece.ofCode (code : Nat) : Piece :=
  if 0xD800 ≤ code ∧ code ≤ 0xDFFF then .half code else .char (Char.ofNat code)

/-- The character that two halves make up: the first half is a high one and the second a low one. -/
def pairedChar? (high low : Nat) : Option Char :=
  if high < 0xDC00 ∧ 0xDC00 ≤ low then
    some (Char.ofNat (0x10000 + (high - 0xD800) * 0x400 + (low - 0xDC00)))
  else none

/-- The text that some pieces make up; none if half of a pair stands alone. -/
def textOf? : List Piece → Option Text
  | [] => some []
  | .char c :: ps => (textOf? ps).map (c :: ·)
  | .half high :: .half low :: ps => do
    let c ← pairedChar? high low
    let cs ← textOf? ps
    return c :: cs
  | .half _ :: _ => none

/-- The piece that an escape stands for, after its backslash. -/
def escaped? : Text → Option (Piece × Text)
  | '"' :: rest => some (.char '"', rest)
  | '\\' :: rest => some (.char '\\', rest)
  | '/' :: rest => some (.char '/', rest)
  | 'b' :: rest => some (.char '\x08', rest)
  | 'f' :: rest => some (.char '\x0c', rest)
  | 'n' :: rest => some (.char '\n', rest)
  | 'r' :: rest => some (.char '\r', rest)
  | 't' :: rest => some (.char '\t', rest)
  | 'u' :: rest => (hexUnit? rest).map fun (code, rest) => (Piece.ofCode code, rest)
  | _ => none

/-- The pieces of a string after its opening quote, and the text after its closing one. -/
def pieces? : (steps : Nat) → Text → Option (List Piece × Text)
  | _, '"' :: rest => some ([], rest)
  | steps + 1, '\\' :: rest => do
    let (p, rest) ← escaped? rest
    let (ps, rest) ← pieces? steps rest
    return (p :: ps, rest)
  | steps + 1, c :: rest => do
    if c.toNat < 0x20 then none
    let (ps, rest) ← pieces? steps rest
    return (.char c :: ps, rest)
  | _, _ => none

/-- The text of a string, unless it has none, and the text after its closing quote. -/
def string? (steps : Nat) (t : Text) : Option (Option Text × Text) :=
  (pieces? steps t).map fun (ps, rest) => (textOf? ps, rest)

/-! ## Numbers -/

/-- A non-empty run of digits, and the text after it. -/
def digits? (t : Text) : Option (Text × Text) :=
  let (ds, rest) := t.span Char.isDigit
  if ds = [] then none else some (ds, rest)

/-- The digits before the point: a leading zero stands alone. -/
def whole? : Text → Option (Text × Text)
  | '0' :: rest => some (['0'], rest)
  | t => digits? t

/-- The point and the digits after it, if there is a point. -/
def fraction? : Text → Option (Text × Text)
  | '.' :: rest => (digits? rest).map fun (ds, rest) => ('.' :: ds, rest)
  | t => some ([], t)

/-- The exponent, if there is one. -/
def exponent? : Text → Option (Text × Text)
  | e :: t =>
    if e = 'e' ∨ e = 'E' then
      match t with
      | s :: rest =>
        if s = '+' ∨ s = '-' then (digits? rest).map fun (ds, rest) => (e :: s :: ds, rest)
        else (digits? t).map fun (ds, rest) => (e :: ds, rest)
      | [] => none
    else some ([], e :: t)
  | [] => some ([], [])

/-- The number that some decimal digits write. -/
def decimal (ds : Text) : Nat :=
  ds.foldl (fun n d => n * 10 + (d.toNat - '0'.toNat)) 0

/-- A number. Minus zero is no integer. -/
def number? (t : Text) : Option (Json × Text) := do
  let (negative, t) := match t with
    | '-' :: rest => (true, rest)
    | t => (false, t)
  let (ds, t) ← whole? t
  let (fs, t) ← fraction? t
  let (es, t) ← exponent? t
  let literal := (if negative then ['-'] else []) ++ ds ++ fs ++ es
  if fs ≠ [] ∨ es ≠ [] then return (real literal, t)
  else if negative then
    return (if decimal ds = 0 then real literal else int (-decimal ds), t)
  else return (int (decimal ds), t)

/-! ## Values -/

/-- A member, unless its name is no text. -/
def member? (m : Option Text × Json) : Option (Text × Json) :=
  m.1.map fun name => (name, m.2)

/-- The object with the given members. It is of no use when one of the names is no text. -/
def ofMembers (members : List (Option Text × Json)) : Json :=
  ((members.mapM member?).map obj).getD unusable

/-- White space between the signs of a document. -/
def isSpace (c : Char) : Bool :=
  c = ' ' || c = '\t' || c = '\n' || c = '\r'

/-- A text without the white space it begins with. -/
def skipSpace (t : Text) : Text :=
  t.dropWhile isSpace

/-- The word at the beginning of a text stands for a value. -/
def keyword? (word : String) (j : Json) (t : Text) : Option (Json × Text) :=
  if word.toList.isPrefixOf t then some (j, t.drop word.length) else none

mutual

/-- A value, and the text after it. -/
def value? : (steps : Nat) → Text → Option (Json × Text)
  | 0, _ => none
  | steps + 1, t =>
    match skipSpace t with
    | '"' :: rest => do
      let (s, rest) ← string? steps rest
      return ((s.map str).getD unusable, rest)
    | '[' :: rest =>
      match skipSpace rest with
      | ']' :: rest => some (arr [], rest)
      | rest => do
        let (items, rest) ← items? steps rest
        return (arr items, rest)
    | '{' :: rest =>
      match skipSpace rest with
      | '}' :: rest => some (obj [], rest)
      | rest => do
        let (members, rest) ← members? steps rest
        return (ofMembers members, rest)
    | 'n' :: rest => keyword? "null" null ('n' :: rest)
    | 't' :: rest => keyword? "true" (bool true) ('t' :: rest)
    | 'f' :: rest => keyword? "false" (bool false) ('f' :: rest)
    | t => number? t

/-- The items of an array from one of them on, and the text after its closing bracket. -/
def items? : (steps : Nat) → Text → Option (List Json × Text)
  | 0, _ => none
  | steps + 1, t => do
    let (j, rest) ← value? steps t
    match skipSpace rest with
    | ']' :: rest => return ([j], rest)
    | ',' :: rest =>
      let (js, rest) ← items? steps rest
      return (j :: js, rest)
    | _ => none

/-- The members of an object from one of them on, and the text after its closing brace. -/
def members? : (steps : Nat) → Text → Option (List (Option Text × Json) × Text)
  | 0, _ => none
  | steps + 1, t =>
    match skipSpace t with
    | '"' :: rest => do
      let (name, rest) ← string? steps rest
      match skipSpace rest with
      | ':' :: rest =>
        let (j, rest) ← value? steps rest
        match skipSpace rest with
        | '}' :: rest => return ([(name, j)], rest)
        | ',' :: rest =>
          let (ms, rest) ← members? steps rest
          return ((name, j) :: ms, rest)
        | _ => none
      | _ => none
    | _ => none

end

/-- The value that a text writes. -/
def read? (t : Text) : Option Json := do
  let (j, rest) ← value? (2 * t.length + 2) t
  if skipSpace rest = [] then some j else none

/-- The number of levels of arrays and objects to which a document is looked into. -/
def nestingLimit : Nat := 127

/-- The value of a document: of what is nested too deeply it cannot make use. -/
def readDocument? (t : Text) : Option Json :=
  (read? t).map (clip nestingLimit)

end Json

end Colloquy
