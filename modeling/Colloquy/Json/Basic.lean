import Colloquy.Text.Basic

/-!
# JSON values

Documents are JSON. Integers are kept apart from other numbers, which keep the way they are written,
and the members of an object keep their order and may repeat a name: what a repeated name means is
for the reader of the document to say.
-/

namespace Colloquy

/-- A JSON value. -/
inductive Json where
  | null
  | bool (b : Bool)
  /-- A number without fraction and exponent. -/
  | int (i : Int)
  /-- Any other number, as it is written. -/
  | real (literal : Text)
  | str (t : Text)
  | arr (items : List Json)
  | obj (members : List (Text × Json))
  /-- What stands for nothing: a string with an unpaired half of a surrogate pair, an object with
  such a string for a name, or what is nested too deeply. -/
  | unusable
  deriving Inhabited

namespace Json

mutual

/-- How deeply arrays and objects are nested in a value. -/
def depth : Json → Nat
  | arr items => depthItems items + 1
  | obj members => depthMembers members + 1
  | _ => 0

/-- The depth of the deepest item. -/
def depthItems : List Json → Nat
  | [] => 0
  | j :: js => max (depth j) (depthItems js)

/-- The depth of the deepest member. -/
def depthMembers : List (Text × Json) → Nat
  | [] => 0
  | (_, j) :: ms => max (depth j) (depthMembers ms)

end

mutual

/-- A value with no more than so many levels of arrays and objects: those below are unusable. -/
def clip : (levels : Nat) → Json → Json
  | 0, arr _ | 0, obj _ => unusable
  | levels + 1, arr items => arr (clipItems levels items)
  | levels + 1, obj members => obj (clipMembers levels members)
  | _, j => j

/-- The items of an array, each with no more than so many levels. -/
def clipItems (levels : Nat) : List Json → List Json
  | [] => []
  | j :: js => clip levels j :: clipItems levels js

/-- The members of an object, each with no more than so many levels. -/
def clipMembers (levels : Nat) : List (Text × Json) → List (Text × Json)
  | [] => []
  | (name, j) :: ms => (name, clip levels j) :: clipMembers levels ms

end

/-- The natural number as a value. -/
def ofNat (n : Nat) : Json := int n

/-- The text as a value. -/
def ofText (t : Text) : Json := str t

/-- The words of the library's own vocabulary as a value. -/
def ofString (s : String) : Json := str s.toList

/-- An object whose member names are fixed. -/
def record (fields : List (String × Json)) : Json :=
  obj (fields.map fun f => (f.1.toList, f.2))

/-- The array of the values of some things. -/
def ofList {α : Type} (f : α → Json) (xs : List α) : Json :=
  arr (xs.map f)

/-- The value of a thing, or `null` if there is none. -/
def ofOption {α : Type} (f : α → Json) : Option α → Json
  | none => null
  | some x => f x

end Json

end Colloquy
