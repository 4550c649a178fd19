import Colloquy.Json.Basic

/-!
# Taking JSON values apart

A record is an object with named fields or the array of its fields in order; an alternative is a
name, or an object with one member that is named for it.
-/

namespace Colloquy

namespace Json

/-! ## Plain values -/

/-- A text. -/
def asText? : Json → Option Text
  | str t => some t
  | _ => none

/-- A truth value. -/
def asBool? : Json → Option Bool
  | bool b => some b
  | _ => none

/-- A natural number below 2^64. -/
def asNat64? : Json → Option Nat
  | int (.ofNat n) => if n < UInt64.size then some n else none
  | _ => none

/-- A 64-bit word. -/
def asUInt64? (j : Json) : Option UInt64 :=
  j.asNat64?.map UInt64.ofNat

/-- Nothing. -/
def asNull? : Json → Option Unit
  | null => some ()
  | _ => none

/-- A list of things. -/
def asList? {α : Type} (f : Json → Option α) : Json → Option (List α)
  | arr items => items.mapM f
  | _ => none

/-- A thing, or `null` if there is none. -/
def asOption? {α : Type} (f : Json → Option α) : Json → Option (Option α)
  | null => some none
  | j => (f j).map some

/-- Texts under texts. Of two members with one name the later counts. -/
def asTextPairs? : Json → Option (List (Text × Text))
  | obj members => members.mapM fun m => m.2.asText?.map fun t => (m.1, t)
  | _ => none

/-! ## Records -/

/-- The fields of a record that are there, by name. -/
abbrev Fields := List (Text × Json)

/-- A name that occurs more than once among the members. -/
def repeats (members : List (Text × Json)) (name : String) : Bool :=
  1 < (members.filter fun m => m.1 = name.toList).length

/-- The fields of a record. An object may have other members, which are left aside, but may not
repeat a field; an array gives the fields in order and may leave out the last ones. -/
def fields? (names : List String) : Json → Option Fields
  | obj members => if names.any (repeats members) then none else some members
  | arr items =>
    if items.length ≤ names.length then some ((names.map String.toList).zip items) else none
  | _ => none

namespace Fields

/-- The value of a field. -/
def get? (fs : Fields) (name : String) : Option Json :=
  fs.lookup name.toList

/-- A field that has to be there. -/
def required {α : Type} (fs : Fields) (name : String) (f : Json → Option α) : Option α :=
  (fs.get? name).bind f

/-- A field that has a value of its own when it is not there. -/
def withDefault {α : Type} (fs : Fields) (name : String) (f : Json → Option α) (default : α) :
    Option α :=
  match fs.get? name with
  | none => some default
  | some j => f j

end Fields

/-! ## Alternatives -/

/-- The name of an alternative and what it holds. A bare name holds nothing. -/
def variant? : Json → Option (Text × Json)
  | str name => some (name, null)
  | obj [(name, j)] => some (name, j)
  | _ => none

/-- One of several alternatives that hold nothing. -/
def asName? {α : Type} (names : List (String × α)) (j : Json) : Option α := do
  let (name, content) ← j.variant?
  content.asNull?
  (names.find? fun n => n.1.toList = name).map (·.2)

end Json

end Colloquy
