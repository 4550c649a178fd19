import Colloquy.Pattern.Basic
import Colloquy.Pattern.Segment

/-!
# Addresses

A rule is stored at an address: a pattern for each of the three segments. A context or topic that is
left out is matched by anything.
-/

namespace Colloquy

/-- Where a rule is stored. -/
abbrev Address := Segmented Pattern

namespace Address

/-- The address with these patterns, any context for an empty one and any topic for an empty one. -/
def ofPatterns (pattern context topic : Pattern) : Address :=
  ⟨pattern, context.orAnything, topic.orAnything⟩

/-- The address that three texts write. -/
def read (pattern context topic : Text) : Except Unreadable Address := do
  return ofPatterns (← Pattern.read pattern) (← Pattern.read context) (← Pattern.read topic)

/-- An address as it is written. -/
def text (a : Address) : Text :=
  a.line Pattern.text

end Address

/-- Why a rule cannot be stored at an address. -/
inductive AddressError where
  /-- Its pattern for the input is empty. -/
  | noPattern (a : Address)
  /-- A segment has two wildcards in a row, and this is not allowed. -/
  | wildcardPair (a : Address) (s : Segment)
  /-- A rule is stored there, and is not to be replaced. -/
  | occupied (a : Address)
  deriving DecidableEq, Repr

/-- What is reported for an address at which a rule cannot be stored. -/
def AddressError.message : AddressError → Text
  | .noPattern a => invalidPattern a.text "the input pattern is empty".toList
  | .wildcardPair a s =>
    invalidPattern a.text ("adjacent wildcards in the ".toList ++ s.name.toList)
  | .occupied a => "a rule is already stored at ".toList ++ a.text

namespace Address

/-- The first segment with two wildcards in a row. -/
def wildcardPair? (a : Address) : Option Segment :=
  Segment.all.find? fun s => (a.get s).hasWildcardPair

/-- Whether a rule may be stored at an address. -/
def check (a : Address) (allowPairs : Bool) : Except AddressError Unit :=
  if a.pattern = [] then .error (.noPattern a)
  else if allowPairs then .ok ()
  else match a.wildcardPair? with
    | some s => .error (.wildcardPair a s)
    | none => .ok ()

end Address

end Colloquy
