import Colloquy.Pattern.Segment
import Colloquy.Phrasebook.English
import Colloquy.Text.Shape

/-!
# Templates

A template is the tree that a reply is rendered from.
-/

namespace Colloquy

/-- One branch of a condition: a value, and what is rendered when the predicate has it. The
predicate is the one the branch names, or else the one its condition names. -/
structure Branch (τ : Type) where
  name? : Option Text
  value : Text
  body : τ

/-- What a reply is rendered from. -/
inductive Template where
  /-- A text in which white space is a single space. -/
  | text (t : Text)
  /-- A text as it is. -/
  | literal (t : Text)
  /-- Several templates, one after the other. -/
  | sequence (children : List Template)
  /-- One of several templates, by chance. -/
  | random (children : List Template)
  /-- The first branch whose predicate has its value, or else a template for all other cases. -/
  | condition (name? : Option Text) (branches : List (Branch Template))
      (otherwise? : Option Template)
  /-- The reply to what the body renders to. -/
  | reduce (body : Template)
  /-- Set a predicate. -/
  | set (name : Text) (value : Template)
  /-- The value of a predicate. -/
  | get (name : Text)
  /-- What a wildcard stands for. -/
  | wildcard (segment : Segment) (index : UInt64)
  /-- Render the body, but say nothing. -/
  | think (body : Template)
  /-- The body in another letter case. -/
  | shaped (shape : Shape) (body : Template)
  /-- The body with persons or genders changed. -/
  | swapped (swap : Swap) (body : Template)
  /-- A property of the bot. -/
  | property (name : Text)
  /-- What is being answered, or an earlier input. -/
  | input (index : UInt64)
  /-- An earlier reply. -/
  | reply (index : UInt64)
  /-- The id of the conversation. -/
  | sessionId
  /-- The number of rules. -/
  | ruleCount
  /-- The version of the bot. -/
  | version
  /-- The time. -/
  | date
  deriving Inhabited

namespace Template

/-! ## Common templates -/

/-- What a wildcard of the input stands for. -/
def star (index : UInt64) : Template :=
  .wildcard .pattern index

/-- The reply to what the first wildcard of the input stands for. -/
def reduceStar : Template :=
  .reduce (.star 1)

/-- What the first wildcard of the input stands for, with persons or genders changed. -/
def swappedStar (swap : Swap) : Template :=
  .swapped swap (.star 1)

/-- A template that is rendered if a predicate has a value, and not otherwise. -/
def whenIs (name value : Text) (body : Template) : Template :=
  .condition (some name) [⟨none, value, body⟩] none

end Template

end Colloquy
