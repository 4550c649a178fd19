import Colloquy.Text.Basic

/-!
# The three segments of a conversation's state

What is matched has three segments: the input, what the bot said before it (the context), and the
topic under discussion.
-/

namespace Colloquy

/-- A segment of what is matched. -/
inductive Segment where
  | pattern
  | context
  | topic
  deriving DecidableEq, Repr

namespace Segment

/-- The segments in the order in which they are matched. -/
def all : List Segment := [.pattern, .context, .topic]

/-- The segment that is matched after another. -/
def next? : Segment → Option Segment
  | .pattern => some .context
  | .context => some .topic
  | .topic => none

/-- The place of a segment in that order. -/
def rank : Segment → Nat
  | .pattern => 0
  | .context => 1
  | .topic => 2

/-- The name of a segment. -/
def name : Segment → String
  | .pattern => "pattern"
  | .context => "context"
  | .topic => "topic"

end Segment

/-- A thing for each of the three segments. -/
@[ext] structure Segmented (α : Type) where
  pattern : α
  context : α
  topic : α
  deriving DecidableEq, Repr

namespace Segmented

variable {α β : Type}

/-- What belongs to a segment. -/
def get (x : Segmented α) : Segment → α
  | .pattern => x.pattern
  | .context => x.context
  | .topic => x.topic

/-- Something else for one of the segments. -/
def modify (x : Segmented α) (f : α → α) : Segment → Segmented α
  | .pattern => { x with pattern := f x.pattern }
  | .context => { x with context := f x.context }
  | .topic => { x with topic := f x.topic }

/-- The same for every segment. -/
def replicate (a : α) : Segmented α := ⟨a, a, a⟩

/-- Three segments in one line. -/
def line (f : α → Text) (x : Segmented α) : Text :=
  f x.pattern ++ " <that> ".toList ++ f x.context ++ " <topic> ".toList ++ f x.topic

@[simp] theorem modify_id (x : Segmented α) (s : Segment) : x.modify id s = x := by
  cases s <;> rfl

/-- Two changes of one segment, one after the other. -/
@[simp] theorem modify_modify (x : Segmented α) (f g : α → α) (s : Segment) :
    (x.modify f s).modify g s = x.modify (g ∘ f) s := by
  cases s <;> rfl

end Segmented

end Colloquy
