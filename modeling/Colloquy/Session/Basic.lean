import Colloquy.Dict

/-!
# Sessions

What one conversation has left behind: its predicates, which templates set and read, and its last
exchanges, of which no more than a limit are kept.

Main statement: `history_record` (the history is the end of all that was said).
-/

namespace Colloquy

/-- What was said, and the reply to it. -/
structure Turn where
  input : Text
  reply : Text
  deriving DecidableEq, Repr

/-- A conversation. The history has the oldest exchange first. -/
@[ext] structure Session where
  id : Text
  predicates : Dict Text
  history : List Turn
  limit : Nat
  deriving DecidableEq

namespace Session

/-- The predicate that holds the topic of a conversation. -/
def topicName : Text := "topic".toList

/-- A conversation in which nothing has been said. -/
def new (id : Text) (limit : Nat) : Session := ⟨id, ∅, [], limit⟩

/-- The value of a predicate, if it was ever set. -/
def predicate? (s : Session) (name : Text) : Option Text :=
  s.predicates.find? name

/-- The value of a predicate, or another value if it was never set. -/
def predicateD (s : Session) (name default : Text) : Text :=
  (s.predicate? name).getD default

/-- Set a predicate. -/
def setPredicate (s : Session) (name value : Text) : Session :=
  { s with predicates := s.predicates.insert name value }

/-- The topic of the conversation, empty if there is none. -/
def topic (s : Session) : Text :=
  s.predicateD topicName []

/-- Add an exchange. The oldest make room for it; with a limit of zero the history is left alone. -/
def record (s : Session) (e : Turn) : Session :=
  if s.limit = 0 then s
  else { s with history := s.history.drop (s.history.length + 1 - s.limit) ++ [e] }

/-- The exchange with the given number, the latest having the number one. -/
def turn? (s : Session) : Nat → Option Turn
  | 0 => none
  | n + 1 => s.history.reverse[n]?

/-- What was said in the exchange with the given number. -/
def input? (s : Session) (n : Nat) : Option Text :=
  (s.turn? n).map Turn.input

/-- What was replied in the exchange with the given number. -/
def reply? (s : Session) (n : Nat) : Option Text :=
  (s.turn? n).map Turn.reply

/-- The latest reply, empty if there is none. -/
def lastReply (s : Session) : Text :=
  (s.reply? 1).getD []

/-! ## Small laws -/

@[simp] theorem id_setPredicate (s : Session) (name value : Text) :
    (s.setPredicate name value).id = s.id := rfl

@[simp] theorem history_setPredicate (s : Session) (name value : Text) :
    (s.setPredicate name value).history = s.history := rfl

theorem predicate?_setPredicate (s : Session) (name value other : Text) :
    (s.setPredicate name value).predicate? other =
      if other = name then some value else s.predicate? other :=
  Dict.find?_insert s.predicates name value other

@[simp] theorem id_record (s : Session) (e : Turn) : (s.record e).id = s.id := by
  unfold record
  split <;> rfl

@[simp] theorem predicates_record (s : Session) (e : Turn) :
    (s.record e).predicates = s.predicates := by
  unfold record
  split <;> rfl

@[simp] theorem limit_record (s : Session) (e : Turn) : (s.record e).limit = s.limit := by
  unfold record
  split <;> rfl

/-- With a limit above zero the history is the end of what was said, as long as the limit allows. -/
theorem history_record {s : Session} (h : s.limit ≠ 0) (e : Turn) :
    (s.record e).history = (s.history ++ [e]).drop (s.history.length + 1 - s.limit) := by
  rw [record, if_neg h, List.drop_append_of_le_length (by omega)]

end Session

end Colloquy
