import Colloquy.Session.Basic

/-!
# All conversations of a bot

Conversations by their ids. Looking at a conversation that does not exist does not make one; setting
a predicate in it or adding an exchange to it does.
-/

namespace Colloquy

/-- Conversations by id, with the value of predicates that were never set and the limit of the
history of new conversations. -/
structure Sessions where
  byId : Dict Session := ∅
  default : Text := []
  limit : Nat := 10

namespace Sessions

/-- The conversation with an id. -/
def get? (ss : Sessions) (id : Text) : Option Session :=
  ss.byId.find? id

/-- The conversation with an id, which is new if there was none. -/
def getOrNew (ss : Sessions) (id : Text) : Session :=
  (ss.get? id).getD (Session.new id ss.limit)

/-- Put a conversation under an id. -/
def put (ss : Sessions) (id : Text) (s : Session) : Sessions :=
  { ss with byId := ss.byId.insert id s }

/-- Change the conversation with an id, which is new if there was none. -/
def update (ss : Sessions) (id : Text) (f : Session → Session) : Sessions :=
  ss.put id (f (ss.getOrNew id))

/-- Make the conversation with an id if there was none. -/
def touch (ss : Sessions) (id : Text) : Sessions :=
  ss.update id fun s => s

/-- The value of a predicate in a conversation. -/
def predicate (ss : Sessions) (id name : Text) : Text :=
  ((ss.get? id).bind fun s => s.predicate? name).getD ss.default

/-- Set a predicate in a conversation. -/
def setPredicate (ss : Sessions) (id name value : Text) : Sessions :=
  ss.update id fun s => s.setPredicate name value

/-- Add an exchange to a conversation. -/
def record (ss : Sessions) (id : Text) (e : Turn) : Sessions :=
  ss.update id fun s => s.record e

/-- The topic of a conversation, empty if there is none. -/
def topic (ss : Sessions) (id : Text) : Text :=
  ((ss.get? id).map Session.topic).getD []

/-- Forget a conversation; tells whether there was one. -/
def remove (ss : Sessions) (id : Text) : Bool × Sessions :=
  ((ss.get? id).isSome, { ss with byId := ss.byId.erase id })

/-- The ids of all conversations, in order. -/
def ids (ss : Sessions) : List Text := ss.byId.keys

/-- The number of conversations. -/
def size (ss : Sessions) : Nat := ss.byId.size

/-- No conversations. -/
def isEmpty (ss : Sessions) : Bool := ss.byId.isEmpty

/-! ## Small laws -/

@[simp] theorem getOrNew_put (ss : Sessions) (id : Text) (s : Session) :
    (ss.put id s).getOrNew id = s := by
  simp [getOrNew, get?, put, Dict.find?_insert]

@[simp] theorem put_put (ss : Sessions) (id : Text) (s s' : Session) :
    (ss.put id s).put id s' = ss.put id s' := by
  simp [put]

theorem get?_put (ss : Sessions) (id : Text) (s : Session) (other : Text) :
    (ss.put id s).get? other = if other = id then some s else ss.get? other :=
  Dict.find?_insert ss.byId id s other

@[simp] theorem get?_put_self (ss : Sessions) (id : Text) (s : Session) :
    (ss.put id s).get? id = some s := by
  rw [get?_put, if_pos rfl]

theorem get?_update (ss : Sessions) (id : Text) (f : Session → Session) (other : Text) :
    (ss.update id f).get? other =
      if other = id then some (f (ss.getOrNew id)) else ss.get? other :=
  get?_put ss id _ other

theorem get?_remove (ss : Sessions) (id other : Text) :
    (ss.remove id).2.get? other = if other = id then none else ss.get? other :=
  Dict.find?_erase ss.byId id other

@[simp] theorem get?_remove_self (ss : Sessions) (id : Text) :
    (ss.remove id).2.get? id = none := by
  rw [get?_remove, if_pos rfl]

end Sessions

end Colloquy
