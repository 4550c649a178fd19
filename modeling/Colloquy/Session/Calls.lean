import Colloquy.Session.Store

/-!
# Calls to a store of conversations

All that can be asked of the conversations that are kept. A call is answered with an outcome, and
the next finds the conversations as this one left them.
-/

namespace Colloquy

namespace Sessions

/-- What the store of conversations is asked for. -/
inductive Call where
  /-- To find a conversation. -/
  | get (id : Text)
  /-- To find a conversation, which is new if there was none. -/
  | getOrNew (id : Text)
  /-- To tell the value of a predicate in a conversation. -/
  | predicate (id name : Text)
  /-- To set a predicate in a conversation. -/
  | setPredicate (id name value : Text)
  /-- To add an exchange to a conversation. -/
  | record (id : Text) (turn : Turn)
  /-- To tell the topic of a conversation. -/
  | topic (id : Text)
  /-- To show a conversation. -/
  | snapshot (id : Text)
  /-- To forget a conversation. -/
  | remove (id : Text)
  /-- To tell the value of predicates that were never set. -/
  | default
  /-- To list the ids of all conversations. -/
  | ids
  /-- To count the conversations. -/
  | size
  /-- To tell whether there are none. -/
  | isEmpty
  deriving DecidableEq

/-- The conversation that a call is about, unless it is about the store as a whole. -/
def Call.id? : Call → Option Text
  | .get id | .getOrNew id | .predicate id _ | .setPredicate id _ _ | .record id _ | .topic id
  | .snapshot id | .remove id => some id
  | .default | .ids | .size | .isEmpty => none

/-- What comes of a call. -/
inductive Outcome where
  /-- A conversation, if there is one. -/
  | found (session? : Option Session)
  /-- A copy of a conversation, if there is one. -/
  | shown (session? : Option Session)
  /-- The value of a predicate. -/
  | value (t : Text)
  /-- Something was set or added. -/
  | done
  /-- Whether there was something to forget. -/
  | removed (found : Bool)
  /-- The ids of all conversations. -/
  | listed (ids : List Text)
  /-- The number of conversations. -/
  | counted (n : Nat)
  /-- Whether there are no conversations. -/
  | answered (isEmpty : Bool)
  deriving DecidableEq

/-- What comes of a call, and the conversations afterwards. -/
def serve (ss : Sessions) : Call → Outcome × Sessions
  | .get id => (.found (ss.get? id), ss)
  | .getOrNew id => (.found (some (ss.getOrNew id)), ss.touch id)
  | .predicate id name => (.value (ss.predicate id name), ss)
  | .setPredicate id name value => (.done, ss.setPredicate id name value)
  | .record id turn => (.done, ss.record id turn)
  | .topic id => (.value (ss.topic id), ss)
  | .snapshot id => (.shown (ss.get? id), ss)
  | .remove id =>
    let (found, ss) := ss.remove id
    (.removed found, ss)
  | .default => (.value ss.default, ss)
  | .ids => (.listed ss.ids, ss)
  | .size => (.counted ss.size, ss)
  | .isEmpty => (.answered ss.isEmpty, ss)

end Sessions

end Colloquy
