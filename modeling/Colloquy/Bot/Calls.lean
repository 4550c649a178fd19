import Colloquy.Bot.Basic

/-!
# Calls to a bot

All that those who use a bot ask of it, the ones its rules and the others its conversations. A call
is answered with an outcome, and the next finds the bot as this one left it.
-/

namespace Colloquy

namespace Bot

/-- What a bot is asked for. -/
inductive Call where
  /-- To learn a batch of rules. -/
  | learn (rules : List Rule)
  /-- To answer an input in a conversation, with the random words of a tape from a position on. -/
  | say (tape : Tape) (start : Nat) (id input : Text)
  /-- To set a predicate in a conversation. -/
  | setPredicate (id name value : Text)
  /-- To tell the value of a predicate in a conversation. -/
  | predicate (id name : Text)
  /-- To show a conversation. -/
  | snapshot (id : Text)
  /-- To forget a conversation. -/
  | remove (id : Text)

/-- The conversation that a call is about, unless it is about the rules. -/
def Call.id? : Call → Option Text
  | .learn _ => none
  | .say _ _ id _ | .setPredicate id _ _ | .predicate id _ | .snapshot id | .remove id => some id

/-- What comes of a call. -/
inductive Outcome where
  /-- What became of the rules. -/
  | learned (tally : Tally)
  /-- An answer, and the position after the random words that were read. -/
  | said (answer : Answer) (drawn : Nat)
  /-- Something was set. -/
  | done
  /-- The value of a predicate. -/
  | value (t : Text)
  /-- A conversation, if there is one. -/
  | shown (session? : Option Session)
  /-- Whether there was something to forget. -/
  | removed (found : Bool)
  deriving DecidableEq

/-- What comes of a call, and the bot afterwards. -/
def serve (b : Bot) : Call → Outcome × Bot
  | .learn rules =>
    let (tally, b) := b.learn rules
    (.learned tally, b)
  | .say tape start id input =>
    let (answer, drawn, b) := b.answerFrom tape start id input
    (.said answer drawn, b)
  | .setPredicate id name value =>
    (.done, { b with sessions := b.sessions.setPredicate id name value })
  | .predicate id name => (.value (b.sessions.predicate id name), b)
  | .snapshot id => (.shown (b.sessions.get? id), b)
  | .remove id =>
    let (found, sessions) := b.sessions.remove id
    (.removed found, { b with sessions })

end Bot

end Colloquy
