import Colloquy.Phrasebook.Basic

/-!
# English phrasebooks

The four phrasebooks that a bot works with, and their English contents.
-/

namespace Colloquy

/-- The phrasebooks of a bot: `normal` is applied to all that is read, the others on demand to what
is written. -/
structure Phrasebooks where
  normal : Phrasebook
  person : Phrasebook
  person2 : Phrasebook
  gender : Phrasebook
  deriving DecidableEq

/-- A change of person or gender that a reply can ask for. -/
inductive Swap where
  | person
  | person2
  | gender
  deriving DecidableEq, Repr

namespace Phrasebooks

/-- Four phrasebooks with no phrases. -/
def empty : Phrasebooks := ⟨∅, ∅, ∅, ∅⟩

instance : EmptyCollection Phrasebooks := ⟨empty⟩

/-- The phrasebook that makes a change. -/
def swap (bs : Phrasebooks) : Swap → Phrasebook
  | .person => bs.person
  | .person2 => bs.person2
  | .gender => bs.gender

end Phrasebooks

namespace English

/-- Contractions and what they stand for. -/
def contractions : List (String × String) := [
  ("aren't", "are not"), ("can't", "can not"), ("couldn't", "could not"), ("didn't", "did not"),
  ("doesn't", "does not"), ("don't", "do not"), ("gonna", "going to"), ("hasn't", "has not"),
  ("haven't", "have not"), ("he's", "he is"), ("i'd", "i would"), ("i'll", "i will"),
  ("i'm", "i am"), ("i've", "i have"), ("isn't", "is not"), ("it's", "it is"),
  ("let's", "let us"), ("she's", "she is"), ("shouldn't", "should not"), ("that's", "that is"),
  ("they're", "they are"), ("wanna", "want to"), ("wasn't", "was not"), ("we're", "we are"),
  ("weren't", "were not"), ("what's", "what is"), ("where's", "where is"), ("who's", "who is"),
  ("won't", "will not"), ("wouldn't", "would not"), ("you'd", "you would"),
  ("you'll", "you will"), ("you're", "you are"), ("you've", "you have")]

/-- First and third person in place of each other. -/
def thirdPerson : List (String × String) := [
  ("i", "he"), ("me", "him"), ("my", "his"), ("mine", "his"), ("myself", "himself"), ("he", "i"),
  ("him", "me"), ("his", "my"), ("himself", "myself"), ("she", "i"), ("her", "me"),
  ("hers", "mine"), ("herself", "myself")]

/-- First and second person in place of each other. -/
def secondPerson : List (String × String) := [
  ("i", "you"), ("me", "you"), ("my", "your"), ("mine", "yours"), ("myself", "yourself"),
  ("you", "me"), ("your", "my"), ("yours", "mine"), ("yourself", "myself"), ("i am", "you are"),
  ("you are", "i am"), ("i was", "you were"), ("you were", "i was"), ("with you", "with me"),
  ("with me", "with you"), ("to you", "to me"), ("to me", "to you"), ("for you", "for me"),
  ("for me", "for you"), ("of you", "of me"), ("of me", "of you"), ("give you", "give me"),
  ("give me", "give you"), ("tell you", "tell me"), ("tell me", "tell you")]

/-- Masculine and feminine in place of each other. -/
def genders : List (String × String) := [
  ("he", "she"), ("him", "her"), ("his", "her"), ("himself", "herself"), ("she", "he"),
  ("her", "him"), ("hers", "his"), ("herself", "himself")]

/-- The phrasebook of some pairs, without those whose first half is no phrase. -/
def book (pairs : List (String × String)) : Phrasebook :=
  pairs.foldl (fun b p => (b.insert p.1.toList p.2.toList).toOption.getD b) ∅

/-- The English phrasebooks. -/
def phrasebooks : Phrasebooks :=
  ⟨book contractions, book thirdPerson, book secondPerson, book genders⟩

end English

end Colloquy
