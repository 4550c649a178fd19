import Colloquy.Dict
import Colloquy.Text.Casing

/-!
# Phrasebooks

A phrasebook says what is to be written instead of a word or of several words in a row. Phrases are
kept in lower case with single spaces, and so are their replacements, which take over the letter
case of the text they replace.
-/

namespace Colloquy

open Unicode

/-- What phrases are made of: letters, digits and apostrophes. -/
def isWordChar (c : Char) : Bool :=
  isAlphanumeric c || c = '\''

/-- Why a phrase cannot be put into a phrasebook. -/
inductive PhraseError where
  /-- The phrase has no word. -/
  | noWord
  /-- The phrase, given as it was written, has a character that is in no word. -/
  | notWords (phrase : Text)
  deriving DecidableEq, Repr

/-- What is reported for a phrase that is refused. -/
def PhraseError.message : PhraseError → Text
  | .noWord => "substitution key must contain at least one word".toList
  | .notWords phrase =>
    "substitution key '".toList ++ phrase ++
      "' contains characters that never appear inside a word".toList

/-- Replacements of phrases. `longest` is the number of words in the longest phrase, which bounds
how far a look-up has to reach. -/
@[ext] structure Phrasebook where
  entries : Dict Text
  longest : Nat
  deriving DecidableEq

namespace Phrasebook

/-- A phrasebook with no phrases. -/
def empty : Phrasebook := ⟨∅, 0⟩

instance : EmptyCollection Phrasebook := ⟨empty⟩

/-- The words of a phrase as they are looked up. -/
def phraseWords (phrase : Text) : List Text :=
  phrase.words.map Text.lower

/-- Put in a phrase with its replacement, instead of one that stood there. -/
def insert (b : Phrasebook) (phrase replacement : Text) : Except PhraseError Phrasebook :=
  let ws := phraseWords phrase
  if ws = [] then .error .noWord
  else if ws.all (·.all isWordChar) then
    .ok ⟨b.entries.insert (Text.unwords ws) replacement.trim.lower, max b.longest ws.length⟩
  else .error (.notWords phrase)

/-- Put in several phrases, one after the other; the first that is refused is reported. -/
def insertAll (b : Phrasebook) (pairs : List (Text × Text)) : Except PhraseError Phrasebook :=
  pairs.foldlM (fun b p => b.insert p.1 p.2) b

/-- The phrasebook of several phrases. -/
def ofList (pairs : List (Text × Text)) : Except PhraseError Phrasebook :=
  insertAll ∅ pairs

/-- The number of phrases. -/
def size (b : Phrasebook) : Nat := b.entries.size

/-- No phrases. -/
def isEmpty (b : Phrasebook) : Bool := b.entries.isEmpty

end Phrasebook

end Colloquy
