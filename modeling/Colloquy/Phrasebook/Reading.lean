import Colloquy.Phrasebook.Rewrite
import Colloquy.Text.Sentence
import Colloquy.Word

/-!
# Reading

Before a text is matched it is written anew by a phrasebook and cut into words of letters and
digits; all other characters fall away.
-/

namespace Colloquy

open Unicode

/-- The words between characters that are neither letters nor digits. -/
def Text.toWords (t : Text) : List Word :=
  (t.pieces fun c => !isAlphanumeric c).map Word.ofText

namespace Phrasebook

/-- The words of a text. -/
def read (b : Phrasebook) (t : Text) : List Word :=
  (b.rewrite t).words.flatMap Text.toWords

/-- The words of each sentence, without the sentences that have none. -/
def readSentences (b : Phrasebook) (t : Text) : List (List Word) :=
  (t.sentences.map b.read).filter (· ≠ [])

/-- The words of the last sentence that has some. -/
def readLast (b : Phrasebook) (t : Text) : List Word :=
  (b.readSentences t).getLast?.getD []

end Phrasebook

end Colloquy
