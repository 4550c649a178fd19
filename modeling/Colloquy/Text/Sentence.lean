import Colloquy.Text.Basic
import Colloquy.Unicode.Classes

/-!
# Sentences

A text of several sentences is answered one sentence at a time, and the last sentence of a reply is
what the next input is understood in the light of, so both directions of a conversation are cut up
here.
-/

namespace Colloquy

open Unicode

namespace Text

/-- The characters that may end a sentence. -/
def isTerminator (c : Char) : Bool :=
  c = '.' || c = '!' || c = '?'

/-- A terminator ends its sentence only before white space or at the end of the text, so that `3.14`
stays whole. Of what follows, the first stretch tells which character comes next. -/
def isBreak (c : Char) (following : List Text) : Bool :=
  isTerminator c && following.head?.all fun t => t.head?.all isBlank

/-- The stretches of a text, each up to and with the terminator that ends it. -/
def stretches (t : Text) : List Text :=
  t.foldr (fun c following =>
    if isBreak c following then [c] :: following else consHead c following) [[]]

/-- The sentences of a text: its stretches, trimmed, without those that have neither a letter nor a
digit. -/
def sentences (t : Text) : List Text :=
  (t.stretches.map trim).filter (·.any isAlphanumeric)

end Text

end Colloquy
