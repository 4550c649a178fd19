import Colloquy.Text.Casing

/-!
# Shapes

The four ways in which a reply can ask for a text to be written.
-/

namespace Colloquy

/-- A way of writing a text. -/
inductive Shape where
  /-- All in upper case. -/
  | upper
  /-- All in lower case. -/
  | lower
  /-- Trimmed, with its first word capitalised. -/
  | sentence
  /-- Every word capitalised, with single spaces between the words. -/
  | formal
  deriving DecidableEq, Repr

namespace Text

/-- Trimmed, with what stands before the first space capitalised and the rest as it is. -/
def asSentence (t : Text) : Text :=
  let (first, rest) := t.trim.span (· ≠ ' ')
  capitalize first ++ rest

/-- Every word capitalised, with single spaces between the words. -/
def asTitle (t : Text) : Text :=
  unwords (t.words.map capitalize)

end Text

/-- The text in the given shape. -/
def Shape.apply : Shape → Text → Text
  | .upper, t => t.upper
  | .lower, t => t.lower
  | .sentence, t => t.asSentence
  | .formal, t => t.asTitle

end Colloquy
