import Colloquy.Text.Casing

/-!
# Words

A word as it was written, and the form in which it is compared. Both are kept, so that what a
wildcard stands for can be given back the way it was written. A word that is read from a text is
compared in upper case (`Word.ofText`); a word that is put together by hand may have any form.
-/

namespace Colloquy

/-- A word: `surface` as written, `form` for comparison. -/
structure Word where
  surface : Text
  form : Text
  deriving DecidableEq, Repr

namespace Word

/-- The word written so, compared in upper case. -/
def ofText (t : Text) : Word := ⟨t, t.upper⟩

end Word

/-- The forms of some words, with single spaces between them. -/
def formsOf (ws : List Word) : Text :=
  Text.unwords (ws.map Word.form)

/-- Some words as written, with single spaces between them. -/
def surfacesOf (ws : List Word) : Text :=
  Text.unwords (ws.map Word.surface)

end Colloquy
