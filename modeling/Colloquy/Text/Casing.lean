import Colloquy.Text.Basic
import Colloquy.Unicode.CaseMap
import Colloquy.Unicode.Classes

/-!
# Letter case of a text

Upper case, lower case with the final sigma, capitalised words, and the rule by which a text put in
the place of another takes over its letter case.
-/

namespace Colloquy

open Unicode

namespace Text

/-! ## Upper and lower case -/

/-- A text in upper case. -/
def upper (t : Text) : Text :=
  t.flatMap toUpper

/-- Whether the first character that is not looked through has a letter case. -/
def meetsCased (t : Text) : Bool :=
  (t.find? fun c => !isCaseIgnorable c).any isCased

/-- A sigma between `before`, read backwards, and `after` ends a word when a cased letter comes
before it and none comes after it. -/
def closesWord (before after : Text) : Bool :=
  before.meetsCased && !after.meetsCased

/-- The lower case of a capital sigma in its surroundings. -/
def lowerSigma (before after : Text) : Char :=
  if closesWord before after then 'ς' else 'σ'

/-- Lower case of what follows `before`, which is read backwards. -/
def lowerAfter (before : Text) : Text → Text
  | [] => []
  | c :: cs =>
    (if c = 'Σ' then [lowerSigma before cs] else toLower c) ++ lowerAfter (c :: before) cs

/-- A text in lower case. A capital sigma at the end of a word becomes `ς`, any other `σ`. -/
def lower (t : Text) : Text :=
  lowerAfter [] t

/-! ## Capitalised words -/

/-- The first character in upper case and the others in lower case, each on its own. -/
def capitalize : Text → Text
  | [] => []
  | c :: cs => toUpper c ++ cs.flatMap toLower

/-- Every stretch between single spaces is capitalised. -/
def capitalizeAll (t : Text) : Text :=
  unwords ((t.splitWhere (· = ' ')).map capitalize)

/-! ## Taking over the letter case of another text -/

/-- Shouted: more than one letter, and no small one among them. -/
def isShouted (t : Text) : Bool :=
  let letters := t.filter isAlphabetic
  1 < letters.length && letters.all fun c => !isLowercase c

/-- The first letter is a capital. -/
def isCapitalized (t : Text) : Bool :=
  (t.find? isAlphabetic).any isUppercase

/-- A text in the letter case of the text it stands for. -/
def inCaseOf (model t : Text) : Text :=
  if model.isShouted then t.upper
  else if model.isCapitalized then t.capitalizeAll
  else t

/-! ## Small laws -/

@[simp] theorem upper_nil : upper [] = [] := rfl

@[simp] theorem upper_append (s t : Text) : (s ++ t).upper = s.upper ++ t.upper := by
  simp [upper]

@[simp] theorem lower_nil : lower [] = [] := rfl

@[simp] theorem capitalize_nil : capitalize [] = [] := rfl

end Text

end Colloquy
