import Colloquy.Unicode.Alphabetic
import Colloquy.Unicode.CaseIgnorable
import Colloquy.Unicode.Lowercase
import Colloquy.Unicode.Numeric
import Colloquy.Unicode.Titlecase
import Colloquy.Unicode.Uppercase

/-!
# Classes made of several properties
-/

namespace Colloquy.Unicode

/-- Letters and digits of every script: what words are made of. -/
def isAlphanumeric (c : Char) : Bool :=
  isAlphabetic c || isNumeric c

/-- Characters that have a letter case of their own. -/
def isCased (c : Char) : Bool :=
  isLowercase c || isUppercase c || isTitlecase c

end Colloquy.Unicode
