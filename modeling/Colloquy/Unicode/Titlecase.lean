import Colloquy.Unicode.Boundaries

/-!
# Title-case letters
-/

namespace Colloquy.Unicode

/-- The general category Lt of Unicode 17. -/
def titlecase : Boundaries := [
  0x1C5, 0x1C6, 0x1C8, 0x1C9, 0x1CB, 0x1CC, 0x1F2, 0x1F3, 0x1F88, 0x1F90, 0x1F98, 0x1FA0,
  0x1FA8, 0x1FB0, 0x1FBC, 0x1FBD, 0x1FCC, 0x1FCD, 0x1FFC, 0x1FFD]

/-- Digraphs whose first half is a capital and whose second half is small. -/
def isTitlecase (c : Char) : Bool :=
  titlecase.contains c.toNat

end Colloquy.Unicode
