import Colloquy.Unicode.Boundaries

/-!
# Blank characters

White space in the sense of Unicode: wider than ASCII (it has the next-line character, the
no-break space, the line separator and the ideographic space), and without the zero-width
characters.
-/

namespace Colloquy.Unicode

/-- The property White_Space of Unicode 17. -/
def whiteSpace : Boundaries := [
  0x9, 0xE, 0x20, 0x21, 0x85, 0x86, 0xA0, 0xA1, 0x1680, 0x1681, 0x2000, 0x200B, 0x2028, 0x202A,
  0x202F, 0x2030, 0x205F, 0x2060, 0x3000, 0x3001]

/-- White space: what separates words and is trimmed off the ends of a text. The zero-width space
and the byte order mark are not in the class. -/
def isBlank (c : Char) : Bool :=
  whiteSpace.contains c.toNat

end Colloquy.Unicode
