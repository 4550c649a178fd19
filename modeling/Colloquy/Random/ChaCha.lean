import Colloquy.Random.Tape

/-!
# The ChaCha generator

Random words are the key stream of the ChaCha cipher with eight rounds, whose key is drawn from a
64-bit seed. The state of the cipher is a grid of four rows of four words; a double round mixes its
columns and then its diagonals.
-/

namespace Colloquy

namespace ChaCha

/-! ## Rows and grids -/

/-- Four words side by side. -/
structure Row where
  a : UInt32
  b : UInt32
  c : UInt32
  d : UInt32
  deriving DecidableEq, Repr

namespace Row

/-- Two rows combined word by word. -/
def zipWith (f : UInt32 → UInt32 → UInt32) (r s : Row) : Row :=
  ⟨f r.a s.a, f r.b s.b, f r.c s.c, f r.d s.d⟩

/-- Every word changed. -/
def map (f : UInt32 → UInt32) (r : Row) : Row := ⟨f r.a, f r.b, f r.c, f r.d⟩

/-- The words moved one place to the front. -/
def rotate (r : Row) : Row := ⟨r.b, r.c, r.d, r.a⟩

/-- The words of a row. -/
def toList (r : Row) : List UInt32 := [r.a, r.b, r.c, r.d]

end Row

/-- Four rows. -/
structure Grid where
  top : Row
  upper : Row
  lower : Row
  bottom : Row
  deriving DecidableEq, Repr

/-- A word with its bits moved around by `k` places to the left. -/
def rotateLeft (x k : UInt32) : UInt32 :=
  (x <<< k) ||| (x >>> (32 - k))

/-- One step of a quarter round in all columns: a row is added to another, and a third takes up the
sum and is rotated. -/
def mix (k : UInt32) (sum addend taken : Row) : Row × Row :=
  let sum := sum.zipWith (· + ·) addend
  (sum, (taken.zipWith (· ^^^ ·) sum).map fun x => rotateLeft x k)

namespace Grid

/-- A quarter round in every column. -/
def mixColumns (g : Grid) : Grid :=
  let (a, d) := mix 16 g.top g.upper g.bottom
  let (c, b) := mix 12 g.lower d g.upper
  let (a, d) := mix 8 a b d
  let (c, b) := mix 7 c d b
  ⟨a, b, c, d⟩

/-- The diagonals become columns. -/
def skew (g : Grid) : Grid :=
  ⟨g.top, g.upper.rotate, g.lower.rotate.rotate, g.bottom.rotate.rotate.rotate⟩

/-- The columns become diagonals again. -/
def unskew (g : Grid) : Grid :=
  ⟨g.top, g.upper.rotate.rotate.rotate, g.lower.rotate.rotate, g.bottom.rotate⟩

/-- A round of the columns and a round of the diagonals. -/
def doubleRound (g : Grid) : Grid :=
  g.mixColumns.skew.mixColumns.unskew

/-- Two grids added word by word. -/
def add (g h : Grid) : Grid :=
  ⟨g.top.zipWith (· + ·) h.top, g.upper.zipWith (· + ·) h.upper,
    g.lower.zipWith (· + ·) h.lower, g.bottom.zipWith (· + ·) h.bottom⟩

/-- The words of a grid, row by row. -/
def toList (g : Grid) : List UInt32 :=
  g.top.toList ++ g.upper.toList ++ g.lower.toList ++ g.bottom.toList

/-- A grid after eight rounds, with what it was at first added to it. -/
def scramble (g : Grid) : Grid :=
  g.add g.doubleRound.doubleRound.doubleRound.doubleRound

end Grid

/-! ## The key stream -/

/-- The state from which a word of the key is drawn, after the given one. -/
def nextSeed (s : UInt64) : UInt64 :=
  s * 6364136223846793005 + 11634580027462260723

/-- The word that is drawn from a state: bits of its upper half, rotated by its top five bits. -/
def seedWord (s : UInt64) : UInt32 :=
  let x := (((s >>> 18) ^^^ s) >>> 27).toUInt32
  let k := (s >>> 59).toUInt32
  if k = 0 then x else (x >>> k) ||| (x <<< (32 - k))

/-- The next `n` states. -/
def seeds (s : UInt64) : Nat → List UInt64
  | 0 => []
  | n + 1 => nextSeed s :: seeds (nextSeed s) n

/-- The four words of a list from a place on. -/
def rowAt (ws : List UInt32) (i : Nat) : Row :=
  ⟨ws.getD i 0, ws.getD (i + 1) 0, ws.getD (i + 2) 0, ws.getD (i + 3) 0⟩

/-- The first row of every state, `expand 32-byte k` in ASCII. -/
def constants : Row := ⟨0x61707865, 0x3320646e, 0x79622d32, 0x6b206574⟩

/-- The state for the block with the given number, under a key. -/
def blockState (key : List UInt32) (block : UInt64) : Grid :=
  ⟨constants, rowAt key 0, rowAt key 4, ⟨block.toUInt32, (block >>> 32).toUInt32, 0, 0⟩⟩

/-- The words of a block of the key stream. -/
def blockWords (key : List UInt32) (block : Nat) : List UInt32 :=
  (blockState key (UInt64.ofNat block)).scramble.toList

/-- The 64-bit word with the given number of the key stream: two words of a block, the low half
first. -/
def streamWord (key : List UInt32) (i : Nat) : UInt64 :=
  let ws := blockWords key (i / 8)
  let low := ws.getD (2 * (i % 8)) 0
  let high := ws.getD (2 * (i % 8) + 1) 0
  low.toUInt64 ||| (high.toUInt64 <<< 32)

/-- The number of 64-bit words before the counter of the blocks starts again. -/
def period : Nat := 8 * UInt64.size

/-- The tape of random words that a seed gives. -/
def tape (seed : UInt64) : Tape :=
  let key := (seeds seed 8).map seedWord
  .upTo period (streamWord key)

end ChaCha

end Colloquy
