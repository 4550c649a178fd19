/-!
# Sets of code points

A property of characters is a set of code points, kept as the ascending list of the points at which
membership changes.
-/

namespace Colloquy.Unicode

/-- The points at which membership changes: `[a, b, c, d]` holds what is at least `a` and below `b`,
and what is at least `c` and below `d`. -/
abbrev Boundaries := List Nat

namespace Boundaries

/-- A point is inside when the first boundary has been passed and it is not inside the rest. -/
def contains : Boundaries → Nat → Bool
  | [], _ => false
  | b :: bs, n => decide (b ≤ n) && !contains bs n

@[simp] theorem contains_nil (n : Nat) : contains [] n = false := rfl

theorem contains_cons (b : Nat) (bs : Boundaries) (n : Nat) :
    contains (b :: bs) n = (decide (b ≤ n) && !contains bs n) := rfl

end Boundaries

end Colloquy.Unicode
