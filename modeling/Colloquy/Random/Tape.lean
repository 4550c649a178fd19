/-!
# Random words and choices made with them

A source of chance is a tape of 64-bit words. What has been read from it is told by a position, so
to make the same choices again it is enough to begin at the same position.

A choice refuses words until one of them can be taken. That it comes to its end is therefore a
condition on the words: where a source yields the largest word for ever, a choice among three things
refuses them all. The condition is a part of the structure of a tape (`fair`), so such a source is
none (`exists_word_ne_largest`), and where a tape is made it is proved (`upTo`). Any sequence of
words that meets it is a tape.

Main statement: `choose_lt` (a choice among `n` things is below `n`).
-/

namespace Colloquy

namespace Tape

/-- A word is taken for a choice among `n` things when the low half of its product with `n` does not
exceed this bound: `n` shifted until its top bit is the last of a word, less one. -/
def bound (n : Nat) : Nat :=
  n <<< (63 - n.log2) - 1

/-- Whether a word is taken for a choice among `n` things. -/
def accepts (n : Nat) (w : UInt64) : Bool :=
  w.toNat * n % UInt64.size ≤ bound n

theorem accepts_zero (n : Nat) : accepts n 0 := by
  simp [accepts]

end Tape

/-- A tape of 64-bit words, on which every choice comes to an end. -/
structure Tape where
  word : Nat → UInt64
  /-- For a choice among any number of things, there is from every position on a word that is
  taken. -/
  fair : ∀ n pos, ∃ i, pos ≤ i ∧ Tape.accepts n (word i)

namespace Tape

/-- No tape yields the largest word for ever. -/
theorem exists_word_ne_largest (tape : Tape) : ∃ i, tape.word i ≠ -1 := by
  obtain ⟨i, -, htaken⟩ := tape.fair 3 0
  refine ⟨i, fun hlargest => ?_⟩
  rw [hlargest] at htaken
  exact absurd htaken (by decide)

/-- The tape that holds the first `length` of some words, and zeros after them. -/
def upTo (length : Nat) (word : Nat → UInt64) : Tape where
  word i := if i < length then word i else 0
  fair n pos := ⟨max pos length, Nat.le_max_left .., by
    simp [Nat.not_lt.mpr (Nat.le_max_right pos length), accepts_zero]⟩

/-- The tape that holds some words. -/
def ofList (words : List UInt64) : Tape :=
  let array := words.toArray
  upTo array.size fun i => array.getD i 0

/-- A position is passed on to the next when its word is refused. -/
def Passed (tape : Tape) (n : Nat) (i pos : Nat) : Prop :=
  i = pos + 1 ∧ accepts n (tape.word pos) = false

theorem acc_passed_of_accepts (tape : Tape) {n pos : Nat} (h : accepts n (tape.word pos)) :
    Acc (tape.Passed n) pos :=
  .intro _ fun _ hpassed => by simp [hpassed.2] at h

/-- No position is passed on for ever: `k` counts the words up to one that is taken. -/
theorem wellFounded_passed (tape : Tape) (n : Nat) : WellFounded (tape.Passed n) := by
  have hnear : ∀ k pos, accepts n (tape.word (pos + k)) → Acc (tape.Passed n) pos := by
    intro k
    induction k with
    | zero => exact fun pos h => tape.acc_passed_of_accepts h
    | succ k ih =>
      intro pos h
      refine .intro _ fun i hi => ?_
      rw [hi.1]
      exact ih (pos + 1) (by rwa [Nat.add_right_comm])
  refine ⟨fun pos => ?_⟩
  obtain ⟨i, hle, htaken⟩ := tape.fair n pos
  exact hnear (i - pos) pos (by rwa [Nat.add_sub_cancel' hle])

/-- A choice among `n` things with the words from a position on, and the position after the words
that were read: the high half of the product of `n` with the first word that is taken. Zeros are
always taken, and they choose the first thing. -/
def choose (tape : Tape) (n : Nat) (pos : Nat) : Nat × Nat :=
  if h : accepts n (tape.word pos) then ((tape.word pos).toNat * n / UInt64.size, pos + 1)
  else tape.choose n (pos + 1)
  termination_by (tape.wellFounded_passed n).wrap pos
  decreasing_by exact ⟨rfl, by simpa using h⟩

/-- The choice is one of the `n` things. -/
theorem choose_lt (tape : Tape) {n : Nat} (h : 0 < n) (pos : Nat) :
    (tape.choose n pos).1 < n := by
  fun_induction choose tape n pos with
  | case1 pos _ =>
    have hw : (tape.word pos).toNat < UInt64.size := (tape.word pos).toNat_lt_size
    exact Nat.div_lt_of_lt_mul (Nat.mul_lt_mul_of_pos_right hw h)
  | case2 pos _ ih => exact ih

/-- Reading goes forward. -/
theorem lt_choose (tape : Tape) (n pos : Nat) : pos < (tape.choose n pos).2 := by
  fun_induction choose tape n pos with
  | case1 => exact Nat.lt_succ_self _
  | case2 pos _ ih => exact Nat.lt_of_succ_lt ih

end Tape

end Colloquy
