import Colloquy.Proofs.Trie.Backtracking

/-!
# A stack of stretches

A search may keep the stretches of its wildcards on a stack for each segment: it puts the stretch of
a move on top before it goes on, and takes it off again when it comes back with nothing. This is the
same search. Whatever stands on the stacks, they are as before when it comes back with nothing, and
when it comes back with a rule, the stretches of the rule stand on top.

* `Bindings.drop` — the stretch of a move is taken off its stack.
* `Trie.searchOnStack` — a search with stacks.
* `Trie.searchOnStack_eq` — what it finds and what it leaves on the stacks.
* `Trie.searchOnStack_start` — from empty stacks it finds what the search from the root finds.
-/

namespace Colloquy

/-! ## Stacks -/

/-- The last stretch of a segment is taken off, if a move from a state has put one there. -/
def Bindings.drop (taken : Bindings) (s : State) (m : Move) : Bindings :=
  match m.span? with
  | .none => taken
  | some _ => taken.modify List.dropLast s.segment

/-- What a move has put on top is what is taken off. -/
@[simp] theorem Bindings.drop_take (taken : Bindings) (s : State) (m : Move) :
    (taken.take s m).drop s m = taken := by
  unfold drop take
  cases m.span? with
  | none => rfl
  | some r =>
    have hback : List.dropLast ∘ (· ++ [r]) = id := funext fun _ => List.dropLast_concat
    show (taken.modify (· ++ [r]) s.segment).modify List.dropLast s.segment = taken
    rw [Segmented.modify_modify, hback, Segmented.modify_id]

/-- How far a search with stacks has come: what it has seen, and the stretches on its stacks. -/
structure Progress where
  trail : Trail := {}
  taken : Bindings := .none

/-- The first of several moves behind which `walk` finds a rule. The stretch of a move is on its
stack while the move is tried. -/
def firstOnStack (walk : State → Progress → Option Nat × Progress) (s : State) :
    List Move → Progress → Option Nat × Progress
  | [], progress => (none, progress)
  | m :: ms, progress =>
    match walk m.target { progress with taken := progress.taken.take s m } with
    | (some id, progress) => (some id, progress)
    | (none, progress) => firstOnStack walk s ms { progress with taken := progress.taken.drop s m }

/-- What becomes of stacks when a search ends: the stretches of the rule that was found stand on
top of what was there before. -/
def Progress.ending (taken : Bindings) : Option Found × Trail → Option Nat × Progress
  | (some f, trail) => (some f.id, ⟨trail, taken.append f.bindings⟩)
  | (none, trail) => (none, ⟨trail, taken⟩)

/-- Moves are tried with stacks as they are without, if each target is looked into so. -/
theorem firstOnStack_eq {walk : State → Progress → Option Nat × Progress}
    {search : State → Trail → Option Found × Trail}
    (h : ∀ s trail taken, walk s ⟨trail, taken⟩ = Progress.ending taken (search s trail))
    (s : State) (ms : List Move) (trail : Trail) (taken : Bindings) :
    firstOnStack walk s ms ⟨trail, taken⟩ =
      Progress.ending taken (firstFound search s ms trail) := by
  induction ms generalizing trail with
  | nil => rfl
  | cons m ms ih =>
    rw [firstOnStack, firstFound, h]
    rcases search m.target trail with ⟨_ | f, trail'⟩
    · -- nothing was found, so the stretch of the move is still on top and goes
      simp only [Progress.ending, Bindings.drop_take]
      exact ih trail'
    · have hontop : (taken.take s m).append f.bindings = taken.append (f.after s m).bindings :=
        congrArg Found.bindings (Found.behind_after taken s m f).symm
      simp only [Progress.ending, Found.id_after, hontop]

namespace Trie

variable {α : Type} (t : Trie α) (q : Query) (name : List Word)

/-! ## The search with stacks -/

/-- Search from a state over at most `depth` nodes, with the stretches on stacks. -/
def searchOnStack : (depth : Nat) → State → Progress → Option Nat × Progress
  | 0, _, progress => (none, progress)
  | depth + 1, s, progress =>
    if s ∈ progress.trail.givenUp then (none, progress)
    else
      let progress := { progress with trail := progress.trail.enter s }
      match t.ruleAt? q s with
      | some id => (some id, progress)
      | none =>
        match firstOnStack (searchOnStack depth) s (t.moves q name s) progress with
        | (some id, progress) => (some id, progress)
        | (none, progress) => (none, { progress with trail := progress.trail.giveUp s })

/-- **A search with stacks is the search.** It finds the same rule and sees the same states. When it
comes back with nothing, the stacks are as they were; when it comes back with a rule, they hold what
they held before and, on top of it, exactly the stretches of the rule. -/
theorem searchOnStack_eq (depth : Nat) (s : State) (trail : Trail) (taken : Bindings) :
    t.searchOnStack q name depth s ⟨trail, taken⟩ =
      Progress.ending taken (t.search q name depth s trail) := by
  induction depth generalizing s trail taken with
  | zero => rfl
  | succ depth ih =>
    rw [searchOnStack, search]
    by_cases hgiven : s ∈ trail.givenUp
    · rw [if_pos hgiven, if_pos hgiven]
      rfl
    · rw [if_neg hgiven, if_neg hgiven]
      cases t.ruleAt? q s with
      | some id => simp [Progress.ending, Trail.enter]
      | none =>
        have hmoves := firstOnStack_eq ih s (t.moves q name s) (trail.enter s) taken
        simp only [hmoves]
        show _ = Progress.ending taken (match
          firstFound (t.search q name depth) s (t.moves q name s) (trail.enter s) with
          | (some f, trail) => (some f, trail)
          | (none, trail) => (none, trail.giveUp s))
        rcases firstFound (t.search q name depth) s (t.moves q name s) (trail.enter s) with
          ⟨_ | f, trail'⟩ <;> rfl

/-- From empty stacks, what is found is the rule that the search from the root finds, and the stacks
then hold the stretches of that rule and no other. -/
theorem searchOnStack_start : t.searchOnStack q name t.nodeCount start {} =
    match t.searchFromRoot q name with
    | (some f, trail) => (some f.id, ⟨trail, f.bindings⟩)
    | (none, trail) => (none, ⟨trail, .none⟩) :=
  t.searchOnStack_eq q name t.nodeCount start {} .none

end Trie

end Colloquy
