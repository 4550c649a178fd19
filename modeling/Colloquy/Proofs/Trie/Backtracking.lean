import Colloquy.Proofs.Trie.Exploration

/-!
# Plain backtracking

The plainest search there is: it keeps the stretches that the wildcards stand for so far, tries the
moves of a state one after the other, and looks into a state anew whenever a way leads there. That
a search may leave out states it has given up rests on two things: nothing that was taken before a
state decides what is found from it, and a state from which nothing was found once leads nowhere
ever after.

* `Trie.backtrack` — plain backtracking from a state, with the stretches taken so far.
* `Trie.backtrack_eq_explore` — the stretches taken so far stand in front of what is found.
* `Trie.searchFromRoot_eq_backtrack` — the record of given-up states is invisible.
-/

namespace Colloquy

/-! ## Stretches taken so far -/

namespace Bindings

/-- The stretches taken so far, with that of a move from a state behind them. -/
def take (taken : Bindings) (s : State) (m : Move) : Bindings :=
  match m.span? with
  | .none => taken
  | some r => taken.modify (· ++ [r]) s.segment

/-- Stretches with others behind them, segment by segment. -/
def append (taken rest : Bindings) : Bindings :=
  ⟨taken.pattern ++ rest.pattern, taken.context ++ rest.context, taken.topic ++ rest.topic⟩

@[simp] theorem append_none (taken : Bindings) : taken.append .none = taken := by
  simp [append, none, Segmented.replicate]

/-- A stretch behind those taken so far is a stretch in front of the rest. -/
theorem append_cons (taken rest : Bindings) (s : Segment) (r : Span) :
    taken.append (rest.cons s r) = Bindings.append (taken.modify (· ++ [r]) s) rest := by
  cases s <;> simp [append, cons, Segmented.modify]

end Bindings

/-- A rule that was found, with the stretches taken before in front. -/
def Found.behind (taken : Bindings) (f : Found) : Found :=
  { f with bindings := taken.append f.bindings }

@[simp] theorem Found.behind_none (f : Found) : f.behind .none = f := rfl

/-- To take the stretch of a move and go on is to go on and put it in front of what is found. -/
theorem Found.behind_after (taken : Bindings) (s : State) (m : Move) (f : Found) :
    (f.after s m).behind taken = f.behind (taken.take s m) := by
  unfold Found.after Bindings.take
  cases m.span? with
  | none => rfl
  | some r => exact congrArg (Found.mk f.id) (Bindings.append_cons taken f.bindings s.segment r)

/-- What was taken before may be put in front of what the moves from a state lead to, or be taken
along on each of them. -/
theorem Found.map_behind_findSome? (taken : Bindings) (s : State) (found? : Move → Option Found)
    (ms : List Move) :
    (ms.findSome? fun m => (found? m).map (Found.after s m)).map (Found.behind taken) =
      ms.findSome? fun m => (found? m).map (Found.behind (taken.take s m)) := by
  rw [List.map_findSome?]
  refine Trie.findSome?_congr fun m _ => ?_
  rw [Function.comp_apply, Option.map_map]
  exact congrArg (Option.map · _) (funext fun f => Found.behind_after taken s m f)

namespace Trie

variable {α : Type} (t : Trie α) (q : Query) (name : List Word)

/-! ## Backtracking -/

/-- Plain backtracking from a state over at most `depth` nodes, with the stretches taken so far. -/
def backtrackTo : (depth : Nat) → State → Bindings → Option Found
  | 0, _, _ => none
  | depth + 1, s, taken =>
    match t.ruleAt? q s with
    | some id => some ⟨id, taken⟩
    | none => (t.moves q name s).findSome? fun m => backtrackTo depth m.target (taken.take s m)

/-- Plain backtracking from a state, over as many nodes as come after its own. -/
def backtrack (s : State) (taken : Bindings) : Option Found :=
  t.backtrackTo q name (t.nodeCount - s.node) s taken

theorem backtrackTo_eq_exploreTo (depth : Nat) (s : State) (taken : Bindings) :
    t.backtrackTo q name depth s taken =
      (t.exploreTo q name depth s).map (Found.behind taken) := by
  induction depth generalizing s taken with
  | zero => rfl
  | succ depth ih =>
    rw [backtrackTo, exploreTo]
    cases t.ruleAt? q s with
    | some id => simp [Found.behind]
    | none => simp only [ih, Found.map_behind_findSome?]

/-- **What was taken before decides nothing.** Whatever stretches were taken before a state, they
stand in front of what is found from it. -/
theorem backtrack_eq_explore (s : State) (taken : Bindings) :
    t.backtrack q name s taken = (t.explore q name s).map (Found.behind taken) :=
  t.backtrackTo_eq_exploreTo q name _ s taken

variable {t q name}

/-- Backtracking looks into a state and, unless it ends the search, tries its moves in order: the
number of nodes is depth enough. -/
theorem Ascending.backtrack_eq (h : t.Ascending) (s : State) (taken : Bindings) :
    t.backtrack q name s taken =
      match t.ruleAt? q s with
      | some id => some ⟨id, taken⟩
      | none => (t.moves q name s).findSome? fun m =>
          t.backtrack q name m.target (taken.take s m) := by
  rw [backtrack_eq_explore, h.explore_eq]
  cases t.ruleAt? q s with
  | some id => simp [Found.behind]
  | none =>
    simp only [backtrack_eq_explore, Found.map_behind_findSome?]

/-- **The record of given-up states is invisible.** In a trie that was made by storing rules, for
every query and every name of the bot, a search that keeps a record of the states it has given up
finds the same rule, with the same stretches in all segments, as plain backtracking, and nothing
where that finds nothing. Plain backtracking keeps no record: at a state it tries the moves in
order, however often it comes there. -/
theorem searchFromRoot_eq_backtrack {options : MatchOptions} {cat : Catalogue α}
    (h : Grown options t cat) (q : Query) (name : List Word) :
    (t.searchFromRoot q name).1 = t.backtrack q name start .none ∧
      ∀ s taken, t.backtrack q name s taken =
        match t.ruleAt? q s with
        | some id => some ⟨id, taken⟩
        | none => (t.moves q name s).findSome? fun m =>
            t.backtrack q name m.target (taken.take s m) := by
  refine ⟨?_, h.ascending.backtrack_eq⟩
  have hnothing : Found.behind .none = id := funext Found.behind_none
  rw [h.ascending.searchFromRoot_eq_explore, backtrack_eq_explore, hnothing, Option.map_id, id]

/-- The words `A` and `B`, with words before each. -/
def laterB : Address :=
  ⟨[.oneOrMore, .word ['A'], .oneOrMore, .word ['B']], .anything, .anything⟩

/-- Any input at all. -/
def anyInput : Address := ⟨[.zeroOrMore], .anything, .anything⟩

/-- Rules at these two addresses. -/
def aThenB : Trie Nat :=
  ((empty {}).add laterB 7).add anyInput 8

/-- The words of `a a a a`, with no context and no topic. -/
def aaaa : Query :=
  .ofWords (["a", "a", "a", "a"].map fun w => .ofText w.toList) [] []

theorem grown_aThenB : Grown {} aThenB [(laterB, 7), (anyInput, 8)] := by
  have hfirst : Grown {} ((empty {}).add laterB 7) [(laterB, 7)] := Grown.empty.add 7 rfl rfl
  have hstore : Catalogue.store anyInput 8 [(laterB, 7)] = [(laterB, 7), (anyInput, 8)] := by
    decide
  rw [← hstore]
  exact hfirst.add 8 rfl rfl

/-- Two ways lead over the first rule to one and the same state, which is given up on the first.
Both searches end at the second rule. -/
theorem searchFromRoot_aaaa : Grown {} aThenB [(laterB, 7), (anyInput, 8)] ∧
    (aThenB.searchFromRoot aaaa []).1 = some ⟨1, ⟨[⟨0, 4⟩], [⟨0, 1⟩], [⟨0, 1⟩]⟩⟩ ∧
    aThenB.backtrack aaaa [] start .none = some ⟨1, ⟨[⟨0, 4⟩], [⟨0, 1⟩], [⟨0, 1⟩]⟩⟩ := by
  have hsame := (searchFromRoot_eq_backtrack grown_aThenB aaaa []).1
  have hfound : (aThenB.searchFromRoot aaaa []).1 =
      some ⟨1, ⟨[⟨0, 4⟩], [⟨0, 1⟩], [⟨0, 1⟩]⟩⟩ := by decide +kernel
  exact ⟨grown_aThenB, hfound, hsame.symm.trans hfound⟩

end Trie

end Colloquy
