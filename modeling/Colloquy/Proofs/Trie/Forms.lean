import Colloquy.Trie.Search

/-!
# What a search reads of a query

A search compares the forms of words and counts words. How the words of a query are written has no
part in it, so queries whose words have the same forms are answered by the same rule with the same
stretches.

* `Query.SameForms` — queries whose words have the same forms.
* `Trie.moves_congr` — the same ways lead on.
* `Trie.find?_congr` — the same is found.
-/

namespace Colloquy

/-- Segment by segment, the words of the two queries have the same forms. -/
def Query.SameForms (q q' : Query) : Prop :=
  ∀ s, (q.get s).map Word.form = (q'.get s).map Word.form

namespace Query.SameForms

variable {q q' : Query}

/-- Inputs whose words have the same forms, in one context and under one topic. -/
theorem ofWords {ws vs : List Word} (h : ws.map Word.form = vs.map Word.form)
    (context topic : List Word) :
    (Query.ofWords ws context topic).SameForms (.ofWords vs context topic) := by
  intro s
  cases s with
  | pattern => exact h
  | context => rfl
  | topic => rfl

theorem length_eq (h : q.SameForms q') (s : Segment) : (q.get s).length = (q'.get s).length := by
  simpa using congrArg List.length (h s)

end Query.SameForms

namespace Trie

variable {α : Type} {q q' : Query} (t : Trie α) (name : List Word)

theorem wordMoves_congr (h : q.SameForms q') (s : State) : t.wordMoves q s = t.wordMoves q' s := by
  have hform := congrArg (·[s.pos]?) (h s.segment)
  simp only [List.getElem?_map] at hform
  unfold wordMoves
  cases hw : (q.get s.segment)[s.pos]? with
  | none =>
    rw [hw, Option.map_none] at hform
    rw [Option.map_eq_none_iff.mp hform.symm]
  | some w =>
    rw [hw, Option.map_some] at hform
    obtain ⟨w', hw', hsame⟩ := Option.map_eq_some_iff.mp hform.symm
    rw [hw']
    simp only [hsame]

theorem botNameMoves_congr (h : q.SameForms q') (s : State) :
    t.botNameMoves q name s = t.botNameMoves q' name s := by
  rw [botNameMoves, botNameMoves, nameAt, nameAt, List.map_drop, List.map_drop, h s.segment]

theorem wildcardMoves_congr (h : q.SameForms q') (slot : Slot) (least : Nat) (s : State) :
    t.wildcardMoves q slot least s = t.wildcardMoves q' slot least s := by
  rw [wildcardMoves, wildcardMoves, h.length_eq]

theorem isAtEnd_congr (h : q.SameForms q') (s : State) : isAtEnd q s = isAtEnd q' s := by
  rw [isAtEnd, isAtEnd, h.length_eq]

/-- **From a state the same ways lead on.** -/
theorem moves_congr (h : q.SameForms q') (s : State) : t.moves q name s = t.moves q' name s := by
  rw [moves, moves, isAtEnd_congr h, t.wordMoves_congr h, t.botNameMoves_congr name h,
    t.wildcardMoves_congr h, t.wildcardMoves_congr h]

theorem ruleAt?_congr (h : q.SameForms q') (s : State) : t.ruleAt? q s = t.ruleAt? q' s := by
  rw [ruleAt?, ruleAt?, isAtEnd_congr h]

theorem search_congr (h : q.SameForms q') (depth : Nat) :
    t.search q name depth = t.search q' name depth := by
  induction depth with
  | zero => rfl
  | succ depth ih =>
    funext s trail
    rw [search, search, t.ruleAt?_congr h, t.moves_congr name h, ih]

/-- **The same rule is found, and its wildcards stand for the same stretches.** -/
theorem find?_congr (h : q.SameForms q') : t.find? q name = t.find? q' name := by
  rw [find?, find?, searchFromRoot, searchFromRoot, t.search_congr name h]

end Trie

end Colloquy
