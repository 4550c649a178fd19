import Colloquy.Proofs.Trie.Exploration

/-!
# Ways from a state to a rule

A way is the list of the steps that lead from a state to a rule. Plain search tries the moves of a
state in the order of their steps, so of all ways it finds the one that is preferred at the first
step where two of them differ.

* `Leads` — a way from a state, and what is found at its end.
* `FirstWay` — the way that is preferred to all others.
* `Ascending.explore_eq_some`, `Ascending.explore_eq_none` — plain search finds the first way, and
  finds nothing only where there is no way.
-/

namespace Colloquy

namespace Trie

variable {α : Type} (t : Trie α) (q : Query) (name : List Word)

/-- The steps that lead from a state to a rule, and what is found at their end. -/
inductive Leads : State → List Step → Found → Prop where
  /-- The state ends the search at a rule. -/
  | stop {s : State} {id : Nat} (rule : t.ruleAt? q s = some id) : Leads s [.close] ⟨id, .none⟩
  /-- A move leads to a state from which the rest leads on. -/
  | go {s : State} {m : Move} {st : Step} {steps : List Step} {f : Found}
      (takes : Takes t q name s m st) (rest : Leads m.target steps f) :
      Leads s (st :: steps) (f.after s m)

/-- A way that is preferred to all other ways from a state. -/
structure FirstWay (s : State) (steps : List Step) (f : Found) : Prop where
  leads : Leads t q name s steps f
  first : ∀ {steps' : List Step} {f' : Found}, Leads t q name s steps' f' → steps' ≠ steps →
    List.Lex (Step.Before t.options.appetite) steps steps'

variable {t q name}

theorem segment_of_ruleAt? {s : State} {id : Nat} (h : t.ruleAt? q s = some id) :
    s.pos = (q.get s.segment).length ∧ s.segment = .topic ∧
      (t.node s.node).rule? = some id := by
  unfold ruleAt? at h
  split at h
  · rename_i hend
    exact ⟨by simpa [isAtEnd] using hend.1, hend.2, h⟩
  · simp at h

theorem ruleAt?_eq_some {s : State} {id : Nat} (hend : s.pos = (q.get s.segment).length)
    (hseg : s.segment = .topic) (hrule : (t.node s.node).rule? = some id) :
    t.ruleAt? q s = some id := by
  simp [ruleAt?, isAtEnd, hend, hseg, hrule]

/-- The way that stops at once is the first where there is one. -/
theorem firstWay_of_rule {s : State} {id : Nat} (h : t.ruleAt? q s = some id) :
    FirstWay t q name s [.close] ⟨id, .none⟩ := by
  refine ⟨.stop h, fun {steps' f'} hleads hne => ?_⟩
  cases hleads with
  | stop _ => exact absurd rfl hne
  | go takes rest =>
    cases takes with
    | along child covers here => exact .rel (.close _)
    | cross used following child =>
      rw [(segment_of_ruleAt? h).2.1] at following
      simp [Segment.next?] at following

/-- A move in front of the first way from its target is the first way, if no move that is listed
before it leads anywhere. -/
theorem firstWay_of_move {s : State} (hrule : t.ruleAt? q s = none) {before after : List Move}
    {m : Move} (hmoves : t.moves q name s = before ++ m :: after)
    (hdead : ∀ m' ∈ before, ∀ steps f, ¬ Leads t q name m'.target steps f)
    {steps : List Step} {f : Found} (hfirst : FirstWay t q name m.target steps f) :
    ∃ st, FirstWay t q name s (st :: steps) (f.after s m) := by
  have hmem : m ∈ t.moves q name s := by simp [hmoves]
  obtain ⟨st, htakes⟩ := (mem_moves_iff t q name s m).mp hmem
  refine ⟨st, .go htakes hfirst.leads, fun {steps' f'} hleads hne => ?_⟩
  cases hleads with
  | stop hrule' => simp [hrule] at hrule'
  | @go _ m' st' steps'' f'' htakes' rest =>
    have hmem' : m' ∈ before ++ m :: after := hmoves ▸
      (mem_moves_iff t q name s m').mpr ⟨st', htakes'⟩
    rcases List.mem_append.mp hmem' with hbefore | hmem'
    · exact absurd rest (hdead m' hbefore _ _)
    · rcases List.mem_cons.mp hmem' with rfl | hafter
      · obtain rfl := htakes.step_unique htakes'
        exact .cons (hfirst.first rest fun heq => hne (by rw [heq]))
      · have hordered := t.pairwise_moves q name s
        rw [hmoves, List.pairwise_append, List.pairwise_cons] at hordered
        exact .rel (hordered.2.1.1 m' hafter htakes htakes')

/-- Plain search tells which way is first: the induction is on the number of nodes that come after
the node of the state. -/
theorem Ascending.explore_first (h : t.Ascending) (s : State) :
    (∀ f, t.explore q name s = some f → ∃ steps, FirstWay t q name s steps f) ∧
      (t.explore q name s = none → ∀ steps f, ¬ Leads t q name s steps f) := by
  induction hn : t.nodeCount - s.node using Nat.strongRecOn generalizing s with
  | ind n ih =>
    have hnext : ∀ m ∈ t.moves q name s, t.nodeCount - m.target.node < n := by
      intro m hm
      have hlt := h.lt_target hm
      omega
    rw [h.explore_eq s]
    cases hrule : t.ruleAt? q s with
    | some id =>
      refine ⟨fun f hf => ?_, fun hnone => by simp at hnone⟩
      obtain rfl := Option.some.inj hf
      exact ⟨_, firstWay_of_rule hrule⟩
    | none =>
      constructor
      · intro f hf
        obtain ⟨before, m, after, hmoves, hm, hbefore⟩ := List.findSome?_eq_some_iff.mp hf
        obtain ⟨g, hg, rfl⟩ := Option.map_eq_some_iff.mp hm
        have hmem : m ∈ t.moves q name s := by simp [hmoves]
        obtain ⟨steps, hfirst⟩ := (ih _ (hnext m hmem) m.target rfl).1 g hg
        have hdead : ∀ m' ∈ before, ∀ steps f, ¬ Leads t q name m'.target steps f := by
          intro m' hm'
          have hmem' : m' ∈ t.moves q name s := by simp [hmoves, hm']
          exact (ih _ (hnext m' hmem') m'.target rfl).2 (by simpa using hbefore m' hm')
        obtain ⟨st, hway⟩ := firstWay_of_move hrule hmoves hdead hfirst
        exact ⟨_, hway⟩
      · intro hnone steps f hleads
        cases hleads with
        | stop hrule' => simp [hrule] at hrule'
        | @go _ m st _ _ htakes rest =>
          have hmem : m ∈ t.moves q name s := (mem_moves_iff t q name s m).mpr ⟨st, htakes⟩
          have hm := List.findSome?_eq_none_iff.mp hnone m hmem
          exact (ih _ (hnext m hmem) m.target rfl).2 (by simpa using hm) _ _ rest

/-- What plain search finds is at the end of the first way. -/
theorem Ascending.explore_eq_some (h : t.Ascending) {s : State} {f : Found}
    (hf : t.explore q name s = some f) : ∃ steps, FirstWay t q name s steps f :=
  (h.explore_first s).1 f hf

/-- Where plain search finds nothing there is no way. -/
theorem Ascending.explore_eq_none (h : t.Ascending) {s : State}
    (hs : t.explore q name s = none) (steps : List Step) (f : Found) :
    ¬ Leads t q name s steps f :=
  (h.explore_first s).2 hs steps f

end Trie

end Colloquy
