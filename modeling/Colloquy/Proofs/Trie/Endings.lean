import Colloquy.Proofs.Trie.Growth
import Colloquy.Proofs.Trie.Moves

/-!
# How a search comes to its end

How a search goes on when nothing bounds its depth is said here as a relation. A search that is
allowed as many nodes as there are comes to such an end, so what holds of every search is proved by
induction over the ways in which one ends.

* `Trie.Ends` — a task of the search comes to its end; one that goes on for ever has none.
* `Ends.unique` — there is only one end that it can come to.
* `Ascending.ends_search` — the search comes to its end, and the number of nodes is depth enough.
-/

namespace Colloquy

/-- A state is entered. -/
def Trail.enter (trail : Trail) (s : State) : Trail :=
  { trail with entered := s :: trail.entered }

/-- A state is given up. -/
def Trail.giveUp (trail : Trail) (s : State) : Trail :=
  { trail with givenUp := trail.givenUp.insert s }

theorem Trail.mem_giveUp_iff {trail : Trail} {s r : State} :
    r ∈ (trail.giveUp s).givenUp ↔ r = s ∨ r ∈ trail.givenUp := by
  rw [giveUp, Std.TreeSet.mem_insert, Std.LawfulEqCmp.compare_eq_iff_eq, eq_comm]

/-- What a search has to do: to look for a rule from a state, or behind the moves from a state, one
after the other. -/
inductive Task where
  | state (s : State)
  | moves (s : State) (ms : List Move)

/-- The states that a task begins at. -/
def Task.begins : Task → List State
  | .state s => [s]
  | .moves _ ms => ms.map Move.target

namespace Trie

variable {α : Type} (t : Trie α) (q : Query) (name : List Word)

/-! ## Searching without a bound -/

/-- A task that is begun with a trail comes to its end, with what is found and the trail that is
left. There is no bound on the number of states on the way. -/
inductive Ends : Task → Trail → Option Found → Trail → Prop where
  /-- A state that was given up is not looked into again. -/
  | passed {s : State} {trail : Trail} (given : s ∈ trail.givenUp) :
      Ends (.state s) trail none trail
  /-- A state is entered, and it ends the search at a rule. -/
  | rule {s : State} {trail : Trail} {id : Nat} (new : s ∉ trail.givenUp)
      (rule : t.ruleAt? q s = some id) :
      Ends (.state s) trail (some ⟨id, .none⟩) (trail.enter s)
  /-- A state is entered, and a rule is found behind its moves. -/
  | found {s : State} {trail trail' : Trail} {f : Found} (new : s ∉ trail.givenUp)
      (rule : t.ruleAt? q s = none)
      (behind : Ends (.moves s (t.moves q name s)) (trail.enter s) (some f) trail') :
      Ends (.state s) trail (some f) trail'
  /-- A state is entered, and it is given up, for no rule is found behind its moves. -/
  | failed {s : State} {trail trail' : Trail} (new : s ∉ trail.givenUp)
      (rule : t.ruleAt? q s = none)
      (behind : Ends (.moves s (t.moves q name s)) (trail.enter s) none trail') :
      Ends (.state s) trail none (trail'.giveUp s)
  /-- No moves are left. -/
  | done {s : State} {trail : Trail} : Ends (.moves s []) trail none trail
  /-- A rule is found behind the first of some moves. -/
  | hit {s : State} {m : Move} {ms : List Move} {trail trail' : Trail} {f : Found}
      (first : Ends (.state m.target) trail (some f) trail') :
      Ends (.moves s (m :: ms)) trail (some (f.after s m)) trail'
  /-- None is found behind the first of them, and the others are tried. -/
  | miss {s : State} {m : Move} {ms : List Move} {trail trail' trail'' : Trail}
      {found? : Option Found} (first : Ends (.state m.target) trail none trail')
      (others : Ends (.moves s ms) trail' found? trail'') :
      Ends (.moves s (m :: ms)) trail found? trail''

variable {t q name}

/-- A task can come to one end only. -/
theorem Ends.unique {task : Task} {trail trail' trail'' : Trail} {found? found?' : Option Found}
    (h : Ends t q name task trail found? trail') (h' : Ends t q name task trail found?' trail'') :
    found? = found?' ∧ trail' = trail'' := by
  induction h generalizing found?' trail'' with
  | passed given =>
    cases h' with
    | passed _ => exact ⟨rfl, rfl⟩
    | rule new _ | found new _ _ | failed new _ _ => exact absurd given new
  | rule new rule =>
    cases h' with
    | passed given => exact absurd given new
    | rule _ rule' =>
      rw [rule] at rule'
      obtain rfl := Option.some.inj rule'
      exact ⟨rfl, rfl⟩
    | found _ rule' _ | failed _ rule' _ =>
      rw [rule] at rule'
      cases rule'
  | found new rule behind ih =>
    cases h' with
    | passed given => exact absurd given new
    | rule _ rule' =>
      rw [rule] at rule'
      cases rule'
    | found _ _ behind' => exact ih behind'
    | failed _ _ behind' => cases (ih behind').1
  | failed new rule behind ih =>
    cases h' with
    | passed given => exact absurd given new
    | rule _ rule' =>
      rw [rule] at rule'
      cases rule'
    | found _ _ behind' => cases (ih behind').1
    | failed _ _ behind' =>
      obtain ⟨-, rfl⟩ := ih behind'
      exact ⟨rfl, rfl⟩
  | done =>
    cases h' with
    | done => exact ⟨rfl, rfl⟩
  | hit first ih =>
    cases h' with
    | hit first' =>
      obtain ⟨hf, rfl⟩ := ih first'
      obtain rfl := Option.some.inj hf
      exact ⟨rfl, rfl⟩
    | miss first' _ => cases (ih first').1
  | miss first others ihfirst ihothers =>
    cases h' with
    | hit first' => cases (ihfirst first').1
    | miss first' others' =>
      obtain ⟨-, rfl⟩ := ihfirst first'
      exact ihothers others'

/-! ## How far a search has to go -/

/-- A move leads to a later node. -/
theorem Ascending.lt_target (h : t.Ascending) {s : State} {m : Move}
    (hm : m ∈ t.moves q name s) : s.node < m.target.node ∧ m.target.node < t.nodeCount := by
  obtain ⟨st, htakes⟩ := (mem_moves_iff t q name s m).mp hm
  exact h.tree.child htakes.child

/-- If a search from the targets of some moves comes to its end, so does the search behind them. -/
theorem ends_firstFound {search : State → Trail → Option Found × Trail} {s : State}
    {ms : List Move}
    (hsearch : ∀ m ∈ ms, ∀ trail, Ends t q name (.state m.target) trail
      (search m.target trail).1 (search m.target trail).2) (trail : Trail) :
    Ends t q name (.moves s ms) trail (firstFound search s ms trail).1
      (firstFound search s ms trail).2 := by
  induction ms generalizing trail with
  | nil => exact .done
  | cons m ms ih =>
    obtain ⟨hm, hms⟩ := List.forall_mem_cons.mp hsearch
    have hfirst := hm trail
    rw [firstFound]
    rcases hres : search m.target trail with ⟨found?, trail'⟩
    rw [hres] at hfirst
    cases found? with
    | some f => exact .hit hfirst
    | none => exact .miss hfirst (ih hms trail')

/-- **The search comes to its end.** No way is longer than there are nodes behind the state that it
leads from, so a bound on the depth that allows for these is never met. -/
theorem Ascending.ends_search (h : t.Ascending) {depth : Nat} {s : State}
    (hs : s.node < t.nodeCount) (hd : t.nodeCount ≤ s.node + depth) (trail : Trail) :
    Ends t q name (.state s) trail (t.search q name depth s trail).1
      (t.search q name depth s trail).2 := by
  induction depth generalizing s trail with
  | zero => omega
  | succ depth ih =>
    rw [search]
    split
    · rename_i given
      exact .passed given
    · rename_i new
      cases hrule : t.ruleAt? q s with
      | some id => exact .rule new hrule
      | none =>
        have hmoves : ∀ m ∈ t.moves q name s, ∀ trail, Ends t q name (.state m.target) trail
            (t.search q name depth m.target trail).1
            (t.search q name depth m.target trail).2 := by
          intro m hm trail
          have hlt := h.lt_target hm
          exact ih hlt.2 (by omega) trail
        have hbehind := ends_firstFound (s := s) hmoves (trail.enter s)
        rw [Trail.enter] at hbehind
        rcases hres : firstFound (t.search q name depth) s (t.moves q name s)
          { trail with entered := s :: trail.entered } with ⟨found?, trail'⟩
        rw [hres] at hbehind
        simp only [hres]
        cases found? with
        | some f => exact .found new hrule hbehind
        | none => exact .failed new hrule hbehind

theorem Ascending.ends_searchFromRoot (h : t.Ascending) :
    Ends t q name (.state start) {} (t.searchFromRoot q name).1 (t.searchFromRoot q name).2 :=
  h.ends_search h.root (Nat.le_add_left _ _) {}

end Trie

end Colloquy
