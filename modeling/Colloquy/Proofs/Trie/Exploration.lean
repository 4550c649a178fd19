import Colloquy.Proofs.Trie.Endings

/-!
# Plain search

Search as it would be without a record of the states that were given up: every state is looked into
as often as ways lead to it. The record changes how long a search takes and nothing else, so
whatever is to be known about the answer of a search is proved of the plain one.

* `explore` — plain search from a state; `explore_eq` unfolds it once.
* `Ends.explores` — search finds what plain search finds.
-/

namespace Colloquy

namespace Trie

variable {α : Type} (t : Trie α) (q : Query) (name : List Word)

/-- Plain search from a state over at most `depth` nodes. -/
def exploreTo : (depth : Nat) → State → Option Found
  | 0, _ => none
  | depth + 1, s =>
    match t.ruleAt? q s with
    | some id => some ⟨id, .none⟩
    | none =>
      (t.moves q name s).findSome? fun m => (exploreTo depth m.target).map (Found.after s m)

/-- Plain search from a state, over as many nodes as come after its own. -/
def explore (s : State) : Option Found :=
  t.exploreTo q name (t.nodeCount - s.node) s

variable {t q name}

/-! ## How far plain search has to go -/

theorem ruleAt?_eq_none {s : State} (hs : t.nodeCount ≤ s.node) : t.ruleAt? q s = none := by
  simp [ruleAt?, node_eq_empty hs]

theorem Ascending.moves_eq_nil (h : t.Ascending) {s : State} (hs : t.nodeCount ≤ s.node) :
    t.moves q name s = [] := by
  refine List.eq_nil_iff_forall_not_mem.mpr fun m hm => ?_
  have hlt := h.lt_target hm
  omega

theorem Ascending.exploreTo_eq_none (h : t.Ascending) {s : State} (hs : t.nodeCount ≤ s.node)
    (depth : Nat) : t.exploreTo q name depth s = none := by
  cases depth with
  | zero => rfl
  | succ depth => rw [exploreTo, ruleAt?_eq_none hs, h.moves_eq_nil hs]; rfl

theorem findSome?_congr {β γ : Type} {f g : β → Option γ} {xs : List β}
    (h : ∀ x ∈ xs, f x = g x) : xs.findSome? f = xs.findSome? g := by
  induction xs with
  | nil => rfl
  | cons x xs ih =>
    rw [List.findSome?_cons, List.findSome?_cons, h x List.mem_cons_self,
      ih fun y hy => h y (List.mem_cons_of_mem _ hy)]

/-- Beyond the number of nodes that are left, more depth changes nothing. -/
theorem Ascending.exploreTo_eq (h : t.Ascending) {depth depth' : Nat} {s : State}
    (hd : t.nodeCount ≤ s.node + depth) (hd' : t.nodeCount ≤ s.node + depth') :
    t.exploreTo q name depth s = t.exploreTo q name depth' s := by
  induction depth generalizing depth' s with
  | zero => rw [h.exploreTo_eq_none hd, h.exploreTo_eq_none hd]
  | succ depth ih =>
    cases depth' with
    | zero => rw [h.exploreTo_eq_none hd', h.exploreTo_eq_none hd']
    | succ depth' =>
      rw [exploreTo, exploreTo]
      cases t.ruleAt? q s with
      | some id => rfl
      | none =>
        refine findSome?_congr fun m hm => ?_
        have hlt := h.lt_target hm
        rw [@ih depth' m.target (by omega) (by omega)]

/-- Plain search looks into a state and, unless it ends the search, into the states its moves lead
to, in order. -/
theorem Ascending.explore_eq (h : t.Ascending) (s : State) :
    t.explore q name s =
      match t.ruleAt? q s with
      | some id => some ⟨id, .none⟩
      | none => (t.moves q name s).findSome? fun m =>
          (t.explore q name m.target).map (Found.after s m) := by
  have hdeep : t.explore q name s = t.exploreTo q name (t.nodeCount + 1) s :=
    h.exploreTo_eq (by omega) (by omega)
  rw [hdeep, exploreTo]
  cases t.ruleAt? q s with
  | some id => rfl
  | none =>
    refine findSome?_congr fun m hm => ?_
    have htarget : t.exploreTo q name t.nodeCount m.target = t.explore q name m.target :=
      h.exploreTo_eq (by omega) (by omega)
    rw [htarget]

/-! ## The record of states that were given up -/

variable (t q name) in
/-- Plain search finds nothing from a state that was given up. -/
def TrailSound (trail : Trail) : Prop :=
  ∀ s ∈ trail.givenUp, t.explore q name s = none

theorem TrailSound.giveUp {trail : Trail} (htrail : TrailSound t q name trail) {s : State}
    (hs : t.explore q name s = none) : TrailSound t q name (trail.giveUp s) := by
  intro r hr
  rcases Trail.mem_giveUp_iff.mp hr with rfl | hr
  · exact hs
  · exact htrail r hr

variable (t q name) in
/-- What plain search finds in carrying out a task. -/
def exploreTask : Task → Option Found
  | .state s => t.explore q name s
  | .moves s ms => ms.findSome? fun m => (t.explore q name m.target).map (Found.after s m)

theorem exploreTask_cons (s : State) (m : Move) (ms : List Move) :
    t.exploreTask q name (.moves s (m :: ms)) =
      ((t.exploreTask q name (.state m.target)).map (Found.after s m)).or
        (t.exploreTask q name (.moves s ms)) := by
  simp only [exploreTask, List.findSome?_cons]
  cases (t.explore q name m.target).map (Found.after s m) <;> rfl

theorem Ascending.exploreTask_state (h : t.Ascending) {s : State} (hrule : t.ruleAt? q s = none) :
    t.exploreTask q name (.state s) = t.exploreTask q name (.moves s (t.moves q name s)) := by
  rw [exploreTask, h.explore_eq, hrule]
  rfl

/-- **The record of given-up states changes no answer.** With a sound record search finds what
plain search finds, and it leaves a sound record. -/
theorem Ends.explores (h : t.Ascending) {task : Task} {trail trail' : Trail}
    {found? : Option Found} (hends : Ends t q name task trail found? trail')
    (htrail : TrailSound t q name trail) :
    found? = t.exploreTask q name task ∧ TrailSound t q name trail' := by
  induction hends with
  | passed given => exact ⟨(htrail _ given).symm, htrail⟩
  | rule new rule =>
    refine ⟨?_, htrail⟩
    rw [exploreTask, h.explore_eq, rule]
  | found new rule behind ih =>
    rw [h.exploreTask_state rule]
    exact ih htrail
  | failed new rule behind ih =>
    obtain ⟨hnone, hsound⟩ := ih htrail
    rw [← h.exploreTask_state rule] at hnone
    exact ⟨hnone, hsound.giveUp hnone.symm⟩
  | done => exact ⟨rfl, htrail⟩
  | hit first ih =>
    obtain ⟨hfound, hsound⟩ := ih htrail
    refine ⟨?_, hsound⟩
    rw [exploreTask_cons, ← hfound]
    rfl
  | miss first others ihfirst ihothers =>
    obtain ⟨hnone, hsound⟩ := ihfirst htrail
    rw [exploreTask_cons, ← hnone]
    exact ihothers hsound

/-- What is found from the root, with the record of given-up states, is what is found without. -/
theorem Ascending.searchFromRoot_eq_explore (h : t.Ascending) (q : Query) (name : List Word) :
    (t.searchFromRoot q name).1 = t.explore q name start := by
  have hsound : TrailSound t q name {} := fun s hs => absurd hs Std.TreeSet.not_mem_emptyc
  exact (h.ends_searchFromRoot.explores h hsound).1

end Trie

end Colloquy
