import Colloquy.Proofs.Trie.Backtracking
import Colloquy.Proofs.Trie.Numbers
import Mathlib.Data.List.Perm.Subperm

/-!
# No state is entered twice

Many ways lead to one and the same state, over other stretches and over other rules. A search enters
it once all the same: what was entered is given up, or it is still being looked into, and then it
lies before all that the search comes to next.

* `Accounted` — every state that was entered is given up or still being looked into.
* `Ends.accounted` — so it stays while a task is carried out.
* `searchFromRoot_enters_once` — no state is entered twice.
-/

namespace Colloquy

/-- A state lies behind others: its node comes after theirs. -/
def State.IsBehind (s : State) (pending : List State) : Prop :=
  ∀ r ∈ pending, r.node < s.node

namespace Trie

variable {α : Type} {t : Trie α} {q : Query} {name : List Word}

/-! ## What a task enters -/

/-- No state was entered twice, and every state that was entered is given up, or it is pending: it
is still being looked into. -/
structure Accounted (trail : Trail) (pending : List State) : Prop where
  nodup : trail.entered.Nodup
  known : ∀ r ∈ trail.entered, r ∈ pending ∨ r ∈ trail.givenUp

namespace Accounted

variable {trail : Trail} {pending : List State} {s : State}

theorem start : Accounted {} [] := ⟨.nil, by simp⟩

/-- A state behind all that are pending was not entered before, unless it is given up. -/
theorem enter (h : Accounted trail pending) (new : s ∉ trail.givenUp) (hs : s.IsBehind pending) :
    Accounted (trail.enter s) (s :: pending) := by
  have hentered : s ∉ trail.entered := by
    intro hmem
    rcases h.known s hmem with hpending | hgiven
    · exact Nat.lt_irrefl _ (hs s hpending)
    · exact new hgiven
  refine ⟨List.nodup_cons.mpr ⟨hentered, h.nodup⟩, fun r hr => ?_⟩
  rcases List.mem_cons.mp hr with rfl | hr
  · exact .inl List.mem_cons_self
  · exact (h.known r hr).imp_left (List.mem_cons_of_mem s)

/-- A state that is given up is not pending any more. -/
theorem giveUp (h : Accounted trail (s :: pending)) : Accounted (trail.giveUp s) pending := by
  refine ⟨h.nodup, fun r hr => ?_⟩
  rw [Trail.mem_giveUp_iff]
  rcases h.known r hr with hpending | hgiven
  · rcases List.mem_cons.mp hpending with rfl | hpending
    · exact .inr (.inl rfl)
    · exact .inl hpending
  · exact .inr (.inr hgiven)

end Accounted

/-- The moves from a state lead behind it, and behind all that it is behind of. -/
theorem Ascending.isBehind_moves (h : t.Ascending) {s : State} {pending : List State}
    (hs : s.IsBehind pending) :
    ∀ r ∈ (Task.moves s (t.moves q name s)).begins, r.IsBehind (s :: pending) := by
  refine List.forall_mem_map.mpr fun m hm => ?_
  have hlt := (h.lt_target hm).1
  exact List.forall_mem_cons.mpr ⟨hlt, fun r hr => Nat.lt_trans (hs r hr) hlt⟩

/-- **A task enters no state that was entered before.** Where it finds nothing, it has given up all
that it has entered. -/
theorem Ends.accounted (h : t.Ascending) {task : Task} {trail trail' : Trail}
    {found? : Option Found} (hends : Ends t q name task trail found? trail')
    {pending : List State} (htask : ∀ s ∈ task.begins, s.IsBehind pending)
    (htrail : Accounted trail pending) :
    trail'.entered.Nodup ∧ (found? = none → Accounted trail' pending) := by
  induction hends generalizing pending with
  | passed given => exact ⟨htrail.nodup, fun _ => htrail⟩
  | @rule s trail id new rule =>
    have hs : s.IsBehind pending := htask s List.mem_cons_self
    exact ⟨(htrail.enter new hs).nodup, nofun⟩
  | @found s trail trail' f new rule behind ih =>
    have hs : s.IsBehind pending := htask s List.mem_cons_self
    exact ⟨(ih (h.isBehind_moves hs) (htrail.enter new hs)).1, nofun⟩
  | @failed s trail trail' new rule behind ih =>
    -- The moves have left the state itself as the first that is pending.
    have hs : s.IsBehind pending := htask s List.mem_cons_self
    have hbehind := (ih (h.isBehind_moves hs) (htrail.enter new hs)).2 rfl
    exact ⟨hbehind.giveUp.nodup, fun _ => hbehind.giveUp⟩
  | done => exact ⟨htrail.nodup, fun _ => htrail⟩
  | hit first ih =>
    obtain ⟨hfirst, -⟩ := List.forall_mem_cons.mp htask
    exact ⟨(ih (List.forall_mem_singleton.mpr hfirst) htrail).1, nofun⟩
  | miss first others ihfirst ihothers =>
    obtain ⟨hfirst, hothers⟩ := List.forall_mem_cons.mp htask
    have hgiven := (ihfirst (List.forall_mem_singleton.mpr hfirst) htrail).2 rfl
    exact ihothers hothers hgiven

/-! ## How many states there are -/

variable (t q) in
/-- A state of a search: its node is there, it is in one of the three segments, and no more words of
the segment are passed than there are. -/
structure Fits (s : State) : Prop where
  node : s.node < t.nodeCount
  segment : s.segment.rank < 3
  pos : s.pos ≤ (q.get s.segment).length

theorem Ascending.fits_start (h : t.Ascending) : Fits t q start :=
  ⟨h.root, by decide, Nat.zero_le _⟩

theorem Ascending.fits_target (h : t.Ascending) {s : State} (hs : Fits t q s) {m : Move}
    (hm : m ∈ t.moves q name s) : Fits t q m.target := by
  have hnode := (h.lt_target hm).2
  obtain ⟨st, htakes⟩ := (mem_moves_iff t q name s m).mp hm
  cases htakes with
  | @along slot ws i child covers here =>
    have hlength := here.length_le
    rw [List.length_drop] at hlength
    have hpos := hs.pos
    exact ⟨hnode, hs.segment, by simp only [Move.along]; omega⟩
  | @cross next i used following child =>
    have hrank : next.rank < 3 := by cases next <;> decide
    exact ⟨hnode, hrank, Nat.zero_le _⟩

variable (t q) in
/-- All states of a segment. -/
def statesIn (r : Segment) : List State :=
  (List.range t.nodeCount).flatMap fun i =>
    (List.range ((q.get r).length + 1)).map fun pos => ⟨i, r, pos⟩

theorem mem_statesIn {s : State} (hs : Fits t q s) : s ∈ statesIn t q s.segment := by
  refine List.mem_flatMap.mpr ⟨s.node, List.mem_range.mpr hs.node, ?_⟩
  exact List.mem_map.mpr ⟨s.pos, List.mem_range.mpr (Nat.lt_succ_of_le hs.pos), rfl⟩

theorem length_statesIn (r : Segment) :
    (statesIn t q r).length = t.nodeCount * ((q.get r).length + 1) := by
  simp [statesIn, List.length_flatMap]

/-- States that differ are no more than the nodes, times the places in the three segments. -/
theorem length_le_of_fits {ss : List State} (hnodup : ss.Nodup) (hfits : ∀ s ∈ ss, Fits t q s) :
    ss.length ≤
      t.nodeCount * (q.pattern.length + q.context.length + q.topic.length + 3) := by
  have hsub : ss ⊆ Segment.all.flatMap (statesIn t q) := fun s hs =>
    List.mem_flatMap.mpr ⟨s.segment, by cases s.segment <;> decide, mem_statesIn (hfits s hs)⟩
  calc ss.length
      ≤ (Segment.all.flatMap (statesIn t q)).length := (hnodup.subperm hsub).length_le
    _ = t.nodeCount * (q.pattern.length + 1) + (t.nodeCount * (q.context.length + 1) +
          t.nodeCount * (q.topic.length + 1)) := by
        simp [Segment.all, length_statesIn, Segmented.get]
    _ = t.nodeCount * (q.pattern.length + q.context.length + q.topic.length + 3) := by
        rw [← Nat.mul_add, ← Nat.mul_add]
        congr 1
        omega

/-! ## From the root -/

/-- **No state is entered twice.** In a trie that was made by storing rules, for every query and
every name of the bot, the search from the root comes to its end, though nothing bounds its depth,
and to no other end than that which is found. On the way it enters no state twice, whatever it finds.
Each state that it enters is at a node of the trie, in one of the three segments and no further than
its end, so there are no more of them than nodes, times the places in the segments. -/
theorem searchFromRoot_enters_once {options : MatchOptions} {cat : Catalogue α}
    (h : Grown options t cat) (q : Query) (name : List Word) :
    (∀ found? trail, Ends t q name (.state start) {} found? trail ↔
        t.searchFromRoot q name = (found?, trail)) ∧
      (t.searchFromRoot q name).2.entered.Nodup ∧
      (∀ s ∈ (t.searchFromRoot q name).2.entered, s.node < t.nodeCount ∧ s.segment.rank < 3 ∧
        s.pos ≤ (q.get s.segment).length) ∧
      (t.searchFromRoot q name).2.entered.length ≤
        t.nodeCount * (q.pattern.length + q.context.length + q.topic.length + 3) := by
  have hasc := h.ascending
  have hends : Ends t q name (.state start) {} (t.searchFromRoot q name).1
      (t.searchFromRoot q name).2 := hasc.ends_searchFromRoot
  have hfirst : start.IsBehind [] := fun r hr => absurd hr List.not_mem_nil
  have hnodup := (hends.accounted hasc (List.forall_mem_singleton.mpr hfirst) .start).1
  have hfits : ∀ s ∈ (t.searchFromRoot q name).2.entered, Fits t q s :=
    (hends.within (P := Fits t q) (fun hs hm => hasc.fits_target hs hm)
      (List.forall_mem_singleton.mpr hasc.fits_start) fun r hr => absurd hr List.not_mem_nil).1
  refine ⟨fun found? trail => ⟨fun hother => ?_, fun heq => ?_⟩, hnodup, fun s hs => ?_,
    length_le_of_fits hnodup hfits⟩
  · obtain ⟨rfl, rfl⟩ := hends.unique hother
    rfl
  · rw [heq] at hends
    exact hends
  · exact ⟨(hfits s hs).node, (hfits s hs).segment, (hfits s hs).pos⟩

/-- On `a a a a` the search enters fifteen states. From two of them the node behind the second
wildcard is reached with no words left; that state is entered once, and passed by later. -/
theorem searchFromRoot_enters_once_aaaa :
    Grown {} aThenB [(laterB, 7), (anyInput, 8)] ∧
      (aThenB.searchFromRoot aaaa []).2.entered.map (fun s => (s.node, s.segment, s.pos)) =
        [(13, .topic, 1), (12, .topic, 0), (11, .context, 1), (10, .context, 0), (9, .pattern, 4),
          (3, .pattern, 3), (2, .pattern, 2), (1, .pattern, 1), (3, .pattern, 4), (2, .pattern, 3),
          (1, .pattern, 2), (2, .pattern, 4), (1, .pattern, 3), (1, .pattern, 4),
          (0, .pattern, 0)] ∧
      (∀ i ∈ [2, 3], ∃ m ∈ aThenB.moves aaaa [] ⟨2, .pattern, i⟩,
        m.target = ⟨3, .pattern, 4⟩) ∧
      (aThenB.searchFromRoot aaaa []).2.entered.Nodup := by
  refine ⟨grown_aThenB, by decide +kernel, by decide, ?_⟩
  exact (searchFromRoot_enters_once grown_aThenB aaaa []).2.1

end Trie

end Colloquy
