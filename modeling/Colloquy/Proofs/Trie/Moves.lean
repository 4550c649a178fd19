import Colloquy.Proofs.Trie.Derivation

/-!
# What a move of the search is

The moves at a state are listed kind by kind; here they are said once as the steps that a derivation
can take there.

* `Trie.Takes` — a move, and the step it takes.
* `mem_moves_iff` — the moves at a state are those that take a step.
* `pairwise_moves` — they are listed in the order in which their steps are preferred.
-/

namespace Colloquy

/-- The move over a slot that stands for the next `n` words, to node `i`. -/
def Move.along (s : State) (slot : Slot) (n i : Nat) : Move where
  edge := .slot slot
  span? := if slot.isWildcard then some ⟨s.pos, s.pos + n⟩ else none
  target := ⟨i, s.segment, s.pos + n⟩

/-- The move to node `i` at the beginning of another segment. -/
def Move.cross (next : Segment) (i : Nat) : Move where
  edge := .separator
  target := ⟨i, next, 0⟩

namespace Trie

variable {α : Type} (t : Trie α) (q : Query) (name : List Word)

/-- A move from a state, with the step it takes: over a slot that stands for the next words, or out
of a segment that is used up. -/
inductive Takes (s : State) : Move → Step → Prop where
  /-- Over a slot. -/
  | along {slot : Slot} {ws : List Word} {i : Nat}
      (child : (t.node s.node).child? (.slot slot) = some i) (covers : slot.Covers name ws)
      (here : ws <+: (q.get s.segment).drop s.pos) :
      Takes s (.along s slot ws.length i) (.along ⟨slot, ws⟩)
  /-- To the next segment. -/
  | cross {next : Segment} {i : Nat} (used : s.pos = (q.get s.segment).length)
      (following : s.segment.next? = some next)
      (child : (t.node s.node).child? .separator = some i) : Takes s (.cross next i) .close

namespace Takes

variable {t q name} {s : State} {m : Move} {st st' : Step}

theorem child (h : Takes t q name s m st) :
    (t.node s.node).child? m.edge = some m.target.node := by
  cases h with
  | along child covers here => exact child
  | cross used following child => exact child

/-- A move takes only one step. -/
theorem step_unique (h : Takes t q name s m st) (h' : Takes t q name s m st') : st = st' := by
  cases h with
  | @along slot ws i child covers here =>
    generalize hm : Move.along s slot ws.length i = m at h'
    cases h' with
    | @along slot' vs j child' covers' here' =>
      have hslot : slot = slot' := by simpa [Move.along] using congrArg Move.edge hm
      have hlen : ws.length = vs.length := by
        simpa [Move.along] using congrArg (fun m => m.target.pos) hm
      have hws : ws = vs := by
        rw [List.prefix_iff_eq_take.mp here, List.prefix_iff_eq_take.mp here', hlen]
      rw [hslot, hws]
    | cross used following child' => simp [Move.along, Move.cross] at hm
  | @cross next i used following child =>
    generalize hm : Move.cross next i = m at h'
    cases h' with
    | along child' covers' here' => simp [Move.along, Move.cross] at hm
    | cross used' following' child' => rfl

end Takes

/-! ## The moves, kind by kind -/

/-- A move over the slot, to a state that a step over that slot leads to. -/
def TakesOver (s : State) (slot : Slot) (m : Move) : Prop :=
  ∃ ws, Takes t q name s m (.along ⟨slot, ws⟩)

theorem mem_wordMoves (s : State) (m : Move) :
    m ∈ t.wordMoves q s ↔ ∃ form, TakesOver t q name s (.word form) m := by
  constructor
  · intro hm
    unfold wordMoves at hm
    split at hm
    · simp at hm
    · rename_i w hw
      split at hm
      · simp at hm
      · rename_i i hi
        have hpre : [w] <+: (q.get s.segment).drop s.pos := by
          obtain ⟨hlt, rfl⟩ := List.getElem?_eq_some_iff.mp hw
          exact ⟨_, (List.drop_eq_getElem_cons hlt).symm⟩
        refine ⟨w.form, [w], ?_⟩
        rw [List.mem_singleton.mp hm]
        exact .along hi (.word rfl) hpre
  · rintro ⟨form, ws, h⟩
    cases h with
    | along child covers here =>
      cases covers with
      | @word form w hform =>
        subst hform
        have hw : (q.get s.segment)[s.pos]? = some w := by
          obtain ⟨rest, hrest⟩ := here
          have hhead := congrArg List.head? hrest
          simpa using hhead.symm
        simp [wordMoves, hw, child, Move.along, Slot.isWildcard]

theorem nameAt_iff (ws : List Word) (pos : Nat) :
    nameAt name ws pos ↔ name ≠ [] ∧ ∃ vs, vs <+: ws.drop pos ∧
      vs.map Word.form = name.map Word.form := by
  simp only [nameAt, Bool.and_eq_true, decide_eq_true_eq, List.isPrefixOf_iff_prefix]
  refine and_congr_right fun _ => ⟨fun h => ?_, fun ⟨vs, hvs, hforms⟩ => ?_⟩
  · refine ⟨(ws.drop pos).take name.length, List.take_prefix _ _, ?_⟩
    rw [List.map_take]
    simpa using (List.prefix_iff_eq_take.mp h).symm
  · rw [← hforms]
    exact hvs.map _

theorem mem_botNameMoves (s : State) (m : Move) :
    m ∈ t.botNameMoves q name s ↔ TakesOver t q name s .botName m := by
  constructor
  · intro hm
    unfold botNameMoves at hm
    split at hm
    · simp at hm
    · rename_i i hi
      split at hm
      · rename_i hname
        obtain ⟨hne, vs, hvs, hforms⟩ := (nameAt_iff name _ _).mp hname
        have hlen : vs.length = name.length := by simpa using congrArg List.length hforms
        refine ⟨vs, ?_⟩
        rw [List.mem_singleton.mp hm, ← hlen]
        exact .along hi (.botName hne hforms) hvs
      · simp at hm
  · rintro ⟨ws, h⟩
    cases h with
    | along child covers here =>
      cases covers with
      | botName hne hforms =>
        have hname := (nameAt_iff name _ _).mpr ⟨hne, ws, here, hforms⟩
        have hlen : ws.length = name.length := by simpa using congrArg List.length hforms
        simp [botNameMoves, child, hname, Move.along, Slot.isWildcard, hlen]

theorem mem_spanLengths {least remaining n : Nat} :
    n ∈ t.spanLengths least remaining ↔ least ≤ n ∧ n ≤ remaining := by
  unfold spanLengths
  have hrange : n ∈ List.range' least (remaining + 1 - least) ↔ least ≤ n ∧ n ≤ remaining := by
    simp only [List.mem_range'_1]
    omega
  cases t.options.appetite <;> simpa using hrange

/-- The least number of words that a slot stands for. -/
def IsLeast (slot : Slot) (least : Nat) : Prop :=
  slot.isWildcard ∧ ∀ ws : List Word, slot.Covers name ws ↔ least ≤ ws.length

theorem isLeast_oneOrMore : IsLeast name .oneOrMore 1 := by
  refine ⟨rfl, fun ws => ⟨?_, fun h => .oneOrMore (List.length_pos_iff.mp h)⟩⟩
  rintro (_ | _ | hws)
  exact List.length_pos_iff.mpr hws

theorem isLeast_zeroOrMore : IsLeast name .zeroOrMore 0 :=
  ⟨rfl, fun ws => ⟨fun _ => Nat.zero_le _, fun _ => .zeroOrMore ws⟩⟩

theorem mem_wildcardMoves {slot : Slot} {least : Nat} (hleast : IsLeast name slot least)
    (s : State) (m : Move) :
    m ∈ t.wildcardMoves q slot least s ↔ TakesOver t q name s slot m := by
  constructor
  · intro hm
    unfold wildcardMoves at hm
    split at hm
    · simp at hm
    · rename_i i hi
      obtain ⟨n, hn, rfl⟩ := List.mem_map.mp hm
      obtain ⟨hle, hrest⟩ := (mem_spanLengths t).mp hn
      have hlen : (((q.get s.segment).drop s.pos).take n).length = n := by
        rw [List.length_take, List.length_drop]
        omega
      have htake := Takes.along (t := t) hi ((hleast.2 _).mpr (by omega))
        (List.take_prefix n ((q.get s.segment).drop s.pos))
      rw [hlen] at htake
      exact ⟨_, by simpa [Move.along, hleast.1] using htake⟩
  · rintro ⟨ws, h⟩
    cases h with
    | along child covers here =>
      have hlen : ws.length ≤ (q.get s.segment).length - s.pos := by
        simpa using here.length_le
      have hn : ws.length ∈ t.spanLengths least ((q.get s.segment).length - s.pos) :=
        (mem_spanLengths t).mpr ⟨(hleast.2 ws).mp covers, hlen⟩
      simp only [wildcardMoves, child, List.mem_map]
      exact ⟨ws.length, hn, by simp [Move.along, hleast.1]⟩

theorem mem_separatorMoves (s : State) (hend : s.pos = (q.get s.segment).length) (m : Move) :
    m ∈ t.separatorMoves s ↔ Takes t q name s m .close := by
  constructor
  · intro hm
    unfold separatorMoves at hm
    split at hm
    · rename_i next i hnext hi
      rw [List.mem_singleton.mp hm]
      exact .cross hend hnext hi
    · simp at hm
  · intro h
    cases h with
    | cross used following child => simp [separatorMoves, following, child, Move.cross]

/-! ## All moves -/

/-- At the end of a segment no slot stands for words but a wildcard for none. -/
theorem eq_zeroOrMore_of_covers_nil {slot : Slot} (h : slot.Covers name []) :
    slot = .zeroOrMore := by
  cases h with
  | botName hname hforms =>
    rw [List.map_nil, eq_comm, List.map_eq_nil_iff] at hforms
    exact absurd hforms hname
  | oneOrMore hws => exact absurd rfl hws
  | zeroOrMore _ => rfl

/-- **The moves are the steps.** Whatever step a derivation can take at a state, a move takes it,
and every move takes such a step. -/
theorem mem_moves_iff (s : State) (m : Move) :
    m ∈ t.moves q name s ↔ ∃ st, Takes t q name s m st := by
  have hone := isLeast_oneOrMore name
  have hany := isLeast_zeroOrMore name
  unfold moves
  by_cases hend : s.pos = (q.get s.segment).length
  · rw [if_pos (by simpa [isAtEnd] using hend), List.mem_append,
      mem_separatorMoves t q name s hend, mem_wildcardMoves t q name hany]
    constructor
    · rintro (h | ⟨ws, h⟩)
      · exact ⟨_, h⟩
      · exact ⟨_, h⟩
    · rintro ⟨st, h⟩
      cases st with
      | close => exact .inl h
      | along p =>
        obtain ⟨slot, ws⟩ := p
        have hws : ws = [] := by
          cases h with
          | along child covers here =>
            rw [hend, List.drop_length] at here
            exact List.prefix_nil.mp here
        subst hws
        have hslot : slot = .zeroOrMore := by
          cases h with
          | along child covers here => exact eq_zeroOrMore_of_covers_nil name covers
        exact .inr ⟨[], hslot ▸ h⟩
  · rw [if_neg (by simpa [isAtEnd] using hend)]
    simp only [List.mem_append, mem_wordMoves t q name, mem_botNameMoves,
      mem_wildcardMoves t q name hone, mem_wildcardMoves t q name hany]
    constructor
    · rintro (((⟨form, ws, h⟩ | ⟨ws, h⟩) | ⟨ws, h⟩) | ⟨ws, h⟩)
      all_goals exact ⟨_, h⟩
    · rintro ⟨st, h⟩
      cases st with
      | close =>
        cases h with
        | cross used following child => exact absurd used hend
      | along p =>
        obtain ⟨slot, ws⟩ := p
        cases slot with
        | word form => exact .inl (.inl (.inl ⟨form, ws, h⟩))
        | botName => exact .inl (.inl (.inr ⟨ws, h⟩))
        | oneOrMore => exact .inl (.inr ⟨ws, h⟩)
        | zeroOrMore => exact .inr ⟨ws, h⟩

/-! ## Their order -/

/-- The step of one move is preferred to that of another. -/
def MoveBefore (s : State) (m m' : Move) : Prop :=
  ∀ ⦃st st' : Step⦄, Takes t q name s m st → Takes t q name s m' st' →
    Step.Before t.options.appetite st st'

variable {t q name}

theorem TakesOver.before {s : State} {slot slot' : Slot} {m m' : Move}
    (h : TakesOver t q name s slot m) (h' : TakesOver t q name s slot' m')
    (hrank : slot.rank < slot'.rank) : MoveBefore t q name s m m' := by
  intro st st' hst hst'
  obtain ⟨ws, hws⟩ := h
  obtain ⟨vs, hvs⟩ := h'
  rw [hst.step_unique hws, hst'.step_unique hvs]
  exact .slot hrank

variable (t q name)

theorem pairwise_spanLengths (least remaining : Nat) :
    (t.spanLengths least remaining).Pairwise t.options.appetite.Before := by
  unfold spanLengths
  cases t.options.appetite with
  | greedy => exact List.pairwise_reverse.mpr List.pairwise_lt_range'
  | lazy => exact List.pairwise_lt_range'

theorem pairwise_wildcardMoves (slot : Slot) (hwild : slot.isWildcard) (least : Nat) (s : State) :
    (t.wildcardMoves q slot least s).Pairwise (MoveBefore t q name s) := by
  unfold wildcardMoves
  split
  · exact .nil
  · refine List.pairwise_map.mpr ((t.pairwise_spanLengths least _).imp fun {n n'} hn => ?_)
    intro st st' hst hst'
    -- the number of words is told by the position that the move leads to
    have hlen : ∀ {k i : Nat} {st : Step},
        Takes t q name s ⟨.slot slot, some ⟨s.pos, s.pos + k⟩, ⟨i, s.segment, s.pos + k⟩⟩ st →
          ∃ ws : List Word, ws.length = k ∧ st = .along ⟨slot, ws⟩ := by
      intro k i st hk
      generalize hm : Move.mk (.slot slot) (some ⟨s.pos, s.pos + k⟩) ⟨i, s.segment, s.pos + k⟩ = m
        at hk
      cases hk with
      | @along slot' ws j child covers here =>
        simp only [Move.along, Move.mk.injEq, Edge.slot.injEq, State.mk.injEq] at hm
        exact ⟨ws, by omega, by rw [hm.1]⟩
      | cross used following child => simp [Move.cross] at hm
    obtain ⟨ws, hws, rfl⟩ := hlen hst
    obtain ⟨vs, hvs, rfl⟩ := hlen hst'
    exact .span rfl hwild (by rwa [hws, hvs])

/-- **The moves are in order.** A move that is listed before another takes the preferred step. -/
theorem pairwise_moves (s : State) : (t.moves q name s).Pairwise (MoveBefore t q name s) := by
  have hones := t.pairwise_wildcardMoves q name .oneOrMore rfl 1 s
  have hanys := t.pairwise_wildcardMoves q name .zeroOrMore rfl 0 s
  unfold moves
  split
  · rename_i hend
    have hseps : (t.separatorMoves s).Pairwise (MoveBefore t q name s) := by
      unfold separatorMoves
      split <;> simp
    refine List.pairwise_append.mpr ⟨hseps, hanys, fun m hm m' hm' st st' hst hst' => ?_⟩
    have hclose := (mem_separatorMoves t q name s (by simpa [isAtEnd] using hend) m).mp hm
    obtain ⟨ws, hws⟩ := (mem_wildcardMoves t q name (isLeast_zeroOrMore name) s m').mp hm'
    rw [hst.step_unique hclose, hst'.step_unique hws]
    exact .close _
  · have hwords : (t.wordMoves q s).Pairwise (MoveBefore t q name s) := by
      unfold wordMoves
      split
      · exact .nil
      · split <;> simp
    have hnames : (t.botNameMoves q name s).Pairwise (MoveBefore t q name s) := by
      unfold botNameMoves
      split
      · exact .nil
      · split <;> simp
    -- the four lists hold the moves over slots of the ranks 0, 1, 2 and 3
    have hword : ∀ m ∈ t.wordMoves q s, ∃ slot : Slot, slot.rank = 0 ∧
        TakesOver t q name s slot m := fun m hm => by
      obtain ⟨form, h⟩ := (mem_wordMoves t q name s m).mp hm
      exact ⟨.word form, rfl, h⟩
    have hname := fun m => (mem_botNameMoves t q name s m).mp
    have hone := fun m => (mem_wildcardMoves t q name (isLeast_oneOrMore name) s m).mp
    have hany := fun m => (mem_wildcardMoves t q name (isLeast_zeroOrMore name) s m).mp
    simp only [List.pairwise_append, List.mem_append]
    refine ⟨⟨⟨hwords, hnames, ?_⟩, hones, ?_⟩, hanys, ?_⟩
    · intro m hm m' hm'
      obtain ⟨slot, hrank, h⟩ := hword m hm
      exact h.before (hname m' hm') (by rw [hrank]; decide)
    · rintro m (hm | hm) m' hm'
      · obtain ⟨slot, hrank, h⟩ := hword m hm
        exact h.before (hone m' hm') (by rw [hrank]; decide)
      · exact (hname m hm).before (hone m' hm') (by decide)
    · rintro m ((hm | hm) | hm) m' hm'
      · obtain ⟨slot, hrank, h⟩ := hword m hm
        exact h.before (hany m' hm') (by rw [hrank]; decide)
      · exact (hname m hm).before (hany m' hm') (by decide)
      · exact (hone m hm).before (hany m' hm') (by decide)

end Trie

end Colloquy
