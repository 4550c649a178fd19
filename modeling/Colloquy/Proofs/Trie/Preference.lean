import Colloquy.Proofs.Trie.Storage
import Colloquy.Proofs.Trie.Ways

/-!
# The rule that is found is that of the first derivation

The ways from the root are the derivations of the stored rules, step for step. What is found for a
query is therefore told without any search: it is what the most preferred derivation shows.

* `leads_iff` — a way is what is left of a segment, laid out over slots, and then the way out of it.
* `leads_start_iff` — the ways from the root are the derivations.
* `find?_eq_first_derivation` — what is found for a query.
-/

namespace Colloquy

/-! ## Stretches in front of others -/

/-- A rule that was found, with more stretches in front of those of a segment. -/
def Found.prepend (f : Found) (s : Segment) (spans : List Span) : Found :=
  { f with bindings := f.bindings.modify (spans ++ ·) s }

@[simp] theorem Found.prepend_nil (f : Found) (s : Segment) : f.prepend s [] = f := by
  cases s <;> rfl

theorem Found.prepend_append (f : Found) (s : Segment) (spans spans' : List Span) :
    f.prepend s (spans ++ spans') = (f.prepend s spans').prepend s spans := by
  cases s <;> simp [prepend, Segmented.modify]

/-- Behind a move over a slot its stretch is in front, if the slot is a wildcard. -/
theorem Found.after_along (f : Found) (s : State) (p : Part) (i : Nat) :
    f.after s (.along s p.slot p.words.length i) =
      f.prepend s.segment
        (if p.slot.isWildcard then [⟨s.pos, s.pos + p.words.length⟩] else []) := by
  cases hwild : p.slot.isWildcard with
  | true => simp [after, Move.along, hwild, Bindings.cons, prepend]
  | false => simp [after, Move.along, hwild]

theorem Found.after_cross (f : Found) (s : State) (next : Segment) (i : Nat) :
    f.after s (.cross next i) = f := rfl

namespace Trie

variable {α : Type} {t : Trie α} {cat : Catalogue α} {q : Query} {name : List Word}

/-! ## Ways through a segment -/

variable (t q name) in
/-- The ways out of a segment that is used up at node `i`: to a rule out of the last segment, and
out of the others to the next. -/
inductive Leaves (s : Segment) (i : Nat) : List Step → Found → Prop where
  /-- To the rule of the node. -/
  | rule {id : Nat} (last : s.next? = none) (rule : (t.node i).rule? = some id) :
      Leaves s i [.close] ⟨id, .none⟩
  /-- To the next segment. -/
  | next {next : Segment} {j : Nat} {steps : List Step} {f : Found}
      (following : s.next? = some next) (child : (t.node i).child? .separator = some j)
      (rest : Leads t q name ⟨j, next, 0⟩ steps f) : Leaves s i (.close :: steps) f

/-- The slots of some parts, as the edges that lead over them. -/
def slotEdges (ps : List Part) : List Edge :=
  ps.map fun p => .slot p.slot

/-- What is left of a segment, laid out over slots that lead from node `i` to node `j`. -/
structure Lays (t : Trie α) (name ws : List Word) (i j : Nat) (ps : List Part) : Prop where
  covers : ∀ p ∈ ps, p.slot.Covers name p.words
  whole : ps.flatMap Part.words = ws
  walk : t.walk? i (slotEdges ps) = some j

theorem Lays.nil (i : Nat) : Lays t name [] i i [] := ⟨by simp, rfl, rfl⟩

/-- One more slot in front, over which a child is reached. -/
theorem Lays.cons {ws : List Word} {i j k : Nat} {p : Part} {ps : List Part}
    (child : (t.node i).child? (.slot p.slot) = some j) (covers : p.slot.Covers name p.words)
    (h : Lays t name ws j k ps) : Lays t name (p.words ++ ws) i k (p :: ps) := by
  refine ⟨?_, by rw [List.flatMap_cons, h.whole], ?_⟩
  · intro r hr
    rcases List.mem_cons.mp hr with rfl | hr
    · exact covers
    · exact h.covers r hr
  · rw [slotEdges, List.map_cons, walk?, child]
    exact h.walk

/-- The first slot leads to a child, from which the others lead on. -/
theorem Lays.uncons {ws : List Word} {i k : Nat} {p : Part} {ps : List Part}
    (h : Lays t name ws i k (p :: ps)) :
    ∃ j, (t.node i).child? (.slot p.slot) = some j ∧ p.slot.Covers name p.words ∧
      p.words ++ ps.flatMap Part.words = ws ∧ Lays t name (ps.flatMap Part.words) j k ps := by
  have hwalk := h.walk
  rw [slotEdges, List.map_cons, walk?] at hwalk
  obtain ⟨j, hchild, hrest⟩ := Option.bind_eq_some_iff.mp hwalk
  exact ⟨j, hchild, h.covers p List.mem_cons_self, by rw [← h.whole, List.flatMap_cons],
    fun r hr => h.covers r (List.mem_cons_of_mem _ hr), rfl, hrest⟩

/-- Laying out what is left of a segment and then leaving it is a way. -/
theorem leads_of_lays {s : Segment} {j : Nat} {steps : List Step} {f : Found}
    (hleaves : Leaves t q name s j steps f) {ps : List Part} {i pos : Nat}
    (hpos : pos ≤ (q.get s).length) (h : Lays t name ((q.get s).drop pos) i j ps) :
    Leads t q name ⟨i, s, pos⟩ (ps.map .along ++ steps) (f.prepend s (Part.spansFrom pos ps)) := by
  induction ps generalizing i pos with
  | nil =>
    have hend : pos = (q.get s).length := by
      have hlen := congrArg List.length h.whole
      simp only [List.flatMap_nil, List.length_nil, List.length_drop] at hlen
      omega
    obtain rfl : i = j := Option.some.inj h.walk
    rw [List.map_nil, List.nil_append, Part.spansFrom, Found.prepend_nil]
    cases hleaves with
    | rule last rule =>
      have htopic : s = .topic := by cases s <;> simp_all [Segment.next?]
      exact .stop (ruleAt?_eq_some hend htopic rule)
    | next following child rest => exact .go (.cross hend following child) rest
  | cons p ps ih =>
    obtain ⟨j', hchild, hcovers, hwords, hrest⟩ := h.uncons
    have hdrop : (q.get s).drop (pos + p.words.length) = ps.flatMap Part.words := by
      rw [← List.drop_drop, ← hwords, List.drop_left]
    have hlen : pos + p.words.length ≤ (q.get s).length := by
      have hlen := congrArg List.length hwords
      simp only [List.length_append, List.length_drop] at hlen
      omega
    rw [← hdrop] at hrest
    have hgo := Leads.go (s := ⟨i, s, pos⟩) (.along hchild hcovers ⟨_, hwords⟩) (ih hlen hrest)
    rw [Found.after_along] at hgo
    rw [Part.spansFrom, Found.prepend_append]
    exact hgo

/-- Every way lays out what is left of its segment and then leaves it. -/
theorem lays_of_leads {s : State} {steps : List Step} {f : Found} (h : Leads t q name s steps f)
    (hpos : s.pos ≤ (q.get s.segment).length) :
    ∃ ps j rest g, Lays t name ((q.get s.segment).drop s.pos) s.node j ps ∧
      Leaves t q name s.segment j rest g ∧ steps = ps.map .along ++ rest ∧
      f = g.prepend s.segment (Part.spansFrom s.pos ps) := by
  induction h with
  | @stop s id rule =>
    obtain ⟨hend, htopic, hrule⟩ := segment_of_ruleAt? rule
    refine ⟨[], s.node, [.close], ⟨id, .none⟩, ?_, .rule (by rw [htopic]; rfl) hrule, rfl, by
      simp [Part.spansFrom]⟩
    rw [hend, List.drop_length]
    exact .nil s.node
  | @go s m st steps f takes rest ih =>
    cases takes with
    | @along slot ws i child covers here =>
      obtain ⟨tail, htail⟩ := here
      have hdrop : (q.get s.segment).drop (s.pos + ws.length) = tail := by
        rw [← List.drop_drop, ← htail, List.drop_left]
      have hlen : s.pos + ws.length ≤ (q.get s.segment).length := by
        have hlen := congrArg List.length htail
        simp only [List.length_append, List.length_drop] at hlen
        omega
      obtain ⟨ps, j, left, g, hlays, hleaves, rfl, rfl⟩ := ih hlen
      refine ⟨⟨slot, ws⟩ :: ps, j, left, g, ?_, hleaves, rfl, ?_⟩
      · change Lays t name ((q.get s.segment).drop (s.pos + ws.length)) i j ps at hlays
        rw [hdrop] at hlays
        rw [← htail]
        exact .cons (p := ⟨slot, ws⟩) child covers hlays
      · rw [Part.spansFrom, Found.prepend_append]
        exact Found.after_along _ s ⟨slot, ws⟩ i
    | @cross next i used following child =>
      refine ⟨[], s.node, .close :: steps, f, ?_, .next following child rest, rfl, by
        simp [Part.spansFrom, Found.after_cross]⟩
      rw [used, List.drop_length]
      exact .nil s.node

/-- The ways from the beginning of a segment. -/
theorem leads_iff {s : Segment} {i : Nat} {steps : List Step} {f : Found} :
    Leads t q name ⟨i, s, 0⟩ steps f ↔
      ∃ ps j rest g, Lays t name (q.get s) i j ps ∧ Leaves t q name s j rest g ∧
        steps = ps.map .along ++ rest ∧ f = g.prepend s (Part.spansFrom 0 ps) := by
  constructor
  · intro h
    exact lays_of_leads h (Nat.zero_le _)
  · rintro ⟨ps, j, rest, g, hlays, hleaves, rfl, rfl⟩
    exact leads_of_lays hleaves (Nat.zero_le _) hlays

/-! ## Ways from the root -/

/-- A rule is stored at an address when edges lead through the three segments to its node. -/
theorem idAt?_eq_some_iff {ps cs ts : List Part} {id : Nat} :
    t.idAt? ⟨ps.map Part.slot, cs.map Part.slot, ts.map Part.slot⟩ = some id ↔
      ∃ i, t.walk? 0 (slotEdges ps) = some i ∧ ∃ j, (t.node i).child? .separator = some j ∧
        ∃ k, t.walk? j (slotEdges cs) = some k ∧ ∃ l, (t.node k).child? .separator = some l ∧
          ∃ m, t.walk? l (slotEdges ts) = some m ∧ (t.node m).rule? = some id := by
  have hedges : ∀ rs : List Part, (rs.map Part.slot).map Edge.slot = slotEdges rs := fun rs => by
    simp [slotEdges]
  simp only [idAt?, Address.edges, hedges, walk?_append, walk?, Option.bind_assoc,
    Option.bind_eq_some_iff]

/-- The ways from the root are the derivations, and at the end of each is found what it shows. -/
theorem leads_start_iff (h : t.Ascending) (hc : t.Holds cat) {steps : List Step} {f : Found} :
    Leads t q name start steps f ↔
      ∃ d : cat.Derivation q name, d.steps = steps ∧ f = ⟨d.id, d.bindings⟩ := by
  constructor
  · intro hleads
    obtain ⟨ps, i, _, _, hps, hleaves, rfl, rfl⟩ := leads_iff.mp hleads
    rcases hleaves with ⟨last, _⟩ | ⟨following, hij, rest⟩
    · simp [Segment.next?] at last
    · obtain rfl := Option.some.inj following
      obtain ⟨cs, k, _, _, hcs, hleaves, rfl, rfl⟩ := leads_iff.mp rest
      rcases hleaves with ⟨last, _⟩ | ⟨following, hkl, rest⟩
      · simp [Segment.next?] at last
      · obtain rfl := Option.some.inj following
        obtain ⟨ts, m, _, _, hts, hleaves, rfl, rfl⟩ := leads_iff.mp rest
        rcases hleaves with ⟨_, hrule⟩ | ⟨following, _, _⟩
        · have hat := idAt?_eq_some_iff.mpr
            ⟨_, hps.walk, _, hij, _, hcs.walk, _, hkl, _, hts.walk, hrule⟩
          have hstored := hc.getElem?_eq_some.mpr
            ⟨hat, Array.getElem?_eq_getElem (h.rule hrule)⟩
          refine ⟨⟨⟨ps, cs, ts⟩, _, _, ?_, ?_, hstored⟩, rfl, ?_⟩
          · intro s
            cases s with
            | pattern => exact hps.covers
            | context => exact hcs.covers
            | topic => exact hts.covers
          · intro s
            cases s with
            | pattern => exact hps.whole
            | context => exact hcs.whole
            | topic => exact hts.whole
          · simp [Found.prepend, Catalogue.Derivation.bindings, Segmented.modify, Bindings.none,
              Segmented.replicate]
        · simp [Segment.next?] at following
  · rintro ⟨d, rfl, rfl⟩
    obtain ⟨i, hi, j, hij, k, hk, l, hkl, m, hm, hrule⟩ :=
      idAt?_eq_some_iff.mp (hc.getElem?_eq_some.mp d.stored).1
    have hts : Leads t q name ⟨l, .topic, 0⟩ _ _ :=
      leads_of_lays (.rule rfl hrule) (Nat.zero_le _) ⟨d.covers .topic, d.whole .topic, hm⟩
    have hcs : Leads t q name ⟨j, .context, 0⟩ _ _ :=
      leads_of_lays (.next rfl hkl hts) (Nat.zero_le _) ⟨d.covers .context, d.whole .context, hk⟩
    have hps : Leads t q name ⟨0, .pattern, 0⟩ _ _ :=
      leads_of_lays (.next rfl hij hcs) (Nat.zero_le _) ⟨d.covers .pattern, d.whole .pattern, hi⟩
    simpa [Found.prepend, Catalogue.Derivation.bindings, Catalogue.Derivation.steps,
      Segmented.modify, Segmented.get, Bindings.none, Segmented.replicate, start] using hps

/-- Derivations are told apart by their steps. -/
theorem eq_of_steps_eq (hc : t.Holds cat) {d e : cat.Derivation q name} (h : d.steps = e.steps) :
    d = e := by
  have halong : Function.Injective Step.along := fun _ _ h => Step.along.inj h
  have hclose : ∀ p, Step.along p ≠ .close := fun p => by simp
  obtain ⟨hpattern, h⟩ := append_cons_inj_of_map halong hclose h
  obtain ⟨hcontext, h⟩ := append_cons_inj_of_map halong hclose h
  obtain ⟨htopic, -⟩ := append_cons_inj_of_map halong hclose h
  have hparts : d.parts = e.parts := Segmented.ext hpattern hcontext htopic
  have hd := d.stored
  rw [hparts] at hd
  have hid : d.id = e.id := hc.id_unique hd e.stored
  rw [hid, e.stored] at hd
  exact Catalogue.Derivation.ext hparts hid (Prod.mk.inj (Option.some.inj hd)).2.symm

/-! ## What is found for a query -/

variable (t q name) in
/-- What is found for a query is what plain search finds from the root, with its rule. -/
theorem find?_eq (h : t.Ascending) :
    t.find? q name = do
      let f ← t.explore q name start
      let rule ← t.get? f.id
      return ⟨f.id, rule, f.bindings⟩ := by
  rw [find?, h.searchFromRoot_eq_explore]

/-- A derivation that is preferred to all others shows what is found. -/
theorem exists_first_of_find? (h : t.Ascending) (hc : t.Holds cat) {m : Match α}
    (hm : t.find? q name = some m) :
    ∃ d : cat.Derivation q name, d.result = m ∧
      ∀ e, e ≠ d → d.Precedes t.options.appetite e := by
  rw [find?_eq t q name h] at hm
  obtain ⟨f, hf, hm⟩ := Option.bind_eq_some_iff.mp hm
  obtain ⟨rule, hrule, hm⟩ := Option.bind_eq_some_iff.mp hm
  obtain ⟨steps, hfirst⟩ := h.explore_eq_some hf
  obtain ⟨d, rfl, rfl⟩ := (leads_start_iff h hc).mp hfirst.leads
  obtain rfl : d.rule = rule :=
    Option.some.inj ((hc.getElem?_eq_some.mp d.stored).2.symm.trans hrule)
  refine ⟨d, Option.some.inj hm, fun e he => ?_⟩
  exact hfirst.first ((leads_start_iff h hc).mpr ⟨e, rfl, rfl⟩) fun heq =>
    he (eq_of_steps_eq hc heq)

/-- Where nothing is found there is no derivation. -/
theorem not_nonempty_of_find? (h : t.Ascending) (hc : t.Holds cat) (hm : t.find? q name = none) :
    ¬ Nonempty (cat.Derivation q name) := by
  rintro ⟨d⟩
  rw [find?_eq t q name h] at hm
  cases hf : t.explore q name start with
  | none => exact h.explore_eq_none hf _ _ ((leads_start_iff h hc).mpr ⟨d, rfl, rfl⟩)
  | some f =>
    obtain ⟨steps, hfirst⟩ := h.explore_eq_some hf
    obtain ⟨e, rfl, rfl⟩ := (leads_start_iff h hc).mp hfirst.leads
    have hrule := (hc.getElem?_eq_some.mp e.stored).2
    rw [hf] at hm
    simp [hrule] at hm

/-- A derivation that is preferred to all others shows what is found. -/
theorem find?_eq_result (h : t.Ascending) (hc : t.Holds cat) {d : cat.Derivation q name}
    (hd : ∀ e, e ≠ d → d.Precedes t.options.appetite e) : t.find? q name = some d.result := by
  cases hm : t.find? q name with
  | none => exact absurd ⟨d⟩ (not_nonempty_of_find? h hc hm)
  | some m =>
    obtain ⟨e, rfl, he⟩ := exists_first_of_find? h hc hm
    by_cases hde : d = e
    · rw [hde]
    · exact absurd (hd e (Ne.symm hde)) (he d hde).asymm

/-- **What is found is what the first derivation shows.** In a trie that was made by storing rules,
for every query and every name of the bot, a match is found exactly when it is shown by a derivation
that is preferred to every other one, and none is found exactly when no rule that was stored has a
derivation. -/
theorem find?_eq_first_derivation {options : MatchOptions} (h : Grown options t cat) (q : Query)
    (name : List Word) :
    (∀ m, t.find? q name = some m ↔
      ∃ d : cat.Derivation q name, d.result = m ∧ ∀ e, e ≠ d → d.Precedes options.appetite e) ∧
    (t.find? q name = none ↔ ¬ Nonempty (cat.Derivation q name)) := by
  have hfirst : ∀ {m : Match α}, t.find? q name = some m →
      ∃ d : cat.Derivation q name, d.result = m ∧ ∀ e, e ≠ d → d.Precedes options.appetite e := by
    intro m hm
    rw [← h.options_eq]
    exact exists_first_of_find? h.ascending h.holds hm
  refine ⟨fun m => ⟨hfirst, ?_⟩, not_nonempty_of_find? h.ascending h.holds, ?_⟩
  · rintro ⟨d, rfl, hd⟩
    cases hfind : t.find? q name with
    | none => exact absurd ⟨d⟩ (not_nonempty_of_find? h.ascending h.holds hfind)
    | some m =>
      obtain ⟨e, rfl, he⟩ := hfirst hfind
      -- of two derivations that are each preferred to all others, each would precede the other
      by_cases hde : d = e
      · rw [hde]
      · exact absurd (hd e (Ne.symm hde)) ((he d hde).asymm)
  · intro hnone
    cases hfind : t.find? q name with
    | none => rfl
    | some m =>
      obtain ⟨d, -, -⟩ := hfirst hfind
      exact absurd ⟨d⟩ hnone

/-- The word `B` with words behind it, and perhaps before it. -/
def wordsBehindB : Address :=
  ⟨[.zeroOrMore, .word ['B'], .oneOrMore], .anything, .anything⟩

/-- The word `B` with words before it, and perhaps behind it. -/
def wordsBeforeB : Address :=
  ⟨[.oneOrMore, .word ['B'], .zeroOrMore], .anything, .anything⟩

/-- Rules at these two addresses. -/
def aroundB : Trie Nat :=
  ((empty {}).add wordsBehindB 7).add wordsBeforeB 8

/-- The words of `a b c b`, with no context and no topic. -/
def abcb : Query :=
  .ofWords (["a", "b", "c", "b"].map fun w => .ofText w.toList) [] []

theorem grown_aroundB : Grown {} aroundB [(wordsBehindB, 7), (wordsBeforeB, 8)] := by
  have hfirst : Grown {} ((empty {}).add wordsBehindB 7) [(wordsBehindB, 7)] :=
    Grown.empty.add 7 rfl rfl
  have hstore : Catalogue.store wordsBeforeB 8 [(wordsBehindB, 7)] =
      [(wordsBehindB, 7), (wordsBeforeB, 8)] := by decide
  rw [← hstore]
  exact hfirst.add 8 rfl rfl

/-- Of three derivations the first takes the first three words for the wildcard that wants some. -/
theorem find?_abcb : Grown {} aroundB [(wordsBehindB, 7), (wordsBeforeB, 8)] ∧
    ∃ d : Catalogue.Derivation [(wordsBehindB, 7), (wordsBeforeB, 8)] abcb [],
      d.result = ⟨1, 8, ⟨[⟨0, 3⟩, ⟨4, 4⟩], [⟨0, 1⟩], [⟨0, 1⟩]⟩⟩ ∧
        ∀ e, e ≠ d → d.Precedes .greedy e :=
  ⟨grown_aroundB, ((find?_eq_first_derivation grown_aroundB abcb []).1 _).mp rfl⟩

end Trie

end Colloquy
