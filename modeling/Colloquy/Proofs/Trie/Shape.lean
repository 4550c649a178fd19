import Colloquy.Proofs.Trie.Numbers
import Mathlib.Data.Finset.Card
import Mathlib.Data.Set.Finite.Basic

/-!
# The shape of a trie

The nodes of a trie are the beginnings of the ways to what is stored in it, one node for each, and
no others: a way is laid out only for a rule that is taken in, and what is refused leaves no node
behind. Rules are at the ends of these ways, behind two separators.

* `beginnings` — the beginnings of the ways to some addresses, told without any trie.
* `Trim` — nothing is in a trie that does not belong to the way of a stored rule; `Grown.trim`.
* `Shaped` — the nodes of a trie are laid out for some addresses.
* `run_take_shaped` — a trie to which rules are brought is laid out for those that are stored.
-/

namespace Colloquy

variable {α : Type}

/-! ## Beginnings of ways -/

/-- The beginnings of the ways to some addresses, and the empty way to the root. -/
def beginnings (stored : List Address) : Finset (List Edge) :=
  insert [] (stored.flatMap fun a => a.edges.inits).toFinset

theorem mem_beginnings {stored : List Address} {es : List Edge} :
    es ∈ beginnings stored ↔ es = [] ∨ ∃ a ∈ stored, es <+: a.edges := by
  simp [beginnings]

theorem beginnings_mono {stored stored' : List Address} (h : ∀ a ∈ stored, a ∈ stored') :
    beginnings stored ⊆ beginnings stored' := by
  intro es hes
  rw [mem_beginnings] at hes ⊢
  exact hes.imp_right fun ⟨a, ha, hpre⟩ => ⟨a, h a ha, hpre⟩

/-- There is a separator before the context, and one before the topic. -/
theorem Address.count_separator_edges (a : Address) : a.edges.count .separator = 2 := by
  have hslots : ∀ p : Pattern, (p.map Edge.slot).count .separator = 0 := fun p =>
    List.count_eq_zero.mpr (by simp)
  simp [edges, hslots]

/-- What is stored before is stored afterwards. -/
theorem Catalogue.mem_map_fst_store {cat : Catalogue α} {a b : Address} {rule : α} :
    b ∈ (cat.store a rule).map Prod.fst ↔ b = a ∨ b ∈ cat.map Prod.fst := by
  rw [map_fst_store]
  split
  · exact ⟨.inr, fun h => h.elim (fun hb => hb ▸ ‹_›) id⟩
  · rw [List.mem_append, List.mem_singleton, or_comm]

/-! ## Children -/

/-- No edge is listed twice. -/
def Node.Keyed (n : Node) : Prop := (n.children.map Prod.fst).Nodup

theorem Node.Keyed.mem_children_iff {n : Node} (h : n.Keyed) {e : Edge} {j : Nat} :
    (e, j) ∈ n.children ↔ n.child? e = some j := by
  constructor
  · intro hmem
    obtain ⟨before, after, hsplit⟩ := List.append_of_mem hmem
    rw [child?, List.lookup_eq_some_iff]
    refine ⟨before, after, hsplit, fun p hp => ?_⟩
    rw [Keyed, hsplit, List.map_append, List.nodup_append] at h
    simpa using Ne.symm (h.2.2 p.1 (List.mem_map_of_mem hp) e (by simp))
  · intro hchild
    obtain ⟨before, after, hsplit, -⟩ := List.lookup_eq_some_iff.mp hchild
    simp [hsplit]

theorem Node.not_mem_of_child?_eq_none {n : Node} {e : Edge} (h : n.child? e = none) :
    e ∉ n.children.map Prod.fst := by
  rw [child?, List.lookup_eq_none_iff] at h
  intro hmem
  obtain ⟨⟨_, j⟩, hp, rfl⟩ := List.mem_map.mp hmem
  simpa using h _ hp

namespace Trie

/-- A new child is listed under an edge of its own. -/
theorem keyed_sprout {nodes : Array Node} (h : ∀ k, (nodes.getD k {}).Keyed) {i : Nat}
    (hi : i < nodes.size) {e : Edge} (he : (nodes.getD i {}).child? e = none) (k : Nat) :
    ((sprout nodes i e).getD k {}).Keyed := by
  rw [getD_sprout nodes hi]
  by_cases hk : k = i
  · rw [if_pos hk, Node.Keyed, List.map_cons, List.nodup_cons]
    exact ⟨Node.not_mem_of_child?_eq_none he, h i⟩
  · rw [if_neg hk]
    exact h k

theorem keyed_extend {nodes : Array Node} (htree : IsTree nodes) {i : Nat} (hi : i < nodes.size)
    (h : ∀ k, (nodes.getD k {}).Keyed) (es : List Edge) (k : Nat) :
    ((extend nodes i es).1.getD k {}).Keyed := by
  induction es generalizing nodes i with
  | nil => exact h k
  | cons e es ih =>
    cases hc : (nodes.getD i {}).child? e with
    | some j =>
      rw [extend_cons_of_some es hc]
      exact ih htree (htree.child hc).2 h
    | none =>
      have hnew : nodes.size < (sprout nodes i e).size := by simp
      rw [extend_cons_of_none es hc]
      exact ih (Outgrown.sprout htree hi hc).tree hnew (keyed_sprout h hi hc)

/-- Every node that is made when a way is laid out lies on this way. -/
theorem exists_prefix_of_extend (options : MatchOptions) (rules : Array α) {nodes : Array Node}
    (htree : IsTree nodes) {i : Nat} (hi : i < nodes.size) (es : List Edge) {k : Nat}
    (hk : nodes.size ≤ k) (hk' : k < (extend nodes i es).1.size) :
    ∃ pre, pre <+: es ∧ (Trie.mk options (extend nodes i es).1 rules).walk? i pre = some k := by
  induction es generalizing nodes i with
  | nil => exact absurd (Nat.lt_of_le_of_lt hk hk') (Nat.lt_irrefl _)
  | cons e es ih =>
    -- a way on from the node over `e` is a way from `i`
    have hstep : ∀ {j : Nat}, ((extend nodes i (e :: es)).1.getD i {}).child? e = some j →
        (∃ pre, pre <+: es ∧
          (Trie.mk options (extend nodes i (e :: es)).1 rules).walk? j pre = some k) →
        ∃ pre, pre <+: e :: es ∧
          (Trie.mk options (extend nodes i (e :: es)).1 rules).walk? i pre = some k := by
      rintro j hchild ⟨pre, hpre, hwalk⟩
      refine ⟨e :: pre, List.cons_prefix_cons.mpr ⟨rfl, hpre⟩, ?_⟩
      rw [walk?, node, hchild]
      exact hwalk
    cases hc : (nodes.getD i {}).child? e with
    | some j =>
      have hj := (htree.child hc).2
      refine hstep ((outgrown_extend htree hi _).1.kept hc) ?_
      rw [extend_cons_of_some es hc] at hk' ⊢
      exact ih htree hj hk hk'
    | none =>
      have hsprout := Outgrown.sprout htree hi hc
      have hnew : nodes.size < (sprout nodes i e).size := by simp
      have hchild : ((sprout nodes i e).getD i {}).child? e = some nodes.size := by
        rw [child?_sprout nodes hi, if_pos ⟨rfl, rfl⟩]
      refine hstep (j := nodes.size) ?_ ?_
      · rw [extend_cons_of_none es hc]
        exact (outgrown_extend hsprout.tree hnew es).1.kept hchild
      · rw [extend_cons_of_none es hc] at hk' ⊢
        by_cases hlast : k = nodes.size
        · exact ⟨[], List.nil_prefix, by rw [hlast]; rfl⟩
        · have hk : (sprout nodes i e).size ≤ k := by
            rw [size_sprout]
            omega
          exact ih hsprout.tree hnew hk hk'

/-! ## Ways when a rule is taken in -/

namespace Ascending

variable {t : Trie α}

/-- Ways lead where they led. -/
theorem walk?_add_eq_some (h : t.Ascending) (a : Address) (rule : α) {es : List Edge} {k : Nat}
    (hto : t.walk? 0 es = some k) : (t.add a rule).walk? 0 es = some k := by
  have hout : Outgrown t.nodes (t.laidOut a).nodes := (outgrown_extend h.tree h.root a.edges).1
  rw [walk?_add h, walk?_of_outgrown hout hto]

/-- The way of the rule leads to the node that has its number. -/
theorem walk?_add_edges (h : t.Ascending) (a : Address) (rule : α) :
    (t.add a rule).walk? 0 a.edges = some (extend t.nodes 0 a.edges).2 := by
  rw [walk?_add h]
  exact walk?_extend t.options t.rules h.tree h.root a.edges

/-- The nodes that are made lie on the way of the rule. -/
theorem exists_prefix_of_add (h : t.Ascending) (a : Address) (rule : α) {k : Nat}
    (hk : t.nodeCount ≤ k) (hk' : k < (t.add a rule).nodeCount) :
    ∃ pre, pre <+: a.edges ∧ (t.add a rule).walk? 0 pre = some k := by
  rw [nodeCount, size_nodes_add] at hk'
  obtain ⟨pre, hpre, hto⟩ :=
    exists_prefix_of_extend t.options t.rules h.tree h.root a.edges hk hk'
  refine ⟨pre, hpre, ?_⟩
  rw [walk?_add h]
  exact hto

end Ascending

/-! ## Nothing but what is stored -/

/-- Nothing is in a trie that does not belong to the way of a stored rule. -/
structure Trim (t : Trie α) (cat : Catalogue α) : Prop where
  /-- Over an edge there is one child. -/
  keyed : ∀ k, (t.node k).Keyed
  /-- A node is on the way to what is stored. -/
  reached : ∀ ⦃k : Nat⦄, k < t.nodeCount →
    ∃ es ∈ beginnings (cat.map Prod.fst), t.walk? 0 es = some k
  /-- A rule is at the end of its way. -/
  placed : ∀ ⦃k id : Nat⦄, (t.node k).rule? = some id →
    ∃ a rule, cat[id]? = some (a, rule) ∧ t.walk? 0 a.edges = some k

namespace Trim

variable {t : Trie α} {cat : Catalogue α}

theorem empty (options : MatchOptions) : (Trie.empty options : Trie α).Trim [] := by
  have hnode : ∀ k, (Trie.empty options : Trie α).node k = {} := by
    intro k
    cases k <;> simp [node, Trie.empty]
  refine ⟨fun k => ?_, fun k hk => ?_, fun k id hid => ?_⟩
  · rw [hnode]
    exact List.nodup_nil
  · obtain rfl : k = 0 := Nat.lt_one_iff.mp hk
    exact ⟨[], mem_beginnings.mpr (.inl rfl), rfl⟩
  · rw [hnode] at hid
    cases hid

/-- What is stored in the place of another has its way. -/
theorem replace (h : t.Trim cat) (rules : Array α) (a : Address) (rule : α) :
    ({ t with rules } : Trie α).Trim (cat.store a rule) := by
  have hwalk : ∀ es, ({ t with rules } : Trie α).walk? 0 es = t.walk? 0 es :=
    walk?_congr ({ t with rules } : Trie α) t (fun _ _ => rfl) 0
  refine ⟨h.keyed, fun k hk => ?_, fun k id hid => ?_⟩
  · obtain ⟨es, hes, hto⟩ := h.reached hk
    refine ⟨es, beginnings_mono (fun b hb => ?_) hes, by rw [hwalk, hto]⟩
    exact Catalogue.mem_map_fst_store.mpr (.inr hb)
  · obtain ⟨b, r, hb, hto⟩ := h.placed hid
    obtain ⟨r', hb'⟩ := Catalogue.exists_getElem?_store hb a rule
    exact ⟨b, r', hb', by rw [hwalk, hto]⟩

/-- The nodes that are made for a rule that is taken in are on its way. -/
theorem add (h : t.Trim cat) (hasc : t.Ascending) {a : Address} {rule : α}
    (hholds : (t.add a rule).Holds (cat.store a rule)) :
    (t.add a rule).Trim (cat.store a rule) := by
  refine ⟨fun k => ?_, fun k hk => ?_, fun k id hid => ?_⟩
  · have hkeyed := keyed_extend hasc.tree hasc.root h.keyed a.edges k
    rw [node, getD_nodes_add hasc]
    split
    · exact hkeyed
    · exact hkeyed
  · by_cases hlt : k < t.nodeCount
    · obtain ⟨es, hes, hto⟩ := h.reached hlt
      refine ⟨es, beginnings_mono (fun b hb => ?_) hes, hasc.walk?_add_eq_some a rule hto⟩
      exact Catalogue.mem_map_fst_store.mpr (.inr hb)
    · obtain ⟨es, hes, hto⟩ := hasc.exists_prefix_of_add a rule (Nat.not_lt.mp hlt) hk
      refine ⟨es, mem_beginnings.mpr (.inr ⟨a, ?_, hes⟩), hto⟩
      exact Catalogue.mem_map_fst_store.mpr (.inl rfl)
  · rw [rule?_node_add hasc] at hid
    split at hid
    · rename_i hend
      obtain rfl := Option.some.inj hid
      have hat : (t.add a rule).idAt? a = some t.size := by rw [idAt?_add hasc, if_pos rfl]
      obtain ⟨r, hr⟩ := hholds.idAt?_eq_some.mp hat
      exact ⟨a, r, hr, by rw [hasc.walk?_add_edges, hend]⟩
    · obtain ⟨b, r, hb, hto⟩ := h.placed hid
      obtain ⟨r', hb'⟩ := Catalogue.exists_getElem?_store hb a rule
      exact ⟨b, r', hb', hasc.walk?_add_eq_some a rule hto⟩

end Trim

/-- **Nothing is in a trie but for what is stored.** -/
theorem Grown.trim {options : MatchOptions} {t : Trie α} {cat : Catalogue α}
    (h : Grown options t cat) : t.Trim cat := by
  induction h with
  | empty => exact .empty options
  | insert grown stored ih =>
    have hholds := (grown.insert stored).holds
    obtain ⟨-, ⟨id, -, -, -, rfl⟩ | ⟨-, -, rfl⟩⟩ := insert_cases stored
    · exact ih.replace _ _ _
    · exact ih.add grown.ascending hholds

/-! ## Shapes -/

/-- The nodes of a trie are laid out for some addresses. -/
structure Shaped (t : Trie α) (stored : List Address) : Prop where
  /-- Over an edge there is one child. -/
  keyed : ∀ i, ((t.node i).children.map Prod.fst).Nodup
  /-- A child is there, and comes after its parent. -/
  child : ∀ i e j, (e, j) ∈ (t.node i).children → i < j ∧ j < t.nodeCount
  /-- Every node but the root is the child of one node over one edge. -/
  parent : ∀ j, 0 < j → j < t.nodeCount → ∃! p : Nat × Edge, (p.2, j) ∈ (t.node p.1).children
  /-- Edges lead somewhere from the root if they begin the way to a stored address. -/
  leads : ∀ es, (t.walk? 0 es).isSome ↔ es ∈ beginnings stored
  /-- Each beginning leads to a node of its own, and each node is led to. -/
  nodes : Set.BijOn (t.walk? 0) (beginnings stored) (some '' Set.Iio t.nodeCount)
  nodeCount_eq : t.nodeCount = (beginnings stored).card
  /-- Rules are behind two separators. -/
  separators : ∀ es i id, t.walk? 0 es = some i → (t.node i).rule? = some id →
    es.count .separator = 2
  /-- The numbers of the rules are those from zero on, each at one node. -/
  rule : ∀ id, id < t.size → ∃! i, (t.node i).rule? = some id
  rule_lt : ∀ i id, (t.node i).rule? = some id → id < t.size

namespace Grown

variable {options : MatchOptions} {t : Trie α} {cat : Catalogue α}

/-- What is stored is at the end of its way. -/
theorem exists_walk? (h : Grown options t cat) {a : Address} {id : Nat} {r : α}
    (ha : cat[id]? = some (a, r)) :
    ∃ i, t.walk? 0 a.edges = some i ∧ (t.node i).rule? = some id :=
  Option.bind_eq_some_iff.mp (h.holds.idAt?_eq_some.mpr ⟨r, ha⟩)

theorem isSome_walk?_iff (h : Grown options t cat) (es : List Edge) :
    (t.walk? 0 es).isSome ↔ es ∈ beginnings (cat.map Prod.fst) := by
  constructor
  · intro hsome
    obtain ⟨k, hk⟩ := Option.isSome_iff_exists.mp hsome
    obtain ⟨fs, hfs, hto⟩ := h.trim.reached (lt_of_walk? h.ascending.tree h.ascending.root hk)
    rwa [walk?_unique h.ascending.tree hk hto]
  · intro hes
    obtain rfl | ⟨a, ha, later, hlater⟩ := mem_beginnings.mp hes
    · rfl
    · obtain ⟨⟨_, r⟩, hentry, rfl⟩ := List.mem_map.mp ha
      obtain ⟨id, hid⟩ := List.getElem?_of_mem hentry
      obtain ⟨i, hi, -⟩ := h.exists_walk? hid
      rw [← hlater, walk?_append] at hi
      obtain ⟨j, hj, -⟩ := Option.bind_eq_some_iff.mp hi
      rw [hj]
      rfl

theorem bijOn_walk? (h : Grown options t cat) :
    Set.BijOn (t.walk? 0) (beginnings (cat.map Prod.fst)) (some '' Set.Iio t.nodeCount) := by
  refine ⟨fun es hes => ?_, fun es hes fs hfs heq => ?_, ?_⟩
  · obtain ⟨k, hk⟩ := Option.isSome_iff_exists.mp ((h.isSome_walk?_iff es).mpr hes)
    exact ⟨k, lt_of_walk? h.ascending.tree h.ascending.root hk, hk.symm⟩
  · obtain ⟨k, hk⟩ := Option.isSome_iff_exists.mp ((h.isSome_walk?_iff es).mpr hes)
    exact walk?_unique h.ascending.tree hk (heq ▸ hk)
  · rintro _ ⟨k, hk, rfl⟩
    obtain ⟨es, hes, hto⟩ := h.trim.reached hk
    exact ⟨es, hes, hto⟩

theorem existsUnique_parent (h : Grown options t cat) {j : Nat} (hpos : 0 < j)
    (hj : j < t.nodeCount) : ∃! p : Nat × Edge, (p.2, j) ∈ (t.node p.1).children := by
  have hmem : ∀ p : Nat × Edge, (p.2, j) ∈ (t.node p.1).children ↔
      (t.node p.1).child? p.2 = some j := fun p => (h.trim.keyed p.1).mem_children_iff
  obtain ⟨es, -, hto⟩ := h.trim.reached hj
  rcases List.eq_nil_or_concat es with rfl | ⟨es, e, rfl⟩
  · obtain rfl := Option.some.inj hto
    exact absurd hpos (Nat.lt_irrefl 0)
  · rw [List.concat_eq_append] at hto
    obtain ⟨i, -, hchild⟩ := walk?_concat_eq_some.mp hto
    refine ⟨(i, e), (hmem (i, e)).mpr hchild, fun p hp => ?_⟩
    obtain ⟨hi, he⟩ := h.ascending.tree.parent ((hmem p).mp hp) hchild
    exact Prod.ext hi he

theorem existsUnique_rule (h : Grown options t cat) {id : Nat} (hid : id < t.size) :
    ∃! i, (t.node i).rule? = some id := by
  have hlt : id < cat.length := h.holds.size_eq ▸ hid
  have hentry : cat[id]? = some (cat[id].1, cat[id].2) := List.getElem?_eq_getElem hlt
  obtain ⟨i, hi, hrule⟩ := h.exists_walk? hentry
  refine ⟨i, hrule, fun k hk => ?_⟩
  obtain ⟨a, r, ha, hto⟩ := h.trim.placed hk
  obtain ⟨haddress, -⟩ := Prod.mk.inj (Option.some.inj (hentry.symm.trans ha))
  rw [haddress] at hi
  exact Option.some.inj (hto.symm.trans hi)

/-- The nodes of a trie are laid out for what is stored in it. -/
theorem shaped (h : Grown options t cat) : t.Shaped (cat.map Prod.fst) where
  keyed := h.trim.keyed
  child i e j hmem := h.ascending.tree.child ((h.trim.keyed i).mem_children_iff.mp hmem)
  parent j := h.existsUnique_parent
  leads := h.isSome_walk?_iff
  nodes := h.bijOn_walk?
  nodeCount_eq := by
    have himage : (beginnings (cat.map Prod.fst)).image (t.walk? 0) =
        (Finset.range t.nodeCount).image some := by
      apply Finset.coe_injective
      rw [Finset.coe_image, h.bijOn_walk?.image_eq, Finset.coe_image, Finset.coe_range]
    calc t.nodeCount = ((Finset.range t.nodeCount).image some).card := by
          rw [Finset.card_image_of_injective _ (Option.some_injective Nat), Finset.card_range]
      _ = ((beginnings (cat.map Prod.fst)).image (t.walk? 0)).card := by rw [himage]
      _ = (beginnings (cat.map Prod.fst)).card :=
          Finset.card_image_of_injOn h.bijOn_walk?.injOn
  separators es i id hto hrule := by
    obtain ⟨a, r, -, hway⟩ := h.trim.placed hrule
    rw [walk?_unique h.ascending.tree hto hway, a.count_separator_edges]
  rule id := h.existsUnique_rule
  rule_lt i id hrule := h.ascending.rule hrule

end Grown

/-- **The shape of a trie.** Whatever rules are brought to an empty trie, one after the other, its
nodes are the beginnings of the ways to the addresses at which a rule is stored, one node for each.
A child comes after its parent and has no other, and the rules have the numbers from zero on, each
at one node behind two separators. So whatever the trie is asked, it looks up only what is there,
and a request that is refused leaves no node behind. -/
theorem run_take_shaped (options : MatchOptions) (rs : List (Request α)) :
    let t := (Machine.run take (empty options) rs).2
    let map := (Machine.run (Ledger.take options.wildcardPairs) .empty rs).2
    t.Shaped map.order ∧ t.InRange ∧
      ∀ (r : Request α) (e : AddressError), (t.take r).1 = .error e → (t.take r).2 = t := by
  intro t map
  obtain ⟨-, cat, hgrown, hlists⟩ := (keeps_empty options).run rs
  refine ⟨?_, hgrown.ascending.inRange, fun r e => take_eq_self_of_error⟩
  rw [hlists.order_eq]
  exact hgrown.shaped

end Trie

end Colloquy
