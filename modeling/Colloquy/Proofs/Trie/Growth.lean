import Colloquy.Trie.Basic

/-!
# Tries that grow rule by rule

Every trie in use was empty once, and rules were stored in it one after the other. What such a trie
looks like inside is said here once, so that no later proof opens `extend` again.

* `Catalogue` — what was stored, without any trie.
* `Trie.Grown` — the tries that storing rules leads to, with the catalogue of what was stored.
* `Trie.IsTree` — every child comes after its parent, and no other edge leads to it.
* `Trie.Outgrown` — what laying out a way keeps, and what it adds.
* `Grown.ascending` — grown tries are trees, and no number leads out of them.
-/

namespace Colloquy

variable {α : Type}

/-! ## What was stored -/

/-- Rules with the addresses at which they were stored. The place of a rule is its number. -/
abbrev Catalogue (α : Type) := List (Address × α)

/-- Store a rule: in the place of one with the same address, or else behind all others. -/
def Catalogue.store (a : Address) (rule : α) : Catalogue α → Catalogue α
  | [] => [(a, rule)]
  | (b, other) :: cat => if b = a then (a, rule) :: cat else (b, other) :: store a rule cat

namespace Trie

/-- The tries that are made by storing rules, one after the other, in an empty trie, and what was
stored. A rule that is refused leaves a trie as it was. -/
inductive Grown (options : MatchOptions) : Trie α → Catalogue α → Prop where
  /-- No rule was stored yet. -/
  | empty : Grown options (empty options) []
  /-- One more rule was stored. -/
  | insert {t t' : Trie α} {cat : Catalogue α} {a : Address} {rule : α} {policy : Policy}
      {p : Placement} (grown : Grown options t cat)
      (stored : t.insert a rule policy = .ok (p, t')) : Grown options t' (cat.store a rule)

/-- All that storing a rule can do: the rule takes the place and the number of the one that is
stored at the address, or it is taken in as a new one. -/
theorem insert_cases {t t' : Trie α} {a : Address} {rule : α} {policy : Policy} {p : Placement}
    (stored : t.insert a rule policy = .ok (p, t')) :
    a.check t.options.wildcardPairs = .ok () ∧
      ((∃ id, t.idAt? a = some id ∧ policy = .overwrite ∧ p = .replacing id ∧
          t' = { t with rules := t.rules.setIfInBounds id rule }) ∨
        (t.idAt? a = none ∧ p = .fresh t.rules.size ∧ t' = t.add a rule)) := by
  unfold Trie.insert at stored
  cases hcheck : a.check t.options.wildcardPairs with
  | error e => simp [hcheck, bind, Except.bind] at stored
  | ok u =>
    simp only [hcheck, bind, Except.bind] at stored
    refine ⟨rfl, ?_⟩
    split at stored
    · cases stored
    · rename_i id hid
      cases stored
      exact .inl ⟨id, hid, rfl, rfl, rfl⟩
    · rename_i hfree
      cases stored
      exact .inr ⟨hfree, rfl, rfl⟩

/-- How a trie matches is settled when it is made. -/
theorem Grown.options_eq {options : MatchOptions} {t : Trie α} {cat : Catalogue α}
    (h : Grown options t cat) : t.options = options := by
  induction h with
  | empty => rfl
  | insert _ stored ih =>
    obtain ⟨-, ⟨_, -, -, -, rfl⟩ | ⟨-, -, rfl⟩⟩ := insert_cases stored
    · exact ih
    · exact ih

/-- A rule that is taken in at an address where there was none. -/
theorem Grown.add {options : MatchOptions} {t : Trie α} {cat : Catalogue α}
    (h : Grown options t cat) {a : Address} (rule : α)
    (hcheck : a.check t.options.wildcardPairs = .ok ()) (hfree : t.idAt? a = none) :
    Grown options (t.add a rule) (cat.store a rule) := by
  have hstored : t.insert a rule .reject = .ok (.fresh t.rules.size, t.add a rule) := by
    simp [Trie.insert, hcheck, hfree, bind, Except.bind]
  exact .insert h hstored

/-! ## A new child -/

/-- Nodes with one more: the child of node `i` over an edge that led nowhere before. -/
def sprout (nodes : Array Node) (i : Nat) (e : Edge) : Array Node :=
  (nodes.modify i fun n => { n with children := (e, nodes.size) :: n.children }).push {}

theorem extend_cons_of_some {nodes : Array Node} {i j : Nat} {e : Edge} (es : List Edge)
    (h : (nodes.getD i {}).child? e = some j) : extend nodes i (e :: es) = extend nodes j es := by
  rw [extend, h]

theorem extend_cons_of_none {nodes : Array Node} {i : Nat} {e : Edge} (es : List Edge)
    (h : (nodes.getD i {}).child? e = none) :
    extend nodes i (e :: es) = extend (sprout nodes i e) nodes.size es := by
  rw [extend, h]
  simp [sprout]

@[simp] theorem size_sprout (nodes : Array Node) (i : Nat) (e : Edge) :
    (sprout nodes i e).size = nodes.size + 1 := by
  simp [sprout]

theorem getD_sprout (nodes : Array Node) {i : Nat} (hi : i < nodes.size) (e : Edge) (k : Nat) :
    (sprout nodes i e).getD k {} =
      if k = i then
        { nodes.getD i {} with children := (e, nodes.size) :: (nodes.getD i {}).children }
      else nodes.getD k {} := by
  simp only [sprout, Array.getD_eq_getD_getElem?, Array.getElem?_push, Array.size_modify,
    Array.getElem?_modify]
  by_cases hk : k = nodes.size
  · have hne : k ≠ i := by omega
    simp [hk, show nodes.size ≠ i by omega]
  · by_cases hki : k = i
    · subst hki
      simp [hk, hi]
    · simp [hk, hki, Ne.symm hki]

/-- Over the new edge the new node is reached, and all other edges lead where they led. -/
theorem child?_sprout (nodes : Array Node) {i : Nat} (hi : i < nodes.size) (e : Edge) (k : Nat)
    (f : Edge) :
    ((sprout nodes i e).getD k {}).child? f =
      if k = i ∧ f = e then some nodes.size else (nodes.getD k {}).child? f := by
  rw [getD_sprout nodes hi]
  by_cases hk : k = i
  · subst hk
    by_cases hf : f = e
    · simp [Node.child?, hf]
    · have hfe : (f == e) = false := by simpa using hf
      simp [Node.child?, List.lookup_cons, hf, hfe]
  · simp [hk]

/-- No rule moves when a node is made. -/
theorem rule?_sprout (nodes : Array Node) {i : Nat} (hi : i < nodes.size) (e : Edge) (k : Nat) :
    ((sprout nodes i e).getD k {}).rule? = (nodes.getD k {}).rule? := by
  rw [getD_sprout nodes hi]
  by_cases hk : k = i
  · simp [hk]
  · simp [hk]

/-! ## Trees -/

/-- Nodes that make up a tree: every child comes after its parent and is there, and only one edge
leads to it. -/
structure IsTree (nodes : Array Node) : Prop where
  child : ∀ ⦃i : Nat⦄ ⦃e : Edge⦄ ⦃j : Nat⦄,
    (nodes.getD i {}).child? e = some j → i < j ∧ j < nodes.size
  parent : ∀ ⦃i i' : Nat⦄ ⦃e e' : Edge⦄ ⦃j : Nat⦄, (nodes.getD i {}).child? e = some j →
    (nodes.getD i' {}).child? e' = some j → i = i' ∧ e = e'

/-- What becomes of nodes when a way is laid out among them: all edges and rules are kept, and
what is new leads to what is new. -/
structure Outgrown (nodes nodes' : Array Node) : Prop where
  tree : IsTree nodes'
  size_le : nodes.size ≤ nodes'.size
  rule?_eq : ∀ k, (nodes'.getD k {}).rule? = (nodes.getD k {}).rule?
  kept : ∀ ⦃k : Nat⦄ ⦃f : Edge⦄ ⦃j : Nat⦄,
    (nodes.getD k {}).child? f = some j → (nodes'.getD k {}).child? f = some j
  fresh : ∀ ⦃k : Nat⦄ ⦃f : Edge⦄ ⦃j : Nat⦄, (nodes'.getD k {}).child? f = some j →
    (nodes.getD k {}).child? f = some j ∨ nodes.size ≤ j

namespace Outgrown

variable {nodes nodes' nodes'' : Array Node}

theorem refl (h : IsTree nodes) : Outgrown nodes nodes where
  tree := h
  size_le := Nat.le_refl _
  rule?_eq _ := rfl
  kept _ _ _ hj := hj
  fresh _ _ _ hj := .inl hj

theorem trans (h : Outgrown nodes nodes') (h' : Outgrown nodes' nodes'') :
    Outgrown nodes nodes'' where
  tree := h'.tree
  size_le := Nat.le_trans h.size_le h'.size_le
  rule?_eq k := (h'.rule?_eq k).trans (h.rule?_eq k)
  kept _ _ _ hj := h'.kept (h.kept hj)
  fresh _ _ _ hj := by
    rcases h'.fresh hj with hj | hj
    · exact h.fresh hj
    · exact .inr (Nat.le_trans h.size_le hj)

/-- A new child makes a tree a bigger tree. -/
theorem sprout (h : IsTree nodes) {i : Nat} (hi : i < nodes.size) {e : Edge}
    (he : (nodes.getD i {}).child? e = none) : Outgrown nodes (sprout nodes i e) where
  tree := by
    refine ⟨fun k f j hj => ?_, fun k k' f f' j hj hj' => ?_⟩
    · rw [child?_sprout nodes hi] at hj
      rw [size_sprout]
      split at hj
      · rename_i hk
        have hjk : nodes.size = j := by simpa using hj
        omega
      · have hkj := h.child hj
        omega
    · rw [child?_sprout nodes hi] at hj hj'
      split at hj <;> split at hj'
      · rename_i hk hk'
        exact ⟨hk.1.trans hk'.1.symm, hk.2.trans hk'.2.symm⟩
      · obtain rfl := Option.some.inj hj
        exact absurd (h.child hj').2 (Nat.lt_irrefl _)
      · obtain rfl := Option.some.inj hj'
        exact absurd (h.child hj).2 (Nat.lt_irrefl _)
      · exact h.parent hj hj'
  size_le := by simp
  rule?_eq := rule?_sprout nodes hi e
  kept k f j hj := by
    rw [child?_sprout nodes hi, if_neg]
    · exact hj
    · rintro ⟨rfl, rfl⟩
      rw [he] at hj
      cases hj
  fresh k f j hj := by
    rw [child?_sprout nodes hi] at hj
    split at hj
    · exact .inr (Nat.le_of_eq (Option.some.inj hj))
    · exact .inl hj

end Outgrown

/-- What laying out a way does to a tree. The way ends at a node that is there. -/
theorem outgrown_extend {nodes : Array Node} (h : IsTree nodes) {i : Nat} (hi : i < nodes.size)
    (es : List Edge) :
    Outgrown nodes (extend nodes i es).1 ∧ (extend nodes i es).2 < (extend nodes i es).1.size := by
  induction es generalizing nodes i with
  | nil => exact ⟨.refl h, hi⟩
  | cons e es ih =>
    cases hc : (nodes.getD i {}).child? e with
    | some j =>
      rw [extend_cons_of_some es hc]
      exact ih h (h.child hc).2
    | none =>
      rw [extend_cons_of_none es hc]
      have hsprout := Outgrown.sprout h hi hc
      obtain ⟨hextend, hend⟩ := ih (i := nodes.size) hsprout.tree (by simp)
      exact ⟨hsprout.trans hextend, hend⟩

/-- The way that is laid out leads to its end. -/
theorem walk?_extend (options : MatchOptions) (rules : Array α) {nodes : Array Node}
    (h : IsTree nodes) {i : Nat} (hi : i < nodes.size) (es : List Edge) :
    (Trie.mk options (extend nodes i es).1 rules).walk? i es = some (extend nodes i es).2 := by
  induction es generalizing nodes i with
  | nil => rfl
  | cons e es ih =>
    cases hc : (nodes.getD i {}).child? e with
    | some j =>
      have hj := (h.child hc).2
      have hchild := (outgrown_extend h hj es).1.kept hc
      rw [extend_cons_of_some es hc, walk?, node, hchild]
      exact ih h hj
    | none =>
      have hsprout := Outgrown.sprout h hi hc
      have hnew : nodes.size < (sprout nodes i e).size := by simp
      have hchild : ((sprout nodes i e).getD i {}).child? e = some nodes.size := by
        rw [child?_sprout nodes hi, if_pos ⟨rfl, rfl⟩]
      have hchild := (outgrown_extend hsprout.tree hnew es).1.kept hchild
      rw [extend_cons_of_none es hc, walk?, node, hchild]
      exact ih hsprout.tree hnew

/-! ## Numbers that stay inside -/

/-- A number that is that of no node has nothing to it. -/
theorem node_eq_empty {t : Trie α} {i : Nat} (hi : t.nodeCount ≤ i) : t.node i = {} := by
  rw [nodeCount] at hi
  simp [node, Array.getD_eq_getD_getElem?, Array.getElem?_eq_none hi]

/-- A tree with a root, in which every number is that of something in the trie. -/
structure Ascending (t : Trie α) : Prop where
  /-- There is a root. -/
  root : 0 < t.nodeCount
  tree : IsTree t.nodes
  /-- A rule that a node names is there. -/
  rule : ∀ ⦃i id : Nat⦄, (t.node i).rule? = some id → id < t.size

theorem ascending_empty (options : MatchOptions) : (empty options : Trie α).Ascending := by
  have hnode : ∀ i, (#[({} : Node)].getD i {}) = {} := by
    intro i
    cases i <;> simp
  refine ⟨by simp [nodeCount, empty], ⟨?_, ?_⟩, ?_⟩
  · intro i e j h
    simp [empty, hnode, Node.child?] at h
  · intro i i' e e' j h
    simp [empty, hnode, Node.child?] at h
  · intro i id h
    simp [empty, node, hnode] at h

/-- A rule that is taken in is named by the node at the end of its way. -/
theorem getD_nodes_add {t : Trie α} (h : t.Ascending) (a : Address) (rule : α) (k : Nat) :
    (t.add a rule).nodes.getD k {} =
      if k = (extend t.nodes 0 a.edges).2 then
        { (extend t.nodes 0 a.edges).1.getD k {} with rule? := some t.size }
      else (extend t.nodes 0 a.edges).1.getD k {} := by
  have hend := (outgrown_extend h.tree h.root a.edges).2
  simp only [Trie.add, Array.getD_eq_getD_getElem?, Array.getElem?_modify]
  by_cases hk : k = (extend t.nodes 0 a.edges).2
  · subst hk
    simp [hend, size]
  · simp [hk, Ne.symm hk]

theorem child?_nodes_add {t : Trie α} (h : t.Ascending) (a : Address) (rule : α) (k : Nat)
    (e : Edge) :
    ((t.add a rule).nodes.getD k {}).child? e =
      ((extend t.nodes 0 a.edges).1.getD k {}).child? e := by
  rw [getD_nodes_add h]
  split <;> rfl

theorem size_nodes_add (t : Trie α) (a : Address) (rule : α) :
    (t.add a rule).nodes.size = (extend t.nodes 0 a.edges).1.size := by
  simp [Trie.add]

theorem Ascending.add {t : Trie α} (h : t.Ascending) (a : Address) (rule : α) :
    (t.add a rule).Ascending := by
  obtain ⟨hout, hend⟩ := outgrown_extend h.tree h.root a.edges
  have hsize : (t.add a rule).size = t.size + 1 := by simp [Trie.add, size]
  refine ⟨?_, ⟨?_, ?_⟩, ?_⟩
  · rw [nodeCount, size_nodes_add]
    exact Nat.lt_of_lt_of_le h.root hout.size_le
  · intro i e j hj
    rw [child?_nodes_add h] at hj
    rw [size_nodes_add]
    exact hout.tree.child hj
  · intro i i' e e' j hj hj'
    rw [child?_nodes_add h] at hj hj'
    exact hout.tree.parent hj hj'
  · intro i id hid
    rw [node, getD_nodes_add h] at hid
    rw [hsize]
    split at hid
    · have : t.size = id := by simpa using hid
      omega
    · rw [hout.rule?_eq] at hid
      exact Nat.lt_succ_of_lt (h.rule hid)

theorem Ascending.insert {t t' : Trie α} (h : t.Ascending) {a : Address} {rule : α}
    {policy : Policy} {p : Placement} (stored : t.insert a rule policy = .ok (p, t')) :
    t'.Ascending := by
  obtain ⟨-, ⟨id, -, -, -, rfl⟩ | ⟨-, -, rfl⟩⟩ := insert_cases stored
  · exact ⟨h.root, h.tree, fun i id hid => by simpa [size] using h.rule hid⟩
  · exact h.add a rule

/-- **Numbers are in order.** In every trie that was made by storing rules a child comes after its
parent, and whatever a node names is there. -/
theorem Grown.ascending {options : MatchOptions} {t : Trie α} {cat : Catalogue α}
    (h : Grown options t cat) : t.Ascending := by
  induction h with
  | empty => exact ascending_empty options
  | insert _ stored ih => exact ih.insert stored

end Trie

end Colloquy
