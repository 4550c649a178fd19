import Colloquy.Proofs.Trie.Ledger
import Colloquy.Proofs.Trie.Ways

/-!
# No number leads out of a trie

Nodes and rules are known by their numbers, and a number that is of nothing is passed over in
silence. Each way of asking a trie has a careful twin here, which stops at such a number. In a trie
whose numbers are in order the careful twins never stop.

* `carefulWalk`, `carefulInsert`, `carefulAt` — the careful twins.
* `Ends.within` — what moves keep holds of every state that a search looks into.
* `Ascending.inRange` — whatever a trie is asked, it looks up only what is there.
-/

namespace Colloquy

namespace Trie

variable {α : Type} {t : Trie α}

/-! ## Careful twins -/

/-- The node to which some edges lead, each node being looked up with care. -/
def carefulWalk (t : Trie α) (i : Nat) : List Edge → Option (Option Nat)
  | [] => some (some i)
  | e :: es =>
    match t.nodes[i]? with
    | none => none
    | some n =>
      match n.child? e with
      | none => some none
      | some j => t.carefulWalk j es

/-- The number of the rule at an address, each node being looked up with care. -/
def carefulIdAt (t : Trie α) (a : Address) : Option (Option Nat) := do
  match ← t.carefulWalk 0 a.edges with
  | none => return none
  | some i => return (← t.nodes[i]?).rule?

/-- The rule at an address, everything being looked up with care. -/
def carefulAt (t : Trie α) (a : Address) : Option (Option α) := do
  match ← t.carefulIdAt a with
  | none => return none
  | some id => return some (← t.rules[id]?)

/-- Lay out a way, each node being looked up with care. -/
def carefulExtend (nodes : Array Node) (i : Nat) : List Edge → Option (Array Node × Nat)
  | [] => some (nodes, i)
  | e :: es =>
    match nodes[i]? with
    | none => none
    | some n =>
      match n.child? e with
      | some j => carefulExtend nodes j es
      | none => carefulExtend (sprout nodes i e) nodes.size es

/-- Take in a rule, each node being looked up with care. -/
def carefulAdd (t : Trie α) (a : Address) (rule : α) : Option (Trie α) := do
  let (nodes, i) ← carefulExtend t.nodes 0 a.edges
  let _ ← nodes[i]?
  return { t with
    nodes := nodes.modify i fun n => { n with rule? := some t.rules.size }
    rules := t.rules.push rule }

/-- Store a rule, everything being looked up with care. -/
def carefulInsert (t : Trie α) (a : Address) (rule : α) (policy : Policy) :
    Option (Except AddressError (Placement × Trie α)) := do
  match a.check t.options.wildcardPairs with
  | .error e => return .error e
  | .ok () =>
    match ← t.carefulIdAt a, policy with
    | some _, .reject => return .error (.occupied a)
    | some id, .overwrite =>
      let _ ← t.rules[id]?
      return .ok (.replacing id, { t with rules := t.rules.setIfInBounds id rule })
    | none, _ => return .ok (.fresh t.rules.size, ← t.carefulAdd a rule)

theorem getElem?_nodes {i : Nat} (hi : i < t.nodeCount) : t.nodes[i]? = some (t.node i) := by
  rw [nodeCount] at hi
  simp [node, hi]

theorem carefulWalk_eq (h : IsTree t.nodes) {i : Nat} (hi : i < t.nodeCount) (es : List Edge) :
    t.carefulWalk i es = some (t.walk? i es) := by
  induction es generalizing i with
  | nil => rfl
  | cons e es ih =>
    simp only [carefulWalk, getElem?_nodes hi, walk?]
    cases hc : (t.node i).child? e with
    | none => rfl
    | some j => exact ih (h.child hc).2

theorem Ascending.carefulIdAt_eq (h : t.Ascending) (a : Address) :
    t.carefulIdAt a = some (t.idAt? a) := by
  rw [carefulIdAt, carefulWalk_eq h.tree h.root, idAt?]
  cases hwalk : t.walk? 0 a.edges with
  | none => rfl
  | some i =>
    have hi : i < t.nodeCount := lt_of_walk? h.tree h.root hwalk
    simp [getElem?_nodes hi]

theorem Ascending.carefulAt_eq (h : t.Ascending) (a : Address) :
    t.carefulAt a = some (t.at? a) := by
  rw [carefulAt, h.carefulIdAt_eq, at?]
  cases hid : t.idAt? a with
  | none => rfl
  | some id =>
    have hlt : id < t.rules.size := h.idAt?_lt hid
    simp [get?, hlt]

theorem carefulExtend_eq {nodes : Array Node} (h : IsTree nodes) {i : Nat} (hi : i < nodes.size)
    (es : List Edge) : carefulExtend nodes i es = some (extend nodes i es) := by
  induction es generalizing nodes i with
  | nil => rfl
  | cons e es ih =>
    have hnode : nodes[i]? = some (nodes.getD i {}) := by simp [hi]
    have hnew : nodes.size < (sprout nodes i e).size := by simp
    simp only [carefulExtend, hnode]
    cases hc : (nodes.getD i {}).child? e with
    | some j =>
      rw [extend_cons_of_some es hc]
      exact ih h (h.child hc).2
    | none =>
      rw [extend_cons_of_none es hc]
      exact ih (Outgrown.sprout h hi hc).tree hnew

theorem Ascending.carefulAdd_eq (h : t.Ascending) (a : Address) (rule : α) :
    t.carefulAdd a rule = some (t.add a rule) := by
  have hend := (outgrown_extend h.tree h.root a.edges).2
  rw [carefulAdd, carefulExtend_eq h.tree h.root]
  simp [hend]
  rfl

theorem Ascending.carefulInsert_eq (h : t.Ascending) (a : Address) (rule : α) (policy : Policy) :
    t.carefulInsert a rule policy = some (t.insert a rule policy) := by
  unfold carefulInsert
  cases hcheck : a.check t.options.wildcardPairs with
  | error e => rw [insert_eq_error rule policy hcheck]; rfl
  | ok u =>
    rw [h.carefulIdAt_eq]
    cases hid : t.idAt? a with
    | none => simp [insert_eq_fresh rule policy hcheck hid, h.carefulAdd_eq, size]
    | some id =>
      have hlt : id < t.rules.size := h.idAt?_lt hid
      cases policy with
      | reject => rw [insert_eq_occupied rule hcheck hid]; rfl
      | overwrite => simp [insert_eq_replacing rule hcheck hid, hlt]

/-! ## Searching -/

variable {q : Query} {name : List Word}

/-- **What moves keep holds of every state that a search looks into.** One of these states has the
rule that is found. -/
theorem Ends.within {P : State → Prop}
    (hmoves : ∀ {s : State} {m : Move}, P s → m ∈ t.moves q name s → P m.target) {task : Task}
    {trail trail' : Trail} {found? : Option Found}
    (hends : Ends t q name task trail found? trail') (htask : ∀ s ∈ task.begins, P s)
    (htrail : ∀ r ∈ trail.entered, P r) :
    (∀ r ∈ trail'.entered, P r) ∧
      ∀ f, found? = some f → ∃ r, P r ∧ t.ruleAt? q r = some f.id := by
  induction hends with
  | passed given => exact ⟨htrail, nofun⟩
  | @rule s trail id new rule =>
    have hs : P s := htask s List.mem_cons_self
    refine ⟨List.forall_mem_cons.mpr ⟨hs, htrail⟩, fun f hf => ⟨s, hs, ?_⟩⟩
    obtain rfl := Option.some.inj hf
    exact rule
  | @found s trail trail' f new rule behind ih | @failed s trail trail' new rule behind ih =>
    have hs : P s := htask s List.mem_cons_self
    have htargets : ∀ r ∈ (t.moves q name s).map Move.target, P r :=
      List.forall_mem_map.mpr fun m hm => hmoves hs hm
    exact ih htargets (List.forall_mem_cons.mpr ⟨hs, htrail⟩)
  | done => exact ⟨htrail, nofun⟩
  | hit first ih =>
    obtain ⟨hfirst, -⟩ := List.forall_mem_cons.mp htask
    obtain ⟨hkept, hfound⟩ := ih (List.forall_mem_singleton.mpr hfirst) htrail
    refine ⟨hkept, fun f hf => ?_⟩
    obtain rfl := Option.some.inj hf
    rw [Found.id_after]
    exact hfound _ rfl
  | miss first others ihfirst ihothers =>
    obtain ⟨hfirst, hothers⟩ := List.forall_mem_cons.mp htask
    obtain ⟨hkept, -⟩ := ihfirst (List.forall_mem_singleton.mpr hfirst) htrail
    exact ihothers hothers hkept

/-! ## Whatever a trie is asked -/

/-- Only what is there is looked up: in storing a rule, in asking for the rule at an address, and in
searching, where every rule that is found is there. -/
structure InRange (t : Trie α) : Prop where
  insert : ∀ (a : Address) (rule : α) (policy : Policy),
    t.carefulInsert a rule policy = some (t.insert a rule policy)
  at? : ∀ a : Address, t.carefulAt a = some (t.at? a)
  search : ∀ (q : Query) (name : List Word), ∀ s ∈ (t.searchFromRoot q name).2.entered,
    s.node < t.nodeCount
  find? : ∀ (q : Query) (name : List Word) (f : Found), (t.searchFromRoot q name).1 = some f →
    ∃ rule, t.get? f.id = some rule ∧ t.find? q name = some ⟨f.id, rule, f.bindings⟩

/-- **A trie whose numbers are in order looks up only what is there.** -/
theorem Ascending.inRange (h : t.Ascending) : t.InRange := by
  have hwithin : ∀ (q : Query) (name : List Word),
      (∀ s ∈ (t.searchFromRoot q name).2.entered, s.node < t.nodeCount) ∧
        ∀ f, (t.searchFromRoot q name).1 = some f →
          ∃ s, s.node < t.nodeCount ∧ t.ruleAt? q s = some f.id := fun q name =>
    h.ends_searchFromRoot.within (fun _ hm => (h.lt_target hm).2)
      (List.forall_mem_singleton.mpr h.root) (by simp)
  refine ⟨h.carefulInsert_eq, h.carefulAt_eq, fun q name => (hwithin q name).1, ?_⟩
  intro q name f hf
  obtain ⟨s, -, hs⟩ := (hwithin q name).2 f hf
  have hlt : f.id < t.rules.size := h.rule (segment_of_ruleAt? hs).2.2
  refine ⟨t.rules[f.id], by simp [get?, hlt], ?_⟩
  simp [Trie.find?, hf, get?, hlt]

end Trie

end Colloquy
