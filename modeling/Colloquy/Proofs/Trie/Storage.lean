import Colloquy.Proofs.Trie.Growth
import Mathlib.Data.List.Induction

/-!
# What a trie holds

A trie is a way of keeping a catalogue: at an address is found the rule that was stored there last,
with the number of the first rule that was stored there. A rule never moves when another is taken
in, however many nodes their ways share.

* `walk?_unique` — no two ways lead to one node.
* `idAt?_add` — taking a rule in changes what is at its own address, and nothing else.
* `Holds` — a trie holds the rules of a catalogue at their addresses.
* `Grown.holds` — a trie holds what was stored in it.
-/

namespace Colloquy

/-- Lists that a sign divides are told apart piece by piece. -/
theorem append_cons_inj_of_map {β γ : Type} {f : β → γ} (hf : Function.Injective f) {z : γ}
    (hz : ∀ b, f b ≠ z) {ps ps' : List β} {xs ys : List γ}
    (h : ps.map f ++ z :: xs = ps'.map f ++ z :: ys) : ps = ps' ∧ xs = ys := by
  induction ps generalizing ps' with
  | nil =>
    cases ps' with
    | nil => exact ⟨rfl, by simpa using h⟩
    | cons p' ps' => exact absurd (List.cons.inj h).1.symm (hz p')
  | cons p ps ih =>
    cases ps' with
    | nil => exact absurd (List.cons.inj h).1 (hz p)
    | cons p' ps' =>
      obtain ⟨hp, h⟩ := List.cons.inj h
      obtain ⟨hps, hxs⟩ := ih h
      exact ⟨by rw [hf hp, hps], hxs⟩

theorem Edge.slot_injective : Function.Injective Edge.slot := fun _ _ h => Edge.slot.inj h

/-- Different addresses have different ways. -/
theorem Address.edges_injective : Function.Injective Address.edges := by
  intro a b h
  have hslot : ∀ s, Edge.slot s ≠ .separator := fun s => by simp
  obtain ⟨hpattern, h⟩ := append_cons_inj_of_map Edge.slot_injective hslot h
  obtain ⟨hcontext, h⟩ := append_cons_inj_of_map Edge.slot_injective hslot h
  have htopic : a.topic = b.topic := (List.map_inj_right fun _ _ h => Edge.slot_injective h).mp h
  exact Segmented.ext hpattern hcontext htopic

namespace Catalogue

variable {α : Type} {cat : Catalogue α} {a : Address}

/-- A rule at a new address is stored behind all others. -/
theorem store_eq_append (h : ∀ e ∈ cat, e.1 ≠ a) (rule : α) :
    cat.store a rule = cat ++ [(a, rule)] := by
  induction cat with
  | nil => rfl
  | cons e cat ih =>
    obtain ⟨he, hc⟩ := List.forall_mem_cons.mp h
    rw [store, if_neg he, ih hc]
    rfl

/-- A rule at the address of another is stored in its place. -/
theorem store_eq_set {i : Nat} {other : α} (hi : cat[i]? = some (a, other))
    (honly : ∀ {j : Nat} {r : α}, cat[j]? = some (a, r) → j = i) (rule : α) :
    cat.store a rule = cat.set i (a, rule) := by
  induction cat generalizing i with
  | nil => simp at hi
  | cons e cat ih =>
    obtain ⟨b, r⟩ := e
    by_cases hb : b = a
    · obtain rfl : 0 = i := @honly 0 r (by rw [hb]; rfl)
      rw [store, if_pos hb]
      rfl
    · cases i with
      | zero =>
        obtain ⟨rfl, -⟩ := Prod.mk.inj (Option.some.inj hi)
        exact absurd rfl hb
      | succ i =>
        have hrest : store a rule cat = cat.set i (a, rule) := by
          refine ih hi fun {j r} hj => ?_
          exact Nat.succ.inj (@honly (j + 1) r hj)
        rw [store, if_neg hb, hrest]
        rfl

end Catalogue

namespace Trie

variable {α : Type} {t t' : Trie α}

/-! ## Ways to nodes -/

theorem walk?_append (t : Trie α) (i : Nat) (es fs : List Edge) :
    t.walk? i (es ++ fs) = (t.walk? i es).bind fun j => t.walk? j fs := by
  induction es generalizing i with
  | nil => rfl
  | cons e es ih =>
    rw [List.cons_append, walk?, walk?]
    cases (t.node i).child? e with
    | none => rfl
    | some j => exact ih j

/-- Where edges lead depends on the children of the nodes. -/
theorem walk?_congr (t t' : Trie α) (h : ∀ i e, (t.node i).child? e = (t'.node i).child? e)
    (i : Nat) (es : List Edge) : t.walk? i es = t'.walk? i es := by
  induction es generalizing i with
  | nil => rfl
  | cons e es ih =>
    rw [walk?, walk?, h]
    exact Option.bind_congr fun j _ => ih j

/-- What is at an address does not depend on the rules themselves. -/
theorem idAt?_mk (t : Trie α) (rules : Array α) (a : Address) :
    (Trie.mk t.options t.nodes rules).idAt? a = t.idAt? a := by
  rw [idAt?, walk?_congr (Trie.mk t.options t.nodes rules) t fun _ _ => rfl]
  rfl

theorem walk?_concat_eq_some {i k : Nat} {es : List Edge} {e : Edge} :
    t.walk? i (es ++ [e]) = some k ↔
      ∃ j, t.walk? i es = some j ∧ (t.node j).child? e = some k := by
  rw [walk?_append, Option.bind_eq_some_iff]
  simp [walk?]

theorem le_of_walk? (h : IsTree t.nodes) {i j : Nat} {es : List Edge}
    (hwalk : t.walk? i es = some j) : i ≤ j := by
  induction es generalizing i with
  | nil => exact Nat.le_of_eq (Option.some.inj hwalk)
  | cons e es ih =>
    obtain ⟨k, hk, hwalk⟩ := Option.bind_eq_some_iff.mp hwalk
    exact Nat.le_trans (Nat.le_of_lt (h.child hk).1) (ih hwalk)

theorem lt_of_walk? (h : IsTree t.nodes) {i j : Nat} (hi : i < t.nodes.size) {es : List Edge}
    (hwalk : t.walk? i es = some j) : j < t.nodes.size := by
  induction es generalizing i with
  | nil => exact Option.some.inj hwalk ▸ hi
  | cons e es ih =>
    obtain ⟨k, hk, hwalk⟩ := Option.bind_eq_some_iff.mp hwalk
    exact ih (h.child hk).2 hwalk

/-- From the root only one way leads to a node. -/
theorem walk?_unique (h : IsTree t.nodes) {es fs : List Edge} {j : Nat}
    (hes : t.walk? 0 es = some j) (hfs : t.walk? 0 fs = some j) : es = fs := by
  -- both ways end with the only edge that leads to the node; a way with an edge leaves the root
  have hroot : ∀ {es : List Edge} {e : Edge}, t.walk? 0 (es ++ [e]) ≠ some 0 := by
    intro es e hwalk
    obtain ⟨k, -, hk⟩ := walk?_concat_eq_some.mp hwalk
    exact absurd (h.child hk).1 (Nat.not_lt_zero k)
  induction es using List.reverseRecOn generalizing fs j with
  | nil =>
    obtain rfl := Option.some.inj hes
    rcases List.eq_nil_or_concat fs with rfl | ⟨fs, f, rfl⟩
    · rfl
    · rw [List.concat_eq_append] at hfs
      exact absurd hfs hroot
  | append_singleton es e ih =>
    rcases List.eq_nil_or_concat fs with rfl | ⟨fs, f, rfl⟩
    · obtain rfl := Option.some.inj hfs
      exact absurd hes hroot
    · rw [List.concat_eq_append] at hfs ⊢
      obtain ⟨k, hk, hke⟩ := walk?_concat_eq_some.mp hes
      obtain ⟨k', hk', hkf⟩ := walk?_concat_eq_some.mp hfs
      obtain ⟨rfl, rfl⟩ := h.parent hke hkf
      rw [ih hk hk']

/-! ## Ways in a trie that has grown -/

theorem walk?_of_outgrown (h : Outgrown t.nodes t'.nodes) {i j : Nat} {es : List Edge}
    (hwalk : t.walk? i es = some j) : t'.walk? i es = some j := by
  induction es generalizing i with
  | nil => exact hwalk
  | cons e es ih =>
    obtain ⟨k, hk, hwalk⟩ := Option.bind_eq_some_iff.mp hwalk
    exact Option.bind_eq_some_iff.mpr ⟨k, h.kept hk, ih hwalk⟩

/-- A way to an old node was there before. -/
theorem walk?_of_outgrown_of_lt (h : Outgrown t.nodes t'.nodes) {i j : Nat}
    (hj : j < t.nodes.size) {es : List Edge} (hwalk : t'.walk? i es = some j) :
    t.walk? i es = some j := by
  induction es generalizing i with
  | nil => exact hwalk
  | cons e es ih =>
    obtain ⟨k, hk, hwalk⟩ := Option.bind_eq_some_iff.mp hwalk
    have hkj : k ≤ j := le_of_walk? h.tree hwalk
    rcases h.fresh hk with hk | hk
    · exact Option.bind_eq_some_iff.mpr ⟨k, hk, ih hwalk⟩
    · omega

/-! ## Rules that are taken in -/

/-- The trie in which the way of a rule is laid out, before the rule is taken in. -/
def laidOut (t : Trie α) (a : Address) : Trie α :=
  { t with nodes := (extend t.nodes 0 a.edges).1 }

theorem walk?_add (h : t.Ascending) (a : Address) (rule : α) (i : Nat) (es : List Edge) :
    (t.add a rule).walk? i es = (t.laidOut a).walk? i es :=
  walk?_congr (t.add a rule) (t.laidOut a) (child?_nodes_add h a rule) i es

theorem rule?_node_add (h : t.Ascending) (a : Address) (rule : α) (k : Nat) :
    ((t.add a rule).node k).rule? =
      if k = (extend t.nodes 0 a.edges).2 then some t.size else (t.node k).rule? := by
  rw [node, getD_nodes_add h]
  split
  · rfl
  · exact (outgrown_extend h.tree h.root a.edges).1.rule?_eq k

/-- **A rule that is taken in is at its address, and all others stay at theirs.** -/
theorem idAt?_add (h : t.Ascending) (a : Address) (rule : α) (b : Address) :
    (t.add a rule).idAt? b = if b = a then some t.size else t.idAt? b := by
  have hout : Outgrown t.nodes (t.laidOut a).nodes := (outgrown_extend h.tree h.root a.edges).1
  have hway : (t.laidOut a).walk? 0 a.edges = some (extend t.nodes 0 a.edges).2 :=
    walk?_extend t.options t.rules h.tree h.root a.edges
  rw [idAt?, walk?_add h]
  by_cases hb : b = a
  · rw [hb, hway, if_pos rfl, Option.bind_some, rule?_node_add h, if_pos rfl]
  · rw [if_neg hb, idAt?]
    cases hwalk : (t.laidOut a).walk? 0 b.edges with
    | none =>
      cases hold : t.walk? 0 b.edges with
      | none => rfl
      | some j =>
        rw [walk?_of_outgrown hout hold] at hwalk
        cases hwalk
    | some j =>
      have hj : j ≠ (extend t.nodes 0 a.edges).2 := by
        rintro rfl
        exact hb (Address.edges_injective (walk?_unique hout.tree hwalk hway))
      rw [Option.bind_some, rule?_node_add h, if_neg hj]
      by_cases hlt : j < t.nodes.size
      · rw [walk?_of_outgrown_of_lt hout hlt hwalk]
        rfl
      · -- a node that is new has no rule, and there was no way to it
        have hnode : t.node j = {} := node_eq_empty (Nat.not_lt.mp hlt)
        cases hold : t.walk? 0 b.edges with
        | none => rw [hnode]; rfl
        | some k =>
          obtain rfl := Option.some.inj ((walk?_of_outgrown hout hold).symm.trans hwalk)
          exact absurd (lt_of_walk? h.tree h.root hold) hlt

/-! ## Catalogues -/

/-- A trie holds the rules of a catalogue, each at its address. -/
structure Holds (t : Trie α) (cat : Catalogue α) : Prop where
  rules : t.rules.toList = cat.map Prod.snd
  idAt?_eq_some : ∀ {a : Address} {id : Nat},
    t.idAt? a = some id ↔ ∃ rule, cat[id]? = some (a, rule)

theorem Ascending.idAt?_lt (h : t.Ascending) {a : Address} {id : Nat}
    (hid : t.idAt? a = some id) : id < t.size := by
  obtain ⟨i, -, hrule⟩ := Option.bind_eq_some_iff.mp hid
  exact h.rule hrule

namespace Holds

variable {cat : Catalogue α}

theorem size_eq (h : t.Holds cat) : t.size = cat.length := by
  have hlen := congrArg List.length h.rules
  simpa [size] using hlen

/-- At an address there is only one rule. -/
theorem id_unique (h : t.Holds cat) {a : Address} {i j : Nat} {r r' : α}
    (hi : cat[i]? = some (a, r)) (hj : cat[j]? = some (a, r')) : i = j :=
  Option.some.inj ((h.idAt?_eq_some.mpr ⟨r, hi⟩).symm.trans (h.idAt?_eq_some.mpr ⟨r', hj⟩))

theorem get?_eq (h : t.Holds cat) (id : Nat) : t.get? id = (cat[id]?).map Prod.snd := by
  rw [get?, ← Array.getElem?_toList, h.rules, List.getElem?_map]

/-- An address has a rule if it has the number of one. -/
theorem isSome_at? (h : t.Holds cat) (a : Address) : (t.at? a).isSome = (t.idAt? a).isSome := by
  rw [at?]
  cases hid : t.idAt? a with
  | none => rfl
  | some id =>
    obtain ⟨rule, hentry⟩ := h.idAt?_eq_some.mp hid
    rw [Option.bind_some, h.get?_eq, hentry]
    rfl

/-- A rule is stored at an address under its number. -/
theorem getElem?_eq_some (h : t.Holds cat) {a : Address} {id : Nat} {rule : α} :
    cat[id]? = some (a, rule) ↔ t.idAt? a = some id ∧ t.get? id = some rule := by
  rw [h.idAt?_eq_some, h.get?_eq]
  constructor
  · intro hid
    exact ⟨⟨rule, hid⟩, by rw [hid]; rfl⟩
  · rintro ⟨⟨other, hid⟩, hrule⟩
    rw [hid] at hrule
    obtain rfl : other = rule := Option.some.inj hrule
    exact hid

/-- A trie is told by its nodes and by what is at the addresses. -/
theorem eq_of_at?_eq (h : t.Holds cat) {rules : Array α} (hsize : rules.size = t.size)
    (hat : ∀ a, (Trie.mk t.options t.nodes rules).at? a = t.at? a) :
    Trie.mk t.options t.nodes rules = t := by
  have hrules : rules = t.rules := by
    refine Array.ext_getElem? fun id => ?_
    by_cases hid : id < t.size
    · -- every rule has an address, which leads to its number in both
      obtain ⟨⟨a, rule⟩, hentry⟩ : ∃ e, cat[id]? = some e :=
        ⟨_, List.getElem?_eq_getElem (h.size_eq ▸ hid)⟩
      have hnumber : t.idAt? a = some id := h.idAt?_eq_some.mpr ⟨rule, hentry⟩
      have ha := hat a
      rw [at?, idAt?_mk, hnumber, at?, hnumber] at ha
      exact ha
    · have hend : t.rules.size ≤ id := Nat.not_lt.mp hid
      rw [Array.getElem?_eq_none hend, Array.getElem?_eq_none (hsize ▸ hend)]
  rw [hrules]

theorem empty (options : MatchOptions) : (Trie.empty options : Trie α).Holds [] where
  rules := rfl
  idAt?_eq_some := by
    intro a id
    constructor
    · intro hid
      exact absurd ((ascending_empty options).idAt?_lt hid) (Nat.not_lt_zero id)
    · rintro ⟨rule, hid⟩
      simp at hid

/-- Another rule at an address where there is one. -/
theorem replace (h : t.Holds cat) {a : Address} {id : Nat} (hid : t.idAt? a = some id) (rule : α) :
    ({ t with rules := t.rules.setIfInBounds id rule } : Trie α).Holds (cat.store a rule) := by
  obtain ⟨other, hother⟩ := h.idAt?_eq_some.mp hid
  rw [Catalogue.store_eq_set hother fun hj => h.id_unique hj hother]
  refine ⟨?_, fun {b j} => ?_⟩
  · rw [Array.toList_setIfInBounds, h.rules, List.map_set]
  · rw [idAt?_mk, h.idAt?_eq_some, List.getElem?_set]
    by_cases hj : id = j
    · subst hj
      obtain ⟨hlt, -⟩ := List.getElem?_eq_some_iff.mp hother
      rw [if_pos rfl, if_pos hlt, hother]
      simp
    · rw [if_neg hj]

/-- A rule at an address where there was none. -/
theorem add (h : t.Holds cat) (hasc : t.Ascending) {a : Address} (hfree : t.idAt? a = none)
    (rule : α) : (t.add a rule).Holds (cat.store a rule) := by
  have hnone : ∀ e ∈ cat, e.1 ≠ a := by
    rintro ⟨b, r⟩ he rfl
    obtain ⟨id, hid⟩ := List.getElem?_of_mem he
    rw [h.idAt?_eq_some.mpr ⟨r, hid⟩] at hfree
    cases hfree
  rw [Catalogue.store_eq_append hnone]
  refine ⟨?_, fun {b id} => ?_⟩
  · simp [Trie.add, h.rules]
  · rw [idAt?_add hasc, h.size_eq]
    by_cases hid : id < cat.length
    · rw [List.getElem?_append_left hid, ← h.idAt?_eq_some]
      by_cases hb : b = a
      · have hne : cat.length ≠ id := by omega
        rw [if_pos hb, hb, hfree]
        simp [hne]
      · rw [if_neg hb]
    · have hold : t.idAt? b ≠ some id := by
        intro hb
        exact hid (h.size_eq ▸ hasc.idAt?_lt hb)
      rw [List.getElem?_append_right (Nat.not_lt.mp hid)]
      by_cases hb : b = a
      · rw [if_pos hb, hb, List.getElem?_singleton]
        by_cases hlast : id = cat.length
        · simp [hlast]
        · have hpos : id - cat.length ≠ 0 := by omega
          simp [Ne.symm hlast, hpos]
      · rw [if_neg hb, List.getElem?_singleton]
        simp [hold, Ne.symm hb]

end Holds

/-- **A trie holds what was stored in it.** -/
theorem Grown.holds {options : MatchOptions} {t : Trie α} {cat : Catalogue α}
    (h : Grown options t cat) : t.Holds cat := by
  induction h with
  | empty => exact .empty options
  | insert grown stored ih =>
    obtain ⟨-, ⟨id, hid, -, -, rfl⟩ | ⟨hfree, -, rfl⟩⟩ := insert_cases stored
    · exact ih.replace hid _
    · exact ih.add grown.ascending hfree _

end Trie

end Colloquy
