import Colloquy.Proofs.Trie.Ledger
import Colloquy.Proofs.Trie.Preference

/-!
# Tries with the same rules

Rules that are brought in another order, or in the place of others, make a trie with other numbers
for its nodes and its rules. As long as two tries have the same rule at every address, no query
tells them apart, and no rule that is brought to both makes them differ.

* `Catalogue.Derivation.transfer` — a derivation needs no more than the rules at the addresses.
* `Trie.Same` — two tries with the same rule at every address.
* `Same.size_eq`, `Same.find?_eq` — they have as many rules, and what they find is the same.
* `Same.take` — they stay the same when a rule is brought to both.
-/

namespace Colloquy

variable {α : Type}

/-! ## Requests to ledgers with the same rules -/

/-- Whether a rule was taken in as a new one. -/
def Placement.isFresh : Placement → Bool
  | .fresh _ => true
  | .replacing _ => false

namespace Ledger

variable {l l' : Ledger α}

theorem mem_order_iff_of_rule?_eq (h : ∀ a, l.rule? a = l'.rule? a) (a : Address) :
    a ∈ l.order ↔ a ∈ l'.order := by
  rw [l.mem_order, l'.mem_order, h]

/-- The answers to a request differ in no more than a number. -/
theorem isFresh_take_eq (h : ∀ a, l.rule? a = l'.rule? a) (pairs : Bool) (r : Request α) :
    (l.take pairs r).1.map Placement.isFresh = (l'.take pairs r).1.map Placement.isFresh := by
  have hmem := mem_order_iff_of_rule?_eq h r.address
  unfold take
  split
  · rfl
  · by_cases ha : r.address ∈ l.order
    · rw [if_pos ha, if_pos (hmem.mp ha)]
      split <;> rfl
    · rw [if_neg ha, if_neg (mt hmem.mpr ha)]
      rfl

/-- As many addresses have a rule. -/
theorem length_order_eq (h : ∀ a, l.rule? a = l'.rule? a) : l.order.length = l'.order.length :=
  ((List.perm_ext_iff_of_nodup l.nodup l'.nodup).mpr (mem_order_iff_of_rule?_eq h)).length_eq

end Ledger

/-! ## Derivations in another catalogue -/

namespace Catalogue.Derivation

variable {cat cat' : Catalogue α} {q : Query} {name : List Word}

/-- The address whose rule a derivation lays out. -/
def address (d : cat.Derivation q name) : Address :=
  ⟨d.parts.pattern.map Part.slot, d.parts.context.map Part.slot, d.parts.topic.map Part.slot⟩

/-- The same derivation from a catalogue that has the same rule at its address. -/
def transfer (d : cat.Derivation q name) {id : Nat} (h : cat'[id]? = some (d.address, d.rule)) :
    cat'.Derivation q name :=
  ⟨d.parts, id, d.rule, d.covers, d.whole, h⟩

end Catalogue.Derivation

namespace Trie

variable {t t' : Trie α} {cat : Catalogue α} {options : MatchOptions} {q : Query}
  {name : List Word}

/-- What is at an address is what is stored there under some number. -/
theorem Holds.at?_eq_some (h : t.Holds cat) {a : Address} {rule : α} :
    t.at? a = some rule ↔ ∃ id : Nat, cat[id]? = some (a, rule) := by
  rw [at?, Option.bind_eq_some_iff]
  exact exists_congr fun id => h.getElem?_eq_some.symm

/-- The rule with a number is stored at one address only. -/
theorem Holds.idAt?_iff_eq (h : t.Holds cat) {a : Address} {id : Nat} {rule : α}
    (hstored : cat[id]? = some (a, rule)) {b : Address} : t.idAt? b = some id ↔ b = a := by
  rw [h.idAt?_eq_some, hstored]
  constructor
  · rintro ⟨rule', hentry⟩
    exact (Prod.mk.inj (Option.some.inj hentry)).1.symm
  · rintro rfl
    exact ⟨rule, rfl⟩

/-! ## Tries with the same rules -/

/-- Two tries that were made by storing rules, and that have the same rule at every address. -/
structure Same (options : MatchOptions) (t t' : Trie α) : Prop where
  keeps : ∃ l, Keeps options t l
  keeps' : ∃ l, Keeps options t' l
  at?_eq : ∀ a, t.at? a = t'.at? a

namespace Same

theorem symm (h : Same options t t') : Same options t' t :=
  ⟨h.keeps', h.keeps, fun a => (h.at?_eq a).symm⟩

/-- The ledgers that two tries keep have the same rules. -/
theorem rule?_eq (h : Same options t t') {l l' : Ledger α} (hl : Keeps options t l)
    (hl' : Keeps options t' l') (a : Address) : l.rule? a = l'.rule? a := by
  rw [← hl.agrees.at?_eq, ← hl'.agrees.at?_eq, h.at?_eq]

/-- They have as many rules. -/
theorem size_eq (h : Same options t t') : t.size = t'.size := by
  obtain ⟨l, hl⟩ := h.keeps
  obtain ⟨l', hl'⟩ := h.keeps'
  rw [hl.agrees.size_eq, hl'.agrees.size_eq, Ledger.length_order_eq (h.rule?_eq hl hl')]

/-- **A request to both.** The answers differ in no more than a number, and the tries stay the
same. -/
theorem take (h : Same options t t') (r : Request α) :
    (t.take r).1.map Placement.isFresh = (t'.take r).1.map Placement.isFresh ∧
      Same options (t.take r).2 (t'.take r).2 := by
  obtain ⟨l, hl⟩ := h.keeps
  obtain ⟨l', hl'⟩ := h.keeps'
  obtain ⟨hanswer, hkeeps⟩ := hl.take r
  obtain ⟨hanswer', hkeeps'⟩ := hl'.take r
  have hrules := h.rule?_eq hl hl'
  refine ⟨?_, ⟨_, hkeeps⟩, ⟨_, hkeeps'⟩, fun a => ?_⟩
  · rw [hanswer, hanswer', Ledger.isFresh_take_eq hrules]
  · rw [hkeeps.agrees.at?_eq, hkeeps'.agrees.at?_eq, Ledger.rule?_take, Ledger.rule?_take, hrules]

/-! ## What is found -/

/-- A derivation of a rule of one trie is one of a rule of the other. -/
theorem exists_derivation (h : Same options t t') {cat cat' : Catalogue α} (hc : t.Holds cat)
    (hc' : t'.Holds cat') (d : cat.Derivation q name) :
    ∃ d' : cat'.Derivation q name,
      d'.steps = d.steps ∧ d'.rule = d.rule ∧ d'.bindings = d.bindings := by
  have hat : t.at? d.address = some d.rule := hc.at?_eq_some.mpr ⟨d.id, d.stored⟩
  rw [h.at?_eq] at hat
  obtain ⟨id, hid⟩ := hc'.at?_eq_some.mp hat
  exact ⟨d.transfer hid, rfl, rfl, rfl⟩

/-- What is found in one trie is found in the other, perhaps under another number. -/
theorem exists_find?_eq_some (h : Same options t t') {m : Match α}
    (hm : t.find? q name = some m) :
    ∃ m', t'.find? q name = some m' ∧ m'.rule = m.rule ∧ m'.bindings = m.bindings := by
  obtain ⟨_, cat, hgrown, -⟩ := h.keeps
  obtain ⟨_, cat', hgrown', -⟩ := h.keeps'
  obtain ⟨d, rfl, hd⟩ := exists_first_of_find? hgrown.ascending hgrown.holds hm
  obtain ⟨d', hsteps', hrule, hbindings⟩ := h.exists_derivation hgrown.holds hgrown'.holds d
  have hfirst : ∀ e', e' ≠ d' → d'.Precedes t'.options.appetite e' := by
    intro e' he'
    obtain ⟨e, hsteps, -, -⟩ := h.symm.exists_derivation hgrown'.holds hgrown.holds e'
    have hne : e ≠ d := by
      rintro rfl
      exact he' (eq_of_steps_eq hgrown'.holds (hsteps.symm.trans hsteps'.symm))
    have hbefore := hd e hne
    rw [hgrown.options_eq] at hbefore
    rw [hgrown'.options_eq]
    rwa [Catalogue.Derivation.Precedes, ← hsteps', hsteps] at hbefore
  exact ⟨_, find?_eq_result hgrown'.ascending hgrown'.holds hfirst, hrule, hbindings⟩

/-- **What is found is the same,** up to the number of the rule. -/
theorem find?_eq (h : Same options t t') (q : Query) (name : List Word) :
    (t.find? q name).map (fun m => (m.rule, m.bindings)) =
      (t'.find? q name).map fun m => (m.rule, m.bindings) := by
  cases hm : t.find? q name with
  | some m =>
    obtain ⟨m', hm', hrule, hbindings⟩ := h.exists_find?_eq_some hm
    rw [hm', Option.map_some, Option.map_some, hrule, hbindings]
  | none =>
    cases hm' : t'.find? q name with
    | none => rfl
    | some m' =>
      obtain ⟨m, hm'', -⟩ := h.symm.exists_find?_eq_some hm'
      rw [hm] at hm''
      cases hm''

end Same

end Trie

end Colloquy
