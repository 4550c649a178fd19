import Colloquy.Proofs.Trie.Sameness

/-!
# One more rule

A rule that is stored may share nodes with others and open ways that a search goes before theirs.
All the same it can only win a query for itself: the derivations of other rules, and which of them
is preferred to which, do not depend on it.

* `Catalogue.getElem?_store_of_ne` — what is stored at other addresses, and under which numbers.
* `Trie.find?_eq_new_or_eq` — what is found is the new rule, or what was found before.
-/

namespace Colloquy

variable {α : Type}

namespace Catalogue

/-! ## What is stored where -/

variable {cat : Catalogue α} {a b : Address} {rule r : α} {i : Nat}

/-- Rules at other addresses keep their numbers. -/
theorem getElem?_store_of_ne (h : b ≠ a) :
    (cat.store a rule)[i]? = some (b, r) ↔ cat[i]? = some (b, r) := by
  induction cat generalizing i with
  | nil => cases i <;> simp [store, Ne.symm h]
  | cons e cat ih =>
    obtain ⟨c, other⟩ := e
    by_cases hc : c = a
    · cases i <;> simp [store, hc, Ne.symm h]
    · cases i with
      | zero => simp [store, hc]
      | succ i => simpa [store, hc] using ih

/-- The rule that is stored is at its address. -/
theorem mem_store (cat : Catalogue α) (a : Address) (rule : α) : (a, rule) ∈ cat.store a rule := by
  induction cat with
  | nil => exact List.mem_singleton_self _
  | cons e cat ih =>
    rw [store]
    split
    · exact List.mem_cons_self
    · exact List.mem_cons_of_mem _ ih

/-- A derivation of a rule that was stored before is one of a rule that is stored now, step for
step; only the rule itself may be another. -/
theorem Derivation.exists_store {q : Query} {name : List Word} (d : cat.Derivation q name)
    (a : Address) (rule : α) :
    ∃ d' : (cat.store a rule).Derivation q name, d'.steps = d.steps := by
  obtain ⟨r, hr⟩ := exists_getElem?_store d.stored a rule
  exact ⟨⟨d.parts, d.id, r, d.covers, d.whole, hr⟩, rfl⟩

end Catalogue

namespace Trie

variable {t t' : Trie α} {cat : Catalogue α} {q : Query} {name : List Word}

/-! ## What is found -/

/-- A rule that is stored is answered with the number that its address has afterwards. -/
theorem idAt?_of_insert (h : t.Ascending) {a : Address} {rule : α} {policy : Policy}
    {p : Placement} (stored : t.insert a rule policy = .ok (p, t')) :
    t'.idAt? a = some p.id := by
  obtain ⟨-, ⟨id, hid, -, rfl, rfl⟩ | ⟨-, rfl, rfl⟩⟩ := insert_cases stored
  · rw [idAt?_mk, hid]
    rfl
  · rw [idAt?_add h, if_pos rfl]
    rfl

/-- A derivation of the new rule has its number and its template. -/
theorem eq_of_derivation_of_new {options : MatchOptions} (h : Grown options t cat) {a : Address}
    {rule : α} {policy : Policy} {p : Placement} (stored : t.insert a rule policy = .ok (p, t'))
    {d : (cat.store a rule).Derivation q name} (hd : d.address = a) :
    d.id = p.id ∧ d.rule = rule := by
  have hholds : t'.Holds (cat.store a rule) := (h.insert stored).holds
  have hentry : (cat.store a rule)[d.id]? = some (d.address, d.rule) := d.stored
  rw [hd] at hentry
  obtain ⟨i, hi⟩ := List.getElem?_of_mem (Catalogue.mem_store cat a rule)
  obtain rfl : i = d.id := hholds.id_unique hi hentry
  have hid : t'.idAt? a = some d.id := (hholds.getElem?_eq_some.mp hi).1
  rw [idAt?_of_insert h.ascending stored] at hid
  exact ⟨(Option.some.inj hid).symm,
    (Prod.mk.inj (Option.some.inj (hi.symm.trans hentry))).2.symm⟩

/-- If the derivation that is preferred to all others is not of the new rule, then it was preferred
to all others before. -/
theorem find?_eq_of_first_of_ne {options : MatchOptions} (h : Grown options t cat) {a : Address}
    {rule : α} {d : (cat.store a rule).Derivation q name} (ha : d.address ≠ a)
    (hd : ∀ e, e ≠ d → d.Precedes options.appetite e) : t.find? q name = some d.result := by
  let before : cat.Derivation q name :=
    d.transfer ((Catalogue.getElem?_store_of_ne ha).mp d.stored)
  refine find?_eq_result h.ascending h.holds (d := before) fun e he => ?_
  obtain ⟨e', hsteps⟩ := e.exists_store a rule
  have hne : e' ≠ d := by
    rintro rfl
    exact he (eq_of_steps_eq h.holds hsteps.symm)
  have hbefore := hd e' hne
  rw [h.options_eq]
  rwa [Catalogue.Derivation.Precedes, hsteps] at hbefore

/-- What is found once a rule was stored: it, or what was found before. -/
theorem exists_new_or_find?_eq {options : MatchOptions} (h : Grown options t cat) {a : Address}
    {rule : α} {policy : Policy} {p : Placement} (stored : t.insert a rule policy = .ok (p, t'))
    (q : Query) (name : List Word) :
    (∃ d : (cat.store a rule).Derivation q name, d.address = a ∧ d.id = p.id ∧ d.rule = rule ∧
        t'.find? q name = some d.result) ∨
      t'.find? q name = t.find? q name := by
  have hgrown : Grown options t' (cat.store a rule) := h.insert stored
  cases hm' : t'.find? q name with
  | some m' =>
    obtain ⟨d, rfl, hd⟩ := exists_first_of_find? hgrown.ascending hgrown.holds hm'
    rw [hgrown.options_eq] at hd
    by_cases ha : d.address = a
    · obtain ⟨hid, hrule⟩ := eq_of_derivation_of_new h stored ha
      exact .inl ⟨d, ha, hid, hrule, rfl⟩
    · exact .inr (find?_eq_of_first_of_ne h ha hd).symm
  | none =>
    refine .inr ?_
    cases hm : t.find? q name with
    | none => rfl
    | some m =>
      obtain ⟨d, -, -⟩ := exists_first_of_find? h.ascending h.holds hm
      obtain ⟨d', -⟩ := d.exists_store a rule
      exact absurd ⟨d'⟩ (not_nonempty_of_find? hgrown.ascending hgrown.holds hm')

/-- **One more rule can only win for itself.** When a rule is stored in a trie, whether as a new one
or in the place of another, then for every query and every name of the bot the match that is found
is one that a derivation of this very rule shows, or it is the match that was found before. So
where a rule was found some rule still is, and no third rule comes to be found. -/
theorem find?_eq_new_or_eq {options : MatchOptions} (h : Grown options t cat) {a : Address}
    {rule : α} {policy : Policy} {p : Placement} (stored : t.insert a rule policy = .ok (p, t'))
    (q : Query) (name : List Word) :
    ((∃ d : (cat.store a rule).Derivation q name, d.address = a ∧ d.id = p.id ∧ d.rule = rule ∧
        t'.find? q name = some d.result) ∨
      t'.find? q name = t.find? q name) ∧
    ((t.find? q name).isSome → (t'.find? q name).isSome) ∧
    ∀ m, t'.find? q name = some m → m.id ≠ p.id → t.find? q name = some m := by
  have hcases := exists_new_or_find?_eq h stored q name
  refine ⟨hcases, fun hsome => ?_, fun m hm hne => ?_⟩
  · obtain ⟨d, -, -, -, hfind⟩ | heq := hcases
    · rw [hfind]
      rfl
    · rwa [heq]
  · obtain ⟨d, -, hid, -, hfind⟩ | heq := hcases
    · obtain rfl : d.result = m := Option.some.inj (hfind.symm.trans hm)
      exact absurd hid hne
    · rw [← heq, hm]

/-- Some words, and then the word `B`. -/
def endsInB : Address :=
  ⟨[.oneOrMore, .word ['B']], .anything, .anything⟩

/-- The word `A`, any words, and then the word `C`. -/
def fromAToC : Address :=
  ⟨[.word ['A'], .zeroOrMore, .word ['C']], .anything, .anything⟩

/-- A rule for what ends in `B`. -/
def onB : Trie Nat := (empty {}).add endsInB 7

/-- A query for some words, with no context and no topic. -/
def queryOf (ws : List String) : Query :=
  .ofWords (ws.map fun w => .ofText w.toList) [] []

/-- The way that a new rule opens over the word `A` is tried first for `a b` and given up; for `a c`
it leads to the new rule. -/
theorem find?_fromAToC :
    Grown {} onB [(endsInB, 7)] ∧
      onB.insert fromAToC 8 .reject = .ok (.fresh 1, onB.add fromAToC 8) ∧
      (onB.add fromAToC 8).find? (queryOf ["a", "b"]) [] =
        some ⟨0, 7, ⟨[⟨0, 1⟩], [⟨0, 1⟩], [⟨0, 1⟩]⟩⟩ ∧
      onB.find? (queryOf ["a", "b"]) [] = some ⟨0, 7, ⟨[⟨0, 1⟩], [⟨0, 1⟩], [⟨0, 1⟩]⟩⟩ ∧
      ∃ d : (Catalogue.store fromAToC 8 [(endsInB, 7)]).Derivation (queryOf ["a", "c"]) [],
        d.address = fromAToC ∧ (onB.add fromAToC 8).find? (queryOf ["a", "c"]) [] =
          some d.result := by
  have hgrown : Grown {} onB [(endsInB, 7)] := Grown.empty.add 7 rfl rfl
  have hstored : onB.insert fromAToC 8 .reject = .ok (.fresh 1, onB.add fromAToC 8) := rfl
  have hold : (onB.add fromAToC 8).find? (queryOf ["a", "b"]) [] =
      some ⟨0, 7, ⟨[⟨0, 1⟩], [⟨0, 1⟩], [⟨0, 1⟩]⟩⟩ := rfl
  have hnone : onB.find? (queryOf ["a", "c"]) [] = none := rfl
  have hsome : ((onB.add fromAToC 8).find? (queryOf ["a", "c"]) []).isSome := rfl
  refine ⟨hgrown, hstored, hold, ?_, ?_⟩
  · exact (find?_eq_new_or_eq hgrown hstored _ []).2.2 _ hold (by decide)
  · obtain ⟨d, ha, -, -, hfind⟩ | heq := (find?_eq_new_or_eq hgrown hstored (queryOf ["a", "c"]) []).1
    · exact ⟨d, ha, hfind⟩
    · rw [heq, hnone] at hsome
      cases hsome

end Trie

end Colloquy
