import Colloquy.Proofs.Machine
import Colloquy.Proofs.Trie.Storage
import Mathlib.Data.List.Basic

/-!
# A trie is a finite map

What a trie answers when rules are brought to it, and what it holds afterwards, is told here by a
finite map from addresses to rules that knows nothing of nodes. The two are run side by side, over
any rules at any addresses.

* `Ledger` — a finite map, with its addresses in the order in which they were first written.
* `Request.settle`, `Ledger.rule?_run` — what stands under an address, told for this address alone.
* `Trie.take`, `Ledger.take` — what is answered to a request, and what is held afterwards.
* `Trie.Agrees` — a trie can be asked for exactly what a ledger has.
* `Trie.run_take_agrees` — a trie to which rules are brought is a finite map.
-/

namespace Colloquy

variable {α : Type}

/-! ## What a catalogue has at an address -/

namespace Catalogue

theorem map_fst_store (cat : Catalogue α) (a : Address) (rule : α) :
    (cat.store a rule).map Prod.fst =
      if a ∈ cat.map Prod.fst then cat.map Prod.fst else cat.map Prod.fst ++ [a] := by
  induction cat with
  | nil => rfl
  | cons e cat ih => grind [store]

/-- An address keeps its number, also when its rule is replaced. -/
theorem exists_getElem?_store {cat : Catalogue α} {i : Nat} {b : Address} {r : α}
    (h : cat[i]? = some (b, r)) (a : Address) (rule : α) :
    ∃ r', (cat.store a rule)[i]? = some (b, r') := by
  have hkeys : (cat.map Prod.fst)[i]? = some b := by rw [List.getElem?_map, h]; rfl
  have hlt : i < (cat.map Prod.fst).length := (List.getElem?_eq_some_iff.mp hkeys).1
  have hstored : ((cat.store a rule).map Prod.fst)[i]? = some b := by
    rw [map_fst_store]
    split
    · exact hkeys
    · rw [List.getElem?_append_left hlt, hkeys]
  rw [List.getElem?_map] at hstored
  obtain ⟨⟨_, r'⟩, hentry, rfl⟩ := Option.map_eq_some_iff.mp hstored
  exact ⟨r', hentry⟩

theorem lookup_store (cat : Catalogue α) (a : Address) (rule : α) (b : Address) :
    (cat.store a rule).lookup b = if b = a then some rule else cat.lookup b := by
  induction cat with
  | nil => by_cases hb : b = a <;> simp [store, hb]
  | cons e cat ih => grind [store]

theorem lookup_of_getElem? {cat : Catalogue α} (hnodup : (cat.map Prod.fst).Nodup) {id : Nat}
    {a : Address} {rule : α} (h : cat[id]? = some (a, rule)) : cat.lookup a = some rule := by
  induction cat generalizing id with
  | nil => simp at h
  | cons e cat ih =>
    obtain ⟨hne, hnodup⟩ := List.nodup_cons.mp hnodup
    cases id with
    | zero =>
      obtain rfl := Option.some.inj h
      exact List.lookup_cons_self
    | succ id =>
      have hentry : (a, rule) ∈ cat := List.mem_of_getElem? (i := id) h
      have hae : a ≠ e.1 := by
        rintro rfl
        exact hne (List.mem_map.mpr ⟨_, hentry, rfl⟩)
      rw [List.lookup_cons, beq_false_of_ne hae]
      exact ih hnodup h

end Catalogue

/-! ## Ledgers -/

/-- A rule that is brought to be stored at an address, and what is to happen if there is one. -/
structure Request (α : Type) where
  address : Address
  rule : α
  policy : Policy

/-- What stands under an address after a request, if `held?` stood there before. -/
def Request.settle (pairs : Bool) (a : Address) (held? : Option α) (r : Request α) : Option α :=
  if r.address = a ∧ (a.check pairs).isOk then
    match r.policy with
    | .overwrite => some r.rule
    | .reject => held?.or (some r.rule)
  else held?

/-- Requests at different addresses may change places. -/
theorem Request.settle_comm {r r' : Request α} (h : r.address ≠ r'.address) (pairs : Bool)
    (a : Address) (held? : Option α) :
    r'.settle pairs a (r.settle pairs a held?) = r.settle pairs a (r'.settle pairs a held?) := by
  by_cases ha : r.address = a
  · have ha' : ¬ (r'.address = a ∧ (a.check pairs).isOk) := fun hr => h (ha.trans hr.1.symm)
    simp only [settle, if_neg ha']
  · have ha : ¬ (r.address = a ∧ (a.check pairs).isOk) := fun hr => ha hr.1
    simp only [settle, if_neg ha]

/-- A rule that is replaced leaves nothing behind. -/
theorem Request.settle_settle {r r' : Request α} (h : r.address = r'.address)
    (hpolicy : r'.policy = .overwrite) (pairs : Bool) (a : Address) (held? : Option α) :
    r'.settle pairs a (r.settle pairs a held?) = r'.settle pairs a held? := by
  simp only [settle, h, hpolicy]
  split <;> rfl

/-- A finite map from addresses to rules, and the addresses that have a rule, in the order in which
they got their first one. -/
structure Ledger (α : Type) where
  rule? : Address → Option α
  order : List Address
  nodup : order.Nodup
  mem_order : ∀ a, a ∈ order ↔ (rule? a).isSome

namespace Ledger

/-- No rules. -/
def empty : Ledger α := ⟨fun _ => none, [], .nil, by simp⟩

/-- Write a rule under an address, in the place of one that stands there. -/
def write (l : Ledger α) (a : Address) (rule : α) : Ledger α where
  rule? b := if b = a then some rule else l.rule? b
  order := if a ∈ l.order then l.order else l.order ++ [a]
  nodup := by
    split
    · exact l.nodup
    · rename_i ha
      exact List.nodup_append.mpr ⟨l.nodup, by simp, by grind⟩
  mem_order := by
    intro b
    have hb := l.mem_order b
    by_cases hba : b = a <;> grind

/-- What is answered to a request, and the map afterwards. An address that breaks a rule is refused,
and so is another rule at an address where rules are not to be replaced; the map stays as it was.
All other rules are written, and an address is numbered when it is written for the first time. -/
def take (pairs : Bool) (l : Ledger α) (r : Request α) :
    Except AddressError Placement × Ledger α :=
  match r.address.check pairs with
  | .error e => (.error e, l)
  | .ok () =>
    if r.address ∈ l.order then
      match r.policy with
      | .overwrite => (.ok (.replacing (l.order.idxOf r.address)), l.write r.address r.rule)
      | .reject => (.error (.occupied r.address), l)
    else (.ok (.fresh l.order.length), l.write r.address r.rule)

/-- All that can become of a request: it is refused, it is written under an address that has a
number, or it is written under a new address, which gets the next number. -/
theorem take_cases (pairs : Bool) (l : Ledger α) (r : Request α) :
    (∃ e, l.take pairs r = (.error e, l)) ∨
      (r.address ∈ l.order ∧ l.take pairs r =
        (.ok (.replacing (l.order.idxOf r.address)), l.write r.address r.rule)) ∨
      (r.address ∉ l.order ∧ l.take pairs r =
        (.ok (.fresh l.order.length), l.write r.address r.rule)) := by
  unfold take
  split
  · exact .inl ⟨_, rfl⟩
  · split
    · rename_i hmem
      split
      · exact .inr (.inl ⟨hmem, rfl⟩)
      · exact .inl ⟨_, rfl⟩
    · rename_i hnew
      exact .inr (.inr ⟨hnew, rfl⟩)

/-! ## Rules under their addresses -/

/-- What stands under an address after a request depends on what stood there, and on nothing that
stands elsewhere. -/
theorem rule?_take (pairs : Bool) (l : Ledger α) (r : Request α) (a : Address) :
    (l.take pairs r).2.rule? a = r.settle pairs a (l.rule? a) := by
  by_cases ha : a = r.address
  · subst ha
    have hwrite : (l.write r.address r.rule).rule? r.address = some r.rule := if_pos rfl
    have hmem := l.mem_order r.address
    unfold take Request.settle
    split
    · rename_i hcheck
      simp [hcheck, Except.isOk, Except.toBool]
    · rename_i hcheck
      have hok : (r.address.check pairs).isOk = true := by rw [hcheck]; rfl
      cases hold : l.rule? r.address with
      | some other =>
        rw [if_pos (by rw [hmem, hold]; rfl), if_pos ⟨rfl, hok⟩]
        cases r.policy with
        | overwrite => exact hwrite
        | reject => exact hold
      | none =>
        rw [if_neg (by rw [hmem, hold]; simp), if_pos ⟨rfl, hok⟩]
        cases r.policy <;> exact hwrite
  · have hwrite : (l.write r.address r.rule).rule? a = l.rule? a := if_neg ha
    rw [Request.settle, if_neg fun h => ha h.1.symm]
    obtain ⟨e, htake⟩ | ⟨-, htake⟩ | ⟨-, htake⟩ := l.take_cases pairs r
    · rw [htake]
    · rw [htake, hwrite]
    · rw [htake, hwrite]

/-- What stands under an address in the end is settled by one request after the other. -/
theorem rule?_run (pairs : Bool) (l : Ledger α) (rs : List (Request α)) (a : Address) :
    (Machine.run (take pairs) l rs).2.rule? a = rs.foldl (Request.settle pairs a) (l.rule? a) := by
  induction rs generalizing l with
  | nil => rfl
  | cons r rs ih => rw [Machine.run_cons, ih, rule?_take, List.foldl_cons]

/-- Only the rule at the address of a request can change. -/
theorem rule?_take_of_ne (pairs : Bool) (l : Ledger α) (r : Request α) {a : Address}
    (h : a ≠ r.address) : (l.take pairs r).2.rule? a = l.rule? a := by
  rw [rule?_take, Request.settle, if_neg fun hr => h hr.1.symm]

/-! ## The numbers of addresses -/

section

variable {l : Ledger α} {a : Address}

theorem order_write_of_mem (h : a ∈ l.order) (rule : α) : (l.write a rule).order = l.order :=
  if_pos h

theorem order_write_of_not_mem (h : a ∉ l.order) (rule : α) :
    (l.write a rule).order = l.order ++ [a] :=
  if_neg h

end

/-- The number that is given to a rule at a new address. -/
def freshNumber? : Except AddressError Placement → Option Nat
  | .ok (.fresh id) => some id
  | _ => none

/-- The numbers are given one after the other. -/
theorem range_append_freshNumbers (pairs : Bool) (l : Ledger α) (rs : List (Request α)) :
    List.range l.order.length ++ (Machine.run (take pairs) l rs).1.filterMap freshNumber? =
      List.range (Machine.run (take pairs) l rs).2.order.length := by
  induction rs generalizing l with
  | nil => simp
  | cons r rs ih =>
    rw [Machine.run_cons, ← ih, List.filterMap_cons]
    obtain ⟨e, htake⟩ | ⟨hmem, htake⟩ | ⟨hnew, htake⟩ := l.take_cases pairs r
    · simp only [htake, freshNumber?]
    · simp only [htake, freshNumber?, order_write_of_mem hmem]
    · simp only [htake, freshNumber?, order_write_of_not_mem hnew, List.length_append,
        List.length_singleton, List.range_succ, List.append_assoc, List.singleton_append]

/-- Addresses keep their numbers. -/
theorem order_prefix_run (pairs : Bool) (l : Ledger α) (rs : List (Request α)) :
    l.order <+: (Machine.run (take pairs) l rs).2.order := by
  refine Machine.run_invariant (P := fun l' : Ledger α => l.order <+: l'.order) (fun {l'} r h => ?_)
    (List.prefix_refl _) rs
  obtain ⟨e, htake⟩ | ⟨hmem, htake⟩ | ⟨hnew, htake⟩ := l'.take_cases pairs r
  · rwa [htake]
  · rwa [htake, order_write_of_mem hmem]
  · rw [htake, order_write_of_not_mem hnew]
    exact h.trans (List.prefix_append _ _)

/-- A rule that is written has the number of its address. -/
theorem getElem?_order_take {pairs : Bool} {l : Ledger α} {r : Request α} {p : Placement}
    (h : (l.take pairs r).1 = .ok p) : (l.take pairs r).2.order[p.id]? = some r.address := by
  obtain ⟨e, htake⟩ | ⟨hmem, htake⟩ | ⟨hnew, htake⟩ := l.take_cases pairs r
  · rw [htake] at h
    cases h
  · rw [htake] at h ⊢
    cases h
    rw [order_write_of_mem hmem]
    exact List.getElem?_idxOf hmem
  · rw [htake] at h ⊢
    cases h
    rw [order_write_of_not_mem hnew]
    exact List.getElem?_concat_length

/-- What is answered is the number of the address, for the first rule there and for all others. -/
theorem forall₂_run (pairs : Bool) (l : Ledger α) (rs : List (Request α)) :
    List.Forall₂ (fun r answer => ∀ p, answer = .ok p →
      (Machine.run (take pairs) l rs).2.order[p.id]? = some r.address)
      rs (Machine.run (take pairs) l rs).1 := by
  induction rs generalizing l with
  | nil => exact .nil
  | cons r rs ih =>
    refine .cons (fun p hp => ?_) (ih _)
    obtain ⟨later, hlater⟩ := order_prefix_run pairs (l.take pairs r).2 rs
    have hnumber := getElem?_order_take hp
    obtain ⟨hlt, -⟩ := List.getElem?_eq_some_iff.mp hnumber
    rw [Machine.run_cons, ← hlater, List.getElem?_append_left hlt, hnumber]

/-! ## Ledgers and catalogues -/

/-- A ledger has the rules of a catalogue, in its order. -/
structure Lists (l : Ledger α) (cat : Catalogue α) : Prop where
  order_eq : l.order = cat.map Prod.fst
  rule?_eq : ∀ a, l.rule? a = cat.lookup a

namespace Lists

variable {l : Ledger α} {cat : Catalogue α}

theorem empty : (empty : Ledger α).Lists [] := ⟨rfl, fun _ => rfl⟩

theorem write (h : l.Lists cat) (a : Address) (rule : α) :
    (l.write a rule).Lists (cat.store a rule) where
  order_eq := by rw [Catalogue.map_fst_store, ← h.order_eq, Ledger.write]
  rule?_eq b := by rw [Catalogue.lookup_store, ← h.rule?_eq, Ledger.write]

/-- The rule under an address is the one that the catalogue has there. -/
theorem rule?_of_getElem? (h : l.Lists cat) {id : Nat} {a : Address} {rule : α}
    (hid : cat[id]? = some (a, rule)) : l.rule? a = some rule := by
  rw [h.rule?_eq]
  exact Catalogue.lookup_of_getElem? (h.order_eq ▸ l.nodup) hid

end Lists

end Ledger

namespace Trie

variable {t : Trie α} {l : Ledger α} {cat : Catalogue α} {options : MatchOptions}

/-! ## Single requests -/

/-- Bring a rule to a trie: what is answered, and the trie afterwards. -/
def take (t : Trie α) (r : Request α) : Except AddressError Placement × Trie α :=
  match t.insert r.address r.rule r.policy with
  | .ok (p, t) => (.ok p, t)
  | .error e => (.error e, t)

theorem take_of_insert_eq_error {r : Request α} {e : AddressError}
    (h : t.insert r.address r.rule r.policy = .error e) : t.take r = (.error e, t) := by
  rw [take, h]

theorem take_of_insert_eq_ok {r : Request α} {p : Placement} {t' : Trie α}
    (h : t.insert r.address r.rule r.policy = .ok (p, t')) : t.take r = (.ok p, t') := by
  rw [take, h]

/-- A request that is answered with an error changes nothing. -/
theorem take_eq_self_of_error {r : Request α} {e : AddressError} (h : (t.take r).1 = .error e) :
    (t.take r).2 = t := by
  cases hinsert : t.insert r.address r.rule r.policy with
  | error e' => rw [take_of_insert_eq_error hinsert]
  | ok out =>
    rw [take_of_insert_eq_ok hinsert] at h
    cases h

/-! ### What becomes of it -/

section

variable {a : Address} (rule : α) (policy : Policy) {id : Nat}

theorem insert_eq_error {e : AddressError} (hcheck : a.check t.options.wildcardPairs = .error e) :
    t.insert a rule policy = .error e := by
  simp [Trie.insert, hcheck, bind, Except.bind]

theorem insert_eq_occupied (hcheck : a.check t.options.wildcardPairs = .ok ())
    (hid : t.idAt? a = some id) : t.insert a rule .reject = .error (.occupied a) := by
  simp [Trie.insert, hcheck, hid, bind, Except.bind]

theorem insert_eq_replacing (hcheck : a.check t.options.wildcardPairs = .ok ())
    (hid : t.idAt? a = some id) : t.insert a rule .overwrite =
      .ok (.replacing id, { t with rules := t.rules.setIfInBounds id rule }) := by
  simp [Trie.insert, hcheck, hid, bind, Except.bind]

theorem insert_eq_fresh (hcheck : a.check t.options.wildcardPairs = .ok ())
    (hfree : t.idAt? a = none) : t.insert a rule policy = .ok (.fresh t.size, t.add a rule) := by
  simp [Trie.insert, hcheck, hfree, size, bind, Except.bind]

/-- Where rules are replaced, a rule is stored at every address that passes its check. -/
theorem exists_insert_eq_ok (hcheck : a.check t.options.wildcardPairs = .ok ()) :
    ∃ p t', t.insert a rule .overwrite = .ok (p, t') := by
  cases hid : t.idAt? a with
  | none => exact ⟨_, _, insert_eq_fresh rule .overwrite hcheck hid⟩
  | some id => exact ⟨_, _, insert_eq_replacing rule hcheck hid⟩

end

/-! ## What a trie can be asked for -/

/-- A trie can be asked for what a ledger has: the rules by their addresses and by their numbers,
and how many there are. -/
structure Agrees (t : Trie α) (l : Ledger α) : Prop where
  at?_eq : ∀ a, t.at? a = l.rule? a
  size_eq : t.size = l.order.length
  isEmpty_iff : t.isEmpty ↔ t.size = 0
  get?_eq : ∀ id, t.get? id = (l.order[id]?).bind l.rule?

theorem isEmpty_iff_size_eq_zero (t : Trie α) : t.isEmpty ↔ t.size = 0 := by
  rw [isEmpty, size, Array.isEmpty_iff_size_eq_zero]

/-- The number of an address is its place in the order. -/
theorem Holds.idAt?_eq_idxOf (h : t.Holds cat) (hl : l.Lists cat) (a : Address) :
    t.idAt? a = if a ∈ l.order then some (l.order.idxOf a) else none := by
  split
  · rename_i hmem
    have hplace : l.order[l.order.idxOf a]? = some a := List.getElem?_idxOf hmem
    rw [hl.order_eq, List.getElem?_map, ← hl.order_eq] at hplace
    obtain ⟨⟨_, rule⟩, hentry, rfl⟩ := Option.map_eq_some_iff.mp hplace
    exact h.idAt?_eq_some.mpr ⟨rule, hentry⟩
  · rename_i hnew
    cases hid : t.idAt? a with
    | none => rfl
    | some id =>
      obtain ⟨rule, hentry⟩ := h.idAt?_eq_some.mp hid
      rw [hl.order_eq] at hnew
      exact absurd (List.mem_map_of_mem (List.mem_of_getElem? hentry)) hnew

theorem Holds.agrees (h : t.Holds cat) (hl : l.Lists cat) : t.Agrees l := by
  have hget : ∀ id, t.get? id = (l.order[id]?).bind l.rule? := by
    intro id
    rw [h.get?_eq, hl.order_eq, List.getElem?_map]
    cases hentry : cat[id]? with
    | none => rfl
    | some e => exact (hl.rule?_of_getElem? hentry).symm
  refine ⟨fun a => ?_, by rw [h.size_eq, hl.order_eq, List.length_map],
    t.isEmpty_iff_size_eq_zero, hget⟩
  rw [at?, h.idAt?_eq_idxOf hl]
  by_cases hmem : a ∈ l.order
  · rw [if_pos hmem, Option.bind_some, hget, List.getElem?_idxOf hmem, Option.bind_some]
  · rw [if_neg hmem, Option.bind_none]
    cases hrule : l.rule? a with
    | none => rfl
    | some rule => exact absurd ((l.mem_order a).mpr (by rw [hrule]; rfl)) hmem

/-! ## Whole runs -/

/-- A trie that was made by storing rules, and the ledger in which the same rules were written. -/
def Keeps (options : MatchOptions) (t : Trie α) (l : Ledger α) : Prop :=
  ∃ cat, Grown options t cat ∧ l.Lists cat

theorem Keeps.agrees (h : Keeps options t l) : t.Agrees l := by
  obtain ⟨cat, hgrown, hlists⟩ := h
  exact hgrown.holds.agrees hlists

/-- **One request.** A trie answers as the ledger does, and keeps the ledger that follows. -/
theorem Keeps.take (h : Keeps options t l) (r : Request α) :
    (t.take r).1 = (l.take options.wildcardPairs r).1 ∧
      Keeps options (t.take r).2 (l.take options.wildcardPairs r).2 := by
  obtain ⟨cat, hgrown, hlists⟩ := h
  have hid := hgrown.holds.idAt?_eq_idxOf hlists r.address
  -- what is stored in the trie is written in the ledger
  have hwrite : ∀ {p : Placement} {t' : Trie α},
      t.insert r.address r.rule r.policy = .ok (p, t') →
        Keeps options t' (l.write r.address r.rule) := fun hinsert =>
    ⟨_, .insert hgrown hinsert, hlists.write r.address r.rule⟩
  obtain rfl := hgrown.options_eq
  unfold Ledger.take
  split
  · rename_i e hcheck
    rw [take_of_insert_eq_error (insert_eq_error r.rule r.policy hcheck)]
    exact ⟨rfl, cat, hgrown, hlists⟩
  · rename_i hcheck
    split
    · rename_i hmem
      rw [if_pos hmem] at hid
      split
      · rename_i hpolicy
        have hinsert := insert_eq_replacing r.rule hcheck hid
        rw [← hpolicy] at hinsert
        rw [take_of_insert_eq_ok hinsert]
        exact ⟨rfl, hwrite hinsert⟩
      · rename_i hpolicy
        have hinsert := insert_eq_occupied r.rule hcheck hid
        rw [← hpolicy] at hinsert
        rw [take_of_insert_eq_error hinsert]
        exact ⟨rfl, cat, hgrown, hlists⟩
    · rename_i hnew
      rw [if_neg hnew] at hid
      have hinsert := insert_eq_fresh r.rule r.policy hcheck hid
      rw [take_of_insert_eq_ok hinsert, (hgrown.holds.agrees hlists).size_eq]
      exact ⟨rfl, hwrite hinsert⟩

theorem keeps_empty (options : MatchOptions) : Keeps options (empty options : Trie α) .empty :=
  ⟨[], .empty, .empty⟩

/-- A run of requests keeps the ledger that follows. -/
theorem Keeps.run (h : Keeps options t l) (rs : List (Request α)) :
    (Machine.run Trie.take t rs).1 = (Machine.run (Ledger.take options.wildcardPairs) l rs).1 ∧
      Keeps options (Machine.run Trie.take t rs).2
        (Machine.run (Ledger.take options.wildcardPairs) l rs).2 :=
  Machine.run_related (fun r h => h.take r) h rs

/-- What is at an address in the end is settled by one request after the other. -/
theorem Keeps.at?_run (h : Keeps options t l) (rs : List (Request α)) (a : Address) :
    (Machine.run Trie.take t rs).2.at? a =
      rs.foldl (Request.settle options.wildcardPairs a) (t.at? a) := by
  rw [(h.run rs).2.agrees.at?_eq, Ledger.rule?_run, h.agrees.at?_eq]

theorem at?_run_empty (options : MatchOptions) (rs : List (Request α)) (a : Address) :
    (Machine.run take (empty options) rs).2.at? a =
      rs.foldl (Request.settle options.wildcardPairs a) none := by
  have hkeeps : Keeps options (empty options : Trie α) .empty := keeps_empty options
  rw [hkeeps.at?_run, hkeeps.agrees.at?_eq]
  rfl

/-- **A trie is a finite map from addresses to rules.** Whatever rules are brought to an empty trie,
one after the other, it answers to each what a finite map answers, and in the end it can be asked
for what the map has. New addresses are numbered from zero on, in order, and a rule is answered with
the number of its address. A request that is refused leaves all nodes and rules as they are, and
none changes what is at another address. -/
theorem run_take_agrees (options : MatchOptions) (rs : List (Request α)) :
    let run := Machine.run take (empty options) rs
    let map := Machine.run (Ledger.take options.wildcardPairs) .empty rs
    run.1 = map.1 ∧ run.2.Agrees map.2 ∧
      run.1.filterMap Ledger.freshNumber? = List.range run.2.size ∧
      List.Forall₂ (fun r answer => ∀ p, answer = .ok p →
        map.2.order[p.id]? = some r.address) rs run.1 ∧
      ∀ r : Request α, (∀ e, (run.2.take r).1 = .error e → (run.2.take r).2 = run.2) ∧
        ∀ a, a ≠ r.address → (run.2.take r).2.at? a = run.2.at? a := by
  intro run map
  obtain ⟨hanswers, hkeeps⟩ : run.1 = map.1 ∧ Keeps options run.2 map.2 :=
    (keeps_empty options).run rs
  refine ⟨hanswers, hkeeps.agrees, ?_, ?_, fun r => ⟨fun e => take_eq_self_of_error, ?_⟩⟩
  · rw [hanswers, hkeeps.agrees.size_eq]
    exact Ledger.range_append_freshNumbers options.wildcardPairs .empty rs
  · rw [hanswers]
    exact Ledger.forall₂_run options.wildcardPairs .empty rs
  · intro a ha
    rw [(hkeeps.take r).2.agrees.at?_eq, Ledger.rule?_take_of_ne _ _ _ ha, hkeeps.agrees.at?_eq]

end Trie

end Colloquy
