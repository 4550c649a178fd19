import Colloquy.Proofs.Trie.Sameness

/-!
# What the wildcards of a rule stand for

A match tells for every wildcard of its rule which stretch of words it stands for. Where patterns
have no two wildcards in a row, these stretches cannot touch: between any two of them is a word that
stands for itself or for the name of the bot.

* `Grown.check_of_idAt?` — every address that has a rule has passed its check.
* `Part.length_spansFrom`, `Part.bounds_of_mem_spansFrom`, `Part.pairwise_spansFrom` — the stretches
  of some parts: how many, how far they reach, and that they lie apart.
* `Bindings.Suit` — the stretches of a segment are those of the wildcards of a pattern.
* `Trie.bindings_suit_address` — so they are in every match.
-/

namespace Colloquy

/-! ## Patterns without two wildcards in a row -/

/-- A pattern has no two wildcards in a row when its first two slots are not wildcards, and the rest
has none. -/
theorem Pattern.hasWildcardPair_cons_eq_false_iff {s : Slot} {p : Pattern} :
    Pattern.hasWildcardPair (s :: p) = false ↔
      (s.isWildcard = true → ∀ r ∈ p.head?, r.isWildcard = false) ∧ p.hasWildcardPair = false := by
  cases p with
  | nil => simp [hasWildcardPair]
  | cons r p =>
    have hcons : Pattern.hasWildcardPair (s :: r :: p) =
        ((s.isWildcard && r.isWildcard) || Pattern.hasWildcardPair (r :: p)) := rfl
    rw [hcons, Bool.or_eq_false_iff, Bool.and_eq_false_imp]
    simp

/-- An address that passes the strict check has no two wildcards in a row in any segment. -/
theorem Address.hasWildcardPair_of_check {a : Address} (h : a.check false = .ok ()) (s : Segment) :
    (a.get s).hasWildcardPair = false := by
  have hnone : a.wildcardPair? = none := by
    unfold check at h
    split at h
    · cases h
    · rw [if_neg Bool.false_ne_true] at h
      split at h
      · cases h
      · assumption
  have hs : s ∈ Segment.all := by cases s <;> decide
  simpa using List.find?_eq_none.mp hnone s hs

/-- Only at an address that passes its check is a rule stored. -/
theorem Trie.Grown.check_of_idAt? {α : Type} {options : MatchOptions} {t : Trie α}
    {cat : Catalogue α} (h : Grown options t cat) {a : Address} {id : Nat}
    (hid : t.idAt? a = some id) : a.check options.wildcardPairs = .ok () := by
  induction h with
  | empty =>
    obtain ⟨rule, hentry⟩ := (Grown.empty.holds (α := α)).idAt?_eq_some.mp hid
    simp at hentry
  | insert grown stored ih =>
    obtain ⟨hcheck, ⟨_, -, -, -, rfl⟩ | ⟨-, -, rfl⟩⟩ := insert_cases stored
    · rw [idAt?_mk] at hid
      exact ih hid
    · rw [idAt?_add grown.ascending] at hid
      split at hid
      · rename_i ha
        rw [ha, ← grown.options_eq]
        exact hcheck
      · exact ih hid

/-! ## The stretches of some parts -/

/-- A slot that is not a wildcard stands for at least one word. -/
theorem Slot.Covers.length_pos {name ws : List Word} {s : Slot} (h : s.Covers name ws)
    (hs : s.isWildcard = false) : 0 < ws.length := by
  cases h with
  | word hform => exact Nat.one_pos
  | botName hname hforms =>
    have hlength : ws.length = name.length := by simpa using congrArg List.length hforms
    rw [hlength]
    exact List.length_pos_iff.mpr hname
  | oneOrMore hws => cases hs
  | zeroOrMore ws => cases hs

namespace Part

variable {name : List Word} {ps : List Part} {pos : Nat} {r : Span}

/-- Every wildcard has a stretch. -/
theorem length_spansFrom (pos : Nat) (ps : List Part) :
    (spansFrom pos ps).length = Pattern.numWildcards (ps.map slot) := by
  induction ps generalizing pos with
  | nil => rfl
  | cons p ps ih =>
    rw [spansFrom, List.length_append, ih, List.map_cons, Pattern.numWildcards,
      Pattern.numWildcards, List.countP_cons]
    split
    · exact Nat.add_comm _ _
    · exact Nat.zero_add _

/-- The stretches lie inside the words that the parts are made of. -/
theorem bounds_of_mem_spansFrom (h : r ∈ spansFrom pos ps) :
    pos ≤ r.start ∧ r.start ≤ r.stop ∧ r.stop ≤ pos + (ps.flatMap words).length := by
  induction ps generalizing pos with
  | nil => cases h
  | cons p ps ih =>
    rw [List.flatMap_cons, List.length_append]
    rcases List.mem_append.mp h with hhere | hbehind
    · split at hhere
      · obtain rfl := List.mem_singleton.mp hhere
        dsimp only
        omega
      · cases hhere
    · have hbounds := ih hbehind
      omega

/-- Behind a slot that is not a wildcard a stretch begins later. -/
theorem lt_start_of_mem_spansFrom (hcovers : ∀ p ∈ ps, p.slot.Covers name p.words)
    (hfirst : ∀ p ∈ ps.head?, p.slot.isWildcard = false) (h : r ∈ spansFrom pos ps) :
    pos < r.start := by
  cases ps with
  | nil => cases h
  | cons p ps =>
    have hp : p.slot.isWildcard = false := hfirst p rfl
    have hpos := (hcovers p List.mem_cons_self).length_pos hp
    rw [spansFrom, hp] at h
    have hbounds := bounds_of_mem_spansFrom h
    omega

/-- **The stretches lie apart.** Where no two wildcards come in a row, a word lies between any two
stretches, also where a stretch is empty. -/
theorem pairwise_spansFrom (hcovers : ∀ p ∈ ps, p.slot.Covers name p.words)
    (hpair : Pattern.hasWildcardPair (ps.map slot) = false) (pos : Nat) :
    (spansFrom pos ps).Pairwise fun r r' => r.stop < r'.start := by
  induction ps generalizing pos with
  | nil => exact .nil
  | cons p ps ih =>
    obtain ⟨hnext, hrest⟩ := Pattern.hasWildcardPair_cons_eq_false_iff.mp hpair
    obtain ⟨-, hcovers⟩ := List.forall_mem_cons.mp hcovers
    have hbehind := ih hcovers hrest (pos + p.words.length)
    rw [spansFrom]
    split
    · rename_i hp
      refine List.pairwise_cons.mpr ⟨fun r hr => ?_, hbehind⟩
      refine lt_start_of_mem_spansFrom hcovers (fun p' hp' => ?_) hr
      exact hnext hp p'.slot (by rw [List.head?_map, hp']; rfl)
    · exact hbehind

end Part

/-! ## Stretches that suit a pattern -/

/-- A word, given by its number, is in a stretch. -/
def Span.Has (r : Span) (i : Nat) : Prop := r.start ≤ i ∧ i < r.stop

/-- Where stretches lie apart, the word behind one of them is in none. -/
theorem Span.not_has_stop {rs : List Span} (hapart : rs.Pairwise fun r r' => r.stop < r'.start)
    (hle : ∀ r ∈ rs, r.start ≤ r.stop) {r x : Span} (hr : r ∈ rs) (hx : x ∈ rs) :
    ¬ x.Has r.stop := by
  rintro ⟨hstart, hstop⟩
  induction hapart with
  | nil => cases hr
  | @cons y rs hbehind _ ih =>
    obtain ⟨-, hle'⟩ := List.forall_mem_cons.mp hle
    rcases List.mem_cons.mp hr with rfl | hr'
    · rcases List.mem_cons.mp hx with rfl | hx'
      · exact Nat.lt_irrefl _ hstop
      · exact absurd (hbehind x hx') (Nat.not_lt.mpr hstart)
    · rcases List.mem_cons.mp hx with rfl | hx'
      · exact absurd (Nat.lt_trans hstop (hbehind r hr')) (Nat.not_lt.mpr (hle' r hr'))
      · exact ih hle' hr' hx'

/-- A stretch has words exactly when it lies inside the segment. -/
theorem Span.isSome_words?_iff (r : Span) (ws : List Word) :
    (r.words? ws).isSome ↔ r.start ≤ r.stop ∧ r.stop ≤ ws.length := by
  unfold words?
  split <;> simp_all

/-- The stretches of a segment are those of the wildcards of a pattern. -/
structure Bindings.Suit (c : Bindings) (q : Query) (s : Segment) (p : Pattern) : Prop where
  /-- Every wildcard has a stretch. -/
  length_eq : (c.get s).length = p.numWildcards
  /-- Stretches lie inside the segment. -/
  inside : ∀ r ∈ c.get s, r.start ≤ r.stop ∧ r.stop ≤ (q.get s).length
  /-- They are in order, with a gap between any two. -/
  apart : (c.get s).Pairwise fun r r' => r.stop < r'.start
  /-- Behind a stretch that another follows is a word for which no wildcard stands. -/
  free : ∀ {i : Nat} {r r' : Span}, (c.get s)[i]? = some r → (c.get s)[i + 1]? = some r' →
    r.stop < r'.start ∧ ∃ w, (q.get s)[r.stop]? = some w ∧ ∀ x ∈ c.get s, ¬ x.Has r.stop
  /-- The words of a wildcard can be asked for by its number, and nothing else can. -/
  numbered : ∀ n, (c.words? q s n).isSome ↔ 1 ≤ n ∧ n ≤ p.numWildcards

/-- Stretches that are as many as the wildcards, inside the segment and apart, suit a pattern. -/
theorem Bindings.Suit.of_apart {c : Bindings} {q : Query} {s : Segment} {p : Pattern}
    (hlength : (c.get s).length = p.numWildcards)
    (hinside : ∀ r ∈ c.get s, r.start ≤ r.stop ∧ r.stop ≤ (q.get s).length)
    (hapart : (c.get s).Pairwise fun r r' => r.stop < r'.start) : c.Suit q s p where
  length_eq := hlength
  inside := hinside
  apart := hapart
  free := by
    intro i r r' hr hr'
    obtain ⟨hi, rfl⟩ := List.getElem?_eq_some_iff.mp hr
    obtain ⟨hi', rfl⟩ := List.getElem?_eq_some_iff.mp hr'
    have hlt := List.pairwise_iff_getElem.mp hapart i (i + 1) hi hi' (Nat.lt_succ_self i)
    have hbounds := hinside _ (List.getElem_mem hi')
    refine ⟨hlt, _, List.getElem?_eq_getElem (by omega), fun x hx => ?_⟩
    exact Span.not_has_stop hapart (fun r hr => (hinside r hr).1) (List.getElem_mem hi) hx
  numbered := by
    intro n
    cases n with
    | zero => simp [words?, span?]
    | succ n =>
      rw [words?, span?, ← hlength]
      by_cases hn : n < (c.get s).length
      · have hin := hinside _ (List.getElem_mem hn)
        rw [List.getElem?_eq_getElem hn, Option.bind_some, Span.isSome_words?_iff]
        exact ⟨fun _ => ⟨Nat.succ_pos n, hn⟩, fun _ => hin⟩
      · rw [List.getElem?_eq_none (Nat.not_lt.mp hn), Option.bind_none]
        exact iff_of_false Bool.false_ne_true fun hle => hn hle.2

/-- In a derivation the stretches answer the wildcards of its address, where this has no two of them
in a row. -/
theorem Catalogue.Derivation.suit {α : Type} {cat : Catalogue α} {q : Query} {name : List Word}
    (d : cat.Derivation q name) {s : Segment} (hpair : (d.address.get s).hasWildcardPair = false) :
    d.bindings.Suit q s (d.address.get s) := by
  have hspans : d.bindings.get s = Part.spansFrom 0 (d.parts.get s) := by cases s <;> rfl
  have hslots : d.address.get s = (d.parts.get s).map Part.slot := by cases s <;> rfl
  rw [hslots] at hpair ⊢
  refine .of_apart ?_ (fun r hr => ?_) ?_
  · rw [hspans, Part.length_spansFrom]
  · rw [hspans] at hr
    obtain ⟨-, hle, hstop⟩ := Part.bounds_of_mem_spansFrom hr
    rw [d.whole s, Nat.zero_add] at hstop
    exact ⟨hle, hstop⟩
  · rw [hspans]
    exact Part.pairwise_spansFrom (d.covers s) hpair 0

namespace Trie

/-- **The stretches of a match answer the wildcards of its rule.** In a trie that was made by
storing rules, where two wildcards in a row are not allowed, every match has the rule of one address
and no other, and in each segment its stretches answer the wildcards that the address has there. -/
theorem bindings_suit_address {α : Type} {options : MatchOptions} {t : Trie α}
    {cat : Catalogue α} (h : Grown options t cat) (hpairs : options.wildcardPairs = false)
    {q : Query} {name : List Word} {m : Match α} (hm : t.find? q name = some m) :
    ∃ a, (∀ b, t.idAt? b = some m.id ↔ b = a) ∧ t.at? a = some m.rule ∧
      ∀ s, m.bindings.Suit q s (a.get s) := by
  obtain ⟨d, rfl, -⟩ := exists_first_of_find? h.ascending h.holds hm
  have hstored : cat[d.id]? = some (d.address, d.rule) := d.stored
  obtain ⟨hid, hrule⟩ := h.holds.getElem?_eq_some.mp hstored
  have hcheck := h.check_of_idAt? hid
  rw [hpairs] at hcheck
  refine ⟨d.address, fun b => ⟨fun hb => ?_, fun hb => hb ▸ hid⟩, ?_, fun s => ?_⟩
  · obtain ⟨rule, hentry⟩ := h.holds.idAt?_eq_some.mp hb
    exact (Prod.mk.inj (Option.some.inj (hentry.symm.trans hstored))).1
  · rw [at?, hid]
    exact hrule
  · exact d.suit (Address.hasWildcardPair_of_check hcheck s)

/-- The word `A` with words before it, and `B` at the end of what is behind it. -/
def aThenLastB : Address :=
  ⟨[.oneOrMore, .word ['A'], .zeroOrMore, .word ['B']], .anything, .anything⟩

/-- The word `A` with words before it, said to something with a `YES` in it. -/
def aAfterYes : Address :=
  ⟨[.oneOrMore, .word ['A'], .zeroOrMore], [.zeroOrMore, .word "YES".toList, .zeroOrMore],
    .anything⟩

/-- Rules at these two addresses. -/
def aboutA : Trie Nat :=
  ((empty {}).add aThenLastB 7).add aAfterYes 8

/-- The input `x a`, said to `yes`. -/
def xaToYes : Query :=
  .ofWords [.ofText ['x'], .ofText ['a']] [.ofText "yes".toList] []

/-- The first rule takes a stretch for its first two wildcards before it is given up. What is found
is the second, with its own stretches only; three of them are empty, and all the same a word lies
between any two of one segment. -/
theorem bindings_suit_address_yes :
    Grown {} aboutA [(aThenLastB, 7), (aAfterYes, 8)] ∧ MatchOptions.wildcardPairs {} = false ∧
      aboutA.find? xaToYes [] = some ⟨1, 8, ⟨[⟨0, 1⟩, ⟨2, 2⟩], [⟨0, 0⟩, ⟨1, 1⟩], [⟨0, 1⟩]⟩⟩ ∧
      ∃ a, (∀ b, aboutA.idAt? b = some 1 ↔ b = a) ∧ aboutA.at? a = some 8 ∧
        ∀ s, Bindings.Suit ⟨[⟨0, 1⟩, ⟨2, 2⟩], [⟨0, 0⟩, ⟨1, 1⟩], [⟨0, 1⟩]⟩ xaToYes s (a.get s) := by
  have hfirst : Grown {} ((empty {}).add aThenLastB 7) [(aThenLastB, 7)] :=
    Grown.empty.add 7 rfl rfl
  have hgrown : Grown {} aboutA (Catalogue.store aAfterYes 8 [(aThenLastB, 7)]) :=
    hfirst.add 8 rfl rfl
  have hfound : aboutA.find? xaToYes [] =
      some ⟨1, 8, ⟨[⟨0, 1⟩, ⟨2, 2⟩], [⟨0, 0⟩, ⟨1, 1⟩], [⟨0, 1⟩]⟩⟩ := rfl
  exact ⟨hgrown, rfl, hfound, bindings_suit_address hgrown rfl hfound⟩

end Trie

end Colloquy
