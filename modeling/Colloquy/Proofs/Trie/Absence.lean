import Colloquy.Proofs.Trie.Bindings

/-!
# What matches a context that is not there

For a context or a topic that is not there one word is looked up, the word for what is absent, and
it is a word like others: a slot of the same form stands for it, and so does the name of a bot that
is called so. Nothing else does but a wildcard.

* `Pattern.Covers` — which words a pattern stands for.
* `Pattern.SuitsForm`, `Pattern.covers_singleton_iff` — which patterns stand for a single word.
* `Trie.isSome_find?_iff` — something is found exactly when an address stands for the query.
* `Trie.isSome_find?_ofWords_nil_iff` — so at the beginning of a conversation.
* `Trie.find?_ofWords_absent` — which rules are found where a context or a topic is absent.
-/

namespace Colloquy

/-! ## Slots that stand for no word or for one -/

/-- Only a wildcard for any number of words stands for none. -/
theorem Slot.covers_nil_iff (name : List Word) {s : Slot} :
    s.Covers name [] ↔ s = .zeroOrMore := by
  refine ⟨Trie.eq_zeroOrMore_of_covers_nil name, ?_⟩
  rintro rfl
  exact .zeroOrMore []

/-- A slot stands for a single word unless it is a word of another form, or the name of a bot that
is called otherwise. -/
theorem Slot.covers_singleton_iff {name : List Word} {w : Word} {s : Slot} :
    s.Covers name [w] ↔ (∀ form, s = .word form → form = w.form) ∧
      (s = .botName → name.map Word.form = [w.form]) := by
  constructor
  · intro h
    cases h with
    | word hform => exact ⟨fun form hs => (Slot.word.inj hs).symm.trans hform.symm, nofun⟩
    | botName hname hforms => exact ⟨nofun, fun _ => hforms.symm⟩
    | oneOrMore hws => exact ⟨nofun, nofun⟩
    | zeroOrMore ws => exact ⟨nofun, nofun⟩
  · rintro ⟨hword, hbotName⟩
    cases s with
    | word form => exact .word (hword form rfl).symm
    | botName =>
      have hforms := hbotName rfl
      refine .botName (fun hname => ?_) hforms.symm
      rw [hname] at hforms
      cases hforms
    | oneOrMore => exact .oneOrMore (List.cons_ne_nil w [])
    | zeroOrMore => exact .zeroOrMore [w]

/-! ## Patterns that stand for no word or for one -/

namespace Pattern

/-- Which words a pattern stands for: its slots stand, in order, for stretches that make them up. -/
def Covers (name : List Word) (p : Pattern) (ws : List Word) : Prop :=
  ∃ ps : List Part, ps.map Part.slot = p ∧ (∀ x ∈ ps, x.slot.Covers name x.words) ∧
    ps.flatMap Part.words = ws

/-- A pattern can stand for a single word of some form: one slot stands for the word, and all others
are wildcards that stand for none. -/
structure SuitsForm (name : List Word) (form : Text) (p : Pattern) : Prop where
  /-- There is a slot. -/
  ne_nil : p ≠ []
  /-- All slots but one can stand for no word. -/
  countP_le : p.countP (· ≠ .zeroOrMore) ≤ 1
  /-- A word in the pattern has that form. -/
  word : ∀ f, .word f ∈ p → f = form
  /-- The name of the bot, if the pattern has it, is one word of that form. -/
  botName : .botName ∈ p → name.map Word.form = [form]

variable {name ws : List Word} {w : Word} {s : Slot} {p : Pattern}

/-- A pattern without slots stands for no words. -/
theorem covers_of_nil_iff : Covers name [] ws ↔ ws = [] := by
  constructor
  · rintro ⟨ps, hslots, -, rfl⟩
    rw [List.map_eq_nil_iff.mp hslots]
    rfl
  · rintro rfl
    exact ⟨[], rfl, by simp, rfl⟩

/-- The first slot of a pattern stands for the first of the words, the others for what is left. -/
theorem covers_cons_iff : Covers name (s :: p) ws ↔
    ∃ here behind, here ++ behind = ws ∧ s.Covers name here ∧ p.Covers name behind := by
  constructor
  · rintro ⟨ps, hslots, hcovers, rfl⟩
    obtain ⟨x, ps, rfl, rfl, rfl⟩ := List.map_eq_cons_iff.mp hslots
    obtain ⟨hx, hps⟩ := List.forall_mem_cons.mp hcovers
    exact ⟨x.words, ps.flatMap Part.words, rfl, hx, ps, rfl, hps, rfl⟩
  · rintro ⟨here, _, rfl, hs, ps, rfl, hps, rfl⟩
    exact ⟨⟨s, here⟩ :: ps, rfl, List.forall_mem_cons.mpr ⟨hs, hps⟩, rfl⟩

variable (name) in
/-- Only wildcards for any number of words stand for none. -/
theorem covers_nil_iff : p.Covers name [] ↔ ∀ s ∈ p, s = .zeroOrMore := by
  induction p with
  | nil => simp [covers_of_nil_iff]
  | cons s p ih =>
    rw [covers_cons_iff, List.forall_mem_cons, ← ih, ← Slot.covers_nil_iff name]
    simp [List.append_eq_nil_iff]

/-- A single word goes to one slot. -/
theorem covers_singleton_cons_iff : Covers name (s :: p) [w] ↔
    (s = .zeroOrMore ∧ p.Covers name [w]) ∨
      (s.Covers name [w] ∧ ∀ r ∈ p, r = .zeroOrMore) := by
  rw [covers_cons_iff, ← covers_nil_iff name, ← Slot.covers_nil_iff name]
  constructor
  · rintro ⟨here, behind, hwhole, hs, hp⟩
    rcases List.append_eq_singleton_iff.mp hwhole with ⟨rfl, rfl⟩ | ⟨rfl, rfl⟩
    · exact .inl ⟨hs, hp⟩
    · exact .inr ⟨hs, hp⟩
  · rintro (⟨hs, hp⟩ | ⟨hs, hp⟩)
    · exact ⟨[], [w], rfl, hs, hp⟩
    · exact ⟨[w], [], rfl, hs, hp⟩

/-- A wildcard for any number of words before other slots changes nothing. -/
theorem suitsForm_zeroOrMore_cons_iff {form : Text} (hp : p ≠ []) :
    SuitsForm name form (.zeroOrMore :: p) ↔ p.SuitsForm name form := by
  constructor
  · intro h
    refine ⟨hp, by simpa using h.countP_le, fun f hf => ?_, fun hbot => ?_⟩
    · exact h.word f (List.mem_cons_of_mem _ hf)
    · exact h.botName (List.mem_cons_of_mem _ hbot)
  · intro h
    exact ⟨List.cons_ne_nil _ p, by simpa using h.countP_le, by simpa using h.word,
      by simpa using h.botName⟩

/-- A slot that stands for the word can have wildcards for any number of words behind it. -/
theorem SuitsForm.of_covers (hs : s.Covers name [w]) (hrest : ∀ r ∈ p, r = .zeroOrMore) :
    SuitsForm name w.form (s :: p) := by
  obtain ⟨hword, hbotName⟩ := Slot.covers_singleton_iff.mp hs
  refine ⟨List.cons_ne_nil s p, ?_, fun f hf => ?_, fun hbot => ?_⟩
  · have hnone : p.countP (· ≠ .zeroOrMore) = 0 := by
      rw [List.countP_eq_zero]
      simpa using hrest
    rw [List.countP_cons, hnone]
    split <;> decide
  · rcases List.mem_cons.mp hf with hf | hf
    · exact hword f hf.symm
    · cases hrest _ hf
  · rcases List.mem_cons.mp hbot with hbot | hbot
    · exact hbotName hbot.symm
    · cases hrest _ hbot

/-- A slot that cannot stand for no word stands for the word, and behind it are only wildcards for
any number of words. -/
theorem SuitsForm.uncons (h : SuitsForm name w.form (s :: p)) (hs : s ≠ .zeroOrMore) :
    s.Covers name [w] ∧ ∀ r ∈ p, r = .zeroOrMore := by
  constructor
  · refine Slot.covers_singleton_iff.mpr ⟨fun f hf => ?_, fun hbot => ?_⟩
    · exact h.word f (hf ▸ List.mem_cons_self)
    · exact h.botName (hbot ▸ List.mem_cons_self)
  · have hcount := h.countP_le
    rw [List.countP_cons_of_pos (by simpa using hs)] at hcount
    have hnone := List.countP_eq_zero.mp (Nat.le_zero.mp (Nat.le_of_succ_le_succ hcount))
    simpa using hnone

/-- **Which patterns stand for a single word.** -/
theorem covers_singleton_iff : p.Covers name [w] ↔ p.SuitsForm name w.form := by
  induction p with
  | nil => exact iff_of_false (by simp [covers_of_nil_iff]) fun h => h.ne_nil rfl
  | cons s p ih =>
    rw [covers_singleton_cons_iff, ih]
    constructor
    · rintro (⟨rfl, hp⟩ | ⟨hs, hrest⟩)
      · exact (suitsForm_zeroOrMore_cons_iff hp.ne_nil).mpr hp
      · exact .of_covers hs hrest
    · intro h
      by_cases hs : s = .zeroOrMore
      · subst hs
        by_cases hp : p = []
        · -- A wildcard that is all there is stands for the word.
          subst hp
          exact .inr ⟨.zeroOrMore [w], by simp⟩
        · exact .inl ⟨rfl, (suitsForm_zeroOrMore_cons_iff hp).mp h⟩
      · exact .inr (h.uncons hs)

/-- Which patterns stand for what is absent. -/
theorem covers_absent_iff :
    p.Covers name (Query.orAbsent []) ↔ p.SuitsForm name "UNDEFINED".toList := by
  have hform : Query.absent.form = "UNDEFINED".toList := by decide
  rw [← hform]
  exact covers_singleton_iff

end Pattern

/-! ## Rules that are found where nothing was said before -/

/-- In a derivation each segment of the address stands for that of the query. -/
theorem Catalogue.Derivation.covers_address {α : Type} {cat : Catalogue α} {q : Query}
    {name : List Word} (d : cat.Derivation q name) (s : Segment) :
    (d.address.get s).Covers name (q.get s) := by
  have hslots : (d.parts.get s).map Part.slot = d.address.get s := by cases s <;> rfl
  exact ⟨d.parts.get s, hslots, d.covers s, d.whole s⟩

namespace Trie

variable {α : Type} {options : MatchOptions} {t : Trie α} {cat : Catalogue α}

/-- **Something is found exactly when an address stands for the query.** The address has a rule, and
each of its segments stands for that of the query. -/
theorem isSome_find?_iff (h : Grown options t cat) {q : Query} {name : List Word} :
    (t.find? q name).isSome ↔
      ∃ a, (t.at? a).isSome ∧ ∀ s, (a.get s).Covers name (q.get s) := by
  constructor
  · intro hsome
    obtain ⟨m, hm⟩ := Option.isSome_iff_exists.mp hsome
    obtain ⟨d, -, -⟩ := exists_first_of_find? h.ascending h.holds hm
    have hat : t.at? d.address = some d.rule := h.holds.at?_eq_some.mpr ⟨d.id, d.stored⟩
    exact ⟨d.address, by rw [hat]; rfl, d.covers_address⟩
  · rintro ⟨⟨pattern, context, topic⟩, hat, hcovers⟩
    obtain ⟨rule, hrule⟩ := Option.isSome_iff_exists.mp hat
    obtain ⟨id, hstored⟩ := h.holds.at?_eq_some.mp hrule
    obtain ⟨ps, rfl, hps, hwhole⟩ := hcovers .pattern
    obtain ⟨cs, rfl, hcs, hcontext⟩ := hcovers .context
    obtain ⟨ts, rfl, hts, htopic⟩ := hcovers .topic
    have d : cat.Derivation q name :=
      { parts := ⟨ps, cs, ts⟩, id, rule, stored := hstored
        covers := by rintro (_ | _ | _) <;> assumption
        whole := by rintro (_ | _ | _) <;> assumption }
    refine Option.isSome_iff_ne_none.mpr fun hnone => ?_
    exact not_nonempty_of_find? h.ascending h.holds hnone ⟨d⟩

/-- At the beginning of a conversation, with nothing said before and no topic, something is found
exactly when the words suit an address whose context and topic suit `UNDEFINED`. -/
theorem isSome_find?_ofWords_nil_iff (h : Grown options t cat) {ws name : List Word} :
    (t.find? (.ofWords ws [] []) name).isSome ↔
      ∃ a, (t.at? a).isSome ∧ a.pattern.Covers name ws ∧
        a.context.SuitsForm name "UNDEFINED".toList ∧
        a.topic.SuitsForm name "UNDEFINED".toList := by
  rw [isSome_find?_iff h]
  refine exists_congr fun a => and_congr_right fun _ => ?_
  rw [← Pattern.covers_absent_iff, ← Pattern.covers_absent_iff]
  constructor
  · intro hcovers
    exact ⟨hcovers .pattern, hcovers .context, hcovers .topic⟩
  · rintro ⟨hpattern, hcontext, htopic⟩ (_ | _ | _)
    · exact hpattern
    · exact hcontext
    · exact htopic

/-- **Only what suits `UNDEFINED` is found where a context is absent.** In a trie that was made by
storing rules, every match has the rule of one address and no other. Where the query was made
without a context, all slots of the address' context but one are wildcards that may stand for no
word. If that one is a word, it is `UNDEFINED`; if it is the name of the bot, the bot is called so;
if it is neither, it is a wildcard. So a rule for any other context is not found. The same holds of
a topic. -/
theorem find?_ofWords_absent (h : Grown options t cat) {ws context topic name : List Word} {m : Match α}
    (hm : t.find? (.ofWords ws context topic) name = some m) :
    ∃ a, (∀ b, t.idAt? b = some m.id ↔ b = a) ∧ t.at? a = some m.rule ∧
      (context = [] → a.context.SuitsForm name "UNDEFINED".toList) ∧
      (topic = [] → a.topic.SuitsForm name "UNDEFINED".toList) := by
  obtain ⟨d, rfl, -⟩ := exists_first_of_find? h.ascending h.holds hm
  have hstored : cat[d.id]? = some (d.address, d.rule) := d.stored
  refine ⟨d.address, fun b => h.holds.idAt?_iff_eq hstored,
    h.holds.at?_eq_some.mpr ⟨d.id, hstored⟩, ?_, ?_⟩
  · rintro rfl
    exact Pattern.covers_absent_iff.mp (d.covers_address .context)
  · rintro rfl
    exact Pattern.covers_absent_iff.mp (d.covers_address .topic)

/-- The word `YES`, said to a question that begins with `DO YOU LIKE`. -/
def yesToQuestion : Address :=
  ⟨[.word "YES".toList],
    [.word "DO".toList, .word "YOU".toList, .word "LIKE".toList, .oneOrMore], .anything⟩

/-- The word `YES`, said to anything. -/
def yesToAnything : Address := ⟨[.word "YES".toList], .anything, .anything⟩

/-- Rules at these two addresses. -/
def aboutYes : Trie Nat :=
  ((empty {}).add yesToQuestion 7).add yesToAnything 8

/-- Where nothing was said before, `yes` finds the rule for any context, though the other was stored
first. -/
theorem find?_ofWords_absent_yes :
    Grown {} aboutYes [(yesToQuestion, 7), (yesToAnything, 8)] ∧
      aboutYes.find? (.ofWords [.ofText "yes".toList] [] []) [] =
        some ⟨1, 8, ⟨[], [⟨0, 1⟩], [⟨0, 1⟩]⟩⟩ ∧
      ∃ a, (∀ b, aboutYes.idAt? b = some 1 ↔ b = a) ∧ aboutYes.at? a = some 8 ∧
        a.context.SuitsForm [] "UNDEFINED".toList ∧ a.topic.SuitsForm [] "UNDEFINED".toList := by
  have hfirst : Grown {} ((empty {}).add yesToQuestion 7) [(yesToQuestion, 7)] :=
    Grown.empty.add 7 rfl rfl
  have hgrown : Grown {} aboutYes [(yesToQuestion, 7), (yesToAnything, 8)] :=
    hfirst.add 8 rfl rfl
  have hfound : aboutYes.find? (.ofWords [.ofText "yes".toList] [] []) [] =
      some ⟨1, 8, ⟨[], [⟨0, 1⟩], [⟨0, 1⟩]⟩⟩ := rfl
  obtain ⟨a, hid, hrule, hcontext, htopic⟩ := find?_ofWords_absent hgrown hfound
  exact ⟨hgrown, hfound, a, hid, hrule, hcontext rfl, htopic rfl⟩

/-- The word `HI`, said to `UNDEFINED` under a topic that is the name of the bot. -/
def hiToUndefined : Address :=
  ⟨[.word "HI".toList], [.word "UNDEFINED".toList], [.botName]⟩

/-- A rule at this address. -/
def aboutUndefined : Trie Nat := (empty {}).add hiToUndefined 7

/-- A bot called `Undefined` finds this rule where nothing was said before and there is no topic,
though neither the context nor the topic of its address is a wildcard. -/
theorem find?_absent_scoped :
    Grown {} aboutUndefined [(hiToUndefined, 7)] ∧
      aboutUndefined.find? (.ofWords [.ofText "hi".toList] [] []) [.ofText "Undefined".toList] =
        some ⟨0, 7, .none⟩ ∧
      (∀ b, aboutUndefined.idAt? b = some 0 ↔ b = hiToUndefined) ∧
      ¬ (∀ s ∈ hiToUndefined.context, s.isWildcard) ∧
      ¬ (∀ s ∈ hiToUndefined.topic, s.isWildcard) := by
  have hgrown : Grown {} aboutUndefined [(hiToUndefined, 7)] := Grown.empty.add 7 rfl rfl
  refine ⟨hgrown, rfl, fun b => hgrown.holds.idAt?_iff_eq rfl, by decide, by decide⟩

end Trie

end Colloquy
