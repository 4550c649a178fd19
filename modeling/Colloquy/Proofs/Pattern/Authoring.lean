import Colloquy.Phrasebook.Reading
import Colloquy.Proofs.Pattern.Writing
import Colloquy.Proofs.Trie.Addition

/-!
# Rules for what somebody says

Whatever is read as some words can be answered: the words as they are written are a pattern in which
every word stands for itself, and nothing that is stored is preferred to such a pattern.

* `Word.IsRead` — a word as it is read from a text.
* `Pattern.ofWords` — the pattern of some words, each of which stands for itself.
* `Pattern.read_surfacesOf` — it is read from the words as they are written.
* `Part.eq_ofWord_of_lex` — nothing is preferred to words that stand for themselves.
* `Trie.find?_authored` — a rule for the words of a text is found for them.
-/

namespace Colloquy

open Unicode

/-! ## The words of a text -/

/-- A word as it is read from a text: it is made of letters and digits, and it is compared in upper
case. -/
structure Word.IsRead (w : Word) : Prop where
  ne_nil : w.surface ≠ []
  alphanumeric : w.surface.all isAlphanumeric = true
  form_eq : w.form = w.surface.upper

/-- By every phrasebook a text is read as such words. -/
theorem Phrasebook.isRead_of_mem_read {b : Phrasebook} {t : Text} {w : Word} (h : w ∈ b.read t) :
    w.IsRead := by
  obtain ⟨part, -, hw⟩ := List.mem_flatMap.mp h
  obtain ⟨piece, hpiece, rfl⟩ := List.mem_map.mp hw
  refine ⟨Text.ne_nil_of_mem_pieces hpiece, List.all_eq_true.mpr fun c hc => ?_, rfl⟩
  simpa using Text.not_of_mem_splitWhere (List.mem_filter.mp hpiece).1 c hc

/-- The characters of such a word are no signs of a pattern. -/
theorem Word.IsRead.not_reserved {w : Word} (h : w.IsRead) :
    ∀ c ∈ w.surface, c.toNat ∉ reservedPoints :=
  fun c hc => not_reserved_of_isAlphanumeric (List.all_eq_true.mp h.alphanumeric c hc)

/-- Such a word writes the slot in which it stands for itself. -/
theorem Slot.ofWord?_surface {w : Word} (h : w.IsRead) :
    ofWord? w.surface = some (.word w.form) := by
  rw [ofWord?_of_not_reserved h.not_reserved, if_pos h.alphanumeric, h.form_eq]

/-! ## Their pattern -/

namespace Pattern

/-- The pattern of some words, each of which stands for itself. -/
def ofWords (ws : List Word) : Pattern :=
  ws.map fun w => .word w.form

variable {ws : List Word}

theorem readWords_map_surface (t : Text) (h : ∀ w ∈ ws, w.IsRead) :
    readWords t (ws.map Word.surface) = .ok (ofWords ws) := by
  induction ws with
  | nil => rfl
  | cons w ws ih =>
    obtain ⟨hw, hws⟩ := List.forall_mem_cons.mp h
    rw [List.map_cons, readWords_cons_of_some (Slot.ofWord?_surface hw), ih hws]
    rfl

/-- **Words are a pattern.** Words that were read from a text, as they are written, are read as the
pattern in which each stands for itself. -/
theorem read_surfacesOf (h : ∀ w ∈ ws, w.IsRead) :
    read (surfacesOf ws) = .ok (ofWords ws) := by
  have hwords : (surfacesOf ws).words = ws.map Word.surface := by
    refine Text.words_unwords (fun v hv => ?_) (fun v hv c hc => ?_)
    · obtain ⟨w, hw, rfl⟩ := List.mem_map.mp hv
      exact (h w hw).ne_nil
    · obtain ⟨w, hw, rfl⟩ := List.mem_map.mp hv
      exact isBlank_eq_false_of_not_reserved ((h w hw).not_reserved c hc)
  rw [read_eq, hwords]
  exact readWords_map_surface _ h

theorem hasWildcardPair_ofWords (ws : List Word) : (ofWords ws).hasWildcardPair = false := by
  refine List.any_eq_false.mpr fun pair hpair => ?_
  obtain ⟨w, -, hw⟩ := List.mem_map.mp (List.of_mem_zip hpair).1
  simp [← hw, Slot.isWildcard]

/-- A rule for some words may be stored. -/
theorem check_ofWords (hne : ws ≠ []) (allowPairs : Bool) :
    Address.check ⟨ofWords ws, anything, anything⟩ allowPairs = .ok () := by
  have hpattern : ofWords ws ≠ [] := by simpa [ofWords] using hne
  have hpair : Address.wildcardPair? ⟨ofWords ws, anything, anything⟩ = none := by
    refine List.find?_eq_none.mpr fun s _ => ?_
    cases s with
    | pattern =>
      show ¬ (ofWords ws).hasWildcardPair = true
      rw [hasWildcardPair_ofWords]
      exact Bool.false_ne_true
    | context =>
      show ¬ anything.hasWildcardPair = true
      decide
    | topic =>
      show ¬ anything.hasWildcardPair = true
      decide
  rw [Address.check, if_neg hpattern, hpair]
  split <;> rfl

end Pattern

/-! ## Their derivation -/

namespace Part

/-- A word that stands for itself. -/
def ofWord (w : Word) : Part := ⟨.word w.form, [w]⟩

theorem flatMap_words_map_ofWord (ws : List Word) : (ws.map ofWord).flatMap words = ws := by
  rw [List.flatMap_map]
  exact List.flatMap_singleton' ws

/-- No word that stands for itself is a stretch of a wildcard. -/
theorem spansFrom_map_ofWord (pos : Nat) (ws : List Word) : spansFrom pos (ws.map ofWord) = [] := by
  induction ws generalizing pos with
  | nil => rfl
  | cons w ws ih => exact ih (pos + 1)

/-- **Nothing is preferred to words that stand for themselves,** in whatever way the same words are
laid out. -/
theorem eq_ofWord_of_lex {appetite : Appetite} {ws : List Word} {ps : List Part}
    {xs ys : List Step} (hwhole : ps.flatMap words = ws)
    (h : List.Lex (Step.Before appetite) (ps.map .along ++ .close :: xs)
      ((ws.map ofWord).map .along ++ .close :: ys)) : ps = ws.map ofWord := by
  induction ws generalizing ps with
  | nil =>
    cases ps with
    | nil => rfl
    | cons p ps =>
      -- once the words are used up, nothing comes before closing the segment
      cases h with
      | rel hbefore => cases hbefore
  | cons w ws ih =>
    cases ps with
    | nil => cases hwhole
    | cons p ps =>
      cases h with
      | rel hbefore =>
        cases hbefore with
        | slot hlt => exact absurd hlt (Nat.not_lt_zero _)
        | span hslot hwild _ =>
          rw [hslot] at hwild
          cases hwild
      | cons hrest =>
        have hwhole : ps.flatMap words = ws := (List.cons.inj hwhole).2
        exact congrArg (ofWord w :: ·) (ih hwhole hrest)

end Part

namespace Catalogue.Derivation

variable {α : Type} {cat : Catalogue α} {ws : List Word} {id : Nat} {rule : α}

/-- A rule for some words is laid out word by word, in any context and under any topic. -/
def ofWords (context topic name : List Word)
    (stored : cat[id]? = some (⟨.ofWords ws, .anything, .anything⟩, rule)) :
    cat.Derivation (.ofWords ws context topic) name where
  parts := ⟨ws.map Part.ofWord, [⟨.oneOrMore, Query.orAbsent context⟩],
    [⟨.oneOrMore, Query.orAbsent topic⟩]⟩
  id := id
  rule := rule
  covers := by
    intro s p hp
    cases s with
    | pattern =>
      obtain ⟨w, -, rfl⟩ := List.mem_map.mp hp
      exact .word rfl
    | context =>
      obtain rfl := List.mem_singleton.mp hp
      exact .oneOrMore (Query.orAbsent_ne_nil context)
    | topic =>
      obtain rfl := List.mem_singleton.mp hp
      exact .oneOrMore (Query.orAbsent_ne_nil topic)
  whole := by
    intro s
    cases s with
    | pattern => exact Part.flatMap_words_map_ofWord ws
    | context => exact List.flatMap_singleton _ _
    | topic => exact List.flatMap_singleton _ _
  stored := by
    rw [stored, List.map_map]
    rfl

/-- Where a rule for some words is stored, the derivation that is preferred to all others is of a
rule with the same pattern, perhaps in another context or under another topic. -/
theorem pattern_eq_of_first {context topic name : List Word} {appetite : Appetite}
    (stored : cat[id]? = some (⟨.ofWords ws, .anything, .anything⟩, rule))
    {d : cat.Derivation (.ofWords ws context topic) name}
    (hd : ∀ e, e ≠ d → d.Precedes appetite e) : d.parts.pattern = ws.map Part.ofWord := by
  by_cases hsame : ofWords context topic name stored = d
  · rw [← hsame]
    rfl
  · exact Part.eq_ofWord_of_lex (d.whole .pattern) (hd _ hsame)

end Catalogue.Derivation

/-! ## What is found -/

namespace Trie

variable {α : Type} {t : Trie α} {cat : Catalogue α} {options : MatchOptions}

/-- For words that a rule is stored for, a rule with their pattern is found, whatever else there
is. -/
theorem exists_find?_ofWords (h : Grown options t cat) {ws : List Word} {id : Nat} {rule : α}
    (stored : cat[id]? = some (⟨.ofWords ws, .anything, .anything⟩, rule))
    (context topic name : List Word) :
    ∃ m a, t.find? (.ofWords ws context topic) name = some m ∧ a.pattern = .ofWords ws ∧
      t.idAt? a = some m.id ∧ t.get? m.id = some m.rule ∧ m.bindings.pattern = [] := by
  cases hm : t.find? (.ofWords ws context topic) name with
  | none =>
    have hderivation := Catalogue.Derivation.ofWords context topic name stored
    exact absurd ⟨hderivation⟩ (not_nonempty_of_find? h.ascending h.holds hm)
  | some m =>
    obtain ⟨d, rfl, hd⟩ := exists_first_of_find? h.ascending h.holds hm
    have hpattern := Catalogue.Derivation.pattern_eq_of_first stored hd
    obtain ⟨hid, hrule⟩ := h.holds.getElem?_eq_some.mp d.stored
    refine ⟨d.result, d.address, rfl, ?_, hid, hrule, ?_⟩
    · show d.parts.pattern.map Part.slot = _
      rw [hpattern, List.map_map]
      rfl
    · show Part.spansFrom 0 d.parts.pattern = []
      rw [hpattern, Part.spansFrom_map_ofWord]

/-- **Whatever somebody says can be answered.** By any phrasebook, if a text is read as any words at
all, then the words as they are written are read as the pattern in which each stands for itself. In
any trie that was made by storing rules a rule with this pattern, for any context and any topic, can
be stored in the place of what is there, and from then on, in every context, under every topic and
whatever the name of the bot, what is found for the words is a rule that is stored with this very
pattern, and no word is left to a wildcard of it, whatever else is stored. -/
theorem find?_authored (h : Grown options t cat) (b : Phrasebook) {text : Text}
    (hne : b.read text ≠ []) (rule : α) :
    let ws := b.read text
    Pattern.read (surfacesOf ws) = .ok (.ofWords ws) ∧
      ∃ a p t', Address.read (surfacesOf ws) [] [] = .ok a ∧
        t.insert a rule .overwrite = .ok (p, t') ∧
        ∀ context topic name, ∃ m found,
          t'.find? (.ofWords ws context topic) name = some m ∧ found.pattern = .ofWords ws ∧
          t'.idAt? found = some m.id ∧ t'.get? m.id = some m.rule ∧ m.bindings.pattern = [] := by
  intro ws
  have hread : Pattern.read (surfacesOf ws) = .ok (.ofWords ws) :=
    Pattern.read_surfacesOf fun _ hw => Phrasebook.isRead_of_mem_read hw
  have haddress : Address.read (surfacesOf ws) [] [] =
      .ok ⟨.ofWords ws, .anything, .anything⟩ := by
    rw [Address.read, hread]
    rfl
  obtain ⟨p, t', hinsert⟩ := exists_insert_eq_ok rule (Pattern.check_ofWords hne _)
  obtain ⟨id, hstored⟩ := List.getElem?_of_mem
    (Catalogue.mem_store cat ⟨.ofWords ws, .anything, .anything⟩ rule)
  exact ⟨hread, _, p, t', haddress, hinsert, exists_find?_ofWords (h.insert hinsert) hstored⟩

/-- A rule for the name of the bot. -/
def named : Address := ⟨[.botName], .anything, .anything⟩

/-- A rule for anything at all. -/
def anythingAtAll : Address := ⟨[.zeroOrMore], .anything, .anything⟩

/-- Rules for the name of the bot and for anything at all. -/
def catchAll : Trie Nat :=
  ((empty {}).add named 7).add anythingAtAll 8

/-- The words of the name, as they may be said. -/
def sayName : Text := "bot_name!".toList

/-- The name is found by the rule for it until there is one for its words. -/
theorem find?_authored_catchAll :
    let ws : List Word := (∅ : Phrasebook).read sayName
    ws = [.ofText "bot".toList, .ofText "name".toList] ∧
      (catchAll.find? (.ofWords ws [] []) ws).map Match.rule = some 7 ∧
      ∃ a p t', Address.read "bot name".toList [] [] = .ok a ∧
        catchAll.insert a 9 .overwrite = .ok (p, t') ∧
        ∃ m, t'.find? (.ofWords ws [] []) ws = some m ∧ m.bindings.pattern = [] := by
  intro ws
  have hws : ws = [.ofText "bot".toList, .ofText "name".toList] := by decide +kernel
  have hne : (∅ : Phrasebook).read sayName ≠ [] := by
    show ws ≠ []
    rw [hws]
    simp
  have hnamed : Grown {} ((empty {}).add named 7) [(named, 7)] := Grown.empty.add 7 rfl rfl
  have hgrown : Grown {} catchAll [(named, 7), (anythingAtAll, 8)] := hnamed.add 8 rfl rfl
  obtain ⟨-, a, p, t', hread, hinsert, hfind⟩ := find?_authored hgrown ∅ hne 9
  have hwritten : surfacesOf ws = "bot name".toList := by decide +kernel
  obtain ⟨m, -, hm, -, -, -, hbindings⟩ := hfind [] [] ws
  refine ⟨hws, by decide +kernel, a, p, t', ?_, hinsert, m, hm, hbindings⟩
  rw [← hwritten]
  exact hread

end Trie

end Colloquy
