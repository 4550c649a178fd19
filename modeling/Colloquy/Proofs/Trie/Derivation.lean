import Colloquy.Proofs.Trie.Growth
import Colloquy.Trie.Search

/-!
# Derivations: the ways in which rules match a query

What it means for a rule to match is said here without any search, and without any trie. A
derivation lays the words of a query out over the slots of an address, one stretch of words after
the other, and derivations of all rules are compared with each other at the first place where they
differ.

* `Slot.Covers` — which stretches of words a slot stands for.
* `Catalogue.Derivation` — the address of a rule, with a stretch for each of its slots.
* `Derivation.Precedes` — the order in which derivations are preferred.
-/

namespace Colloquy

/-- Which stretches of words a slot stands for, in a bot with the given name. -/
inductive Slot.Covers (name : List Word) : Slot → List Word → Prop where
  /-- A word that is compared by the same form. -/
  | word {form : Text} {w : Word} (hform : w.form = form) : Covers name (.word form) [w]
  /-- The name of the bot, if it has one. -/
  | botName {ws : List Word} (hname : name ≠ []) (hforms : ws.map Word.form = name.map Word.form) :
      Covers name .botName ws
  /-- One or more words. -/
  | oneOrMore {ws : List Word} (hws : ws ≠ []) : Covers name .oneOrMore ws
  /-- Any number of words. -/
  | zeroOrMore (ws : List Word) : Covers name .zeroOrMore ws

/-- A slot with the words it stands for. -/
@[ext] structure Part where
  slot : Slot
  words : List Word
  deriving DecidableEq

namespace Part

/-- The stretches of the wildcards among some parts, which begin at the word number `pos`. -/
def spansFrom (pos : Nat) : List Part → List Span
  | [] => []
  | p :: ps =>
    (if p.slot.isWildcard then [⟨pos, pos + p.words.length⟩] else []) ++
      spansFrom (pos + p.words.length) ps

end Part

/-! ## Steps and their order -/

/-- A step of a derivation: on over a slot, or out of a segment that is used up, which leads to the
next segment or, out of the last, to the rule. -/
inductive Step where
  | along (p : Part)
  | close
  deriving DecidableEq

/-- The place of a slot in the order in which the slots at a node are tried. -/
def Slot.rank : Slot → Nat
  | .word _ => 0
  | .botName => 1
  | .oneOrMore => 2
  | .zeroOrMore => 3

/-- The number of words that a wildcard tries first. -/
def Appetite.Before : Appetite → Nat → Nat → Prop
  | .greedy, m, n => n < m
  | .lazy, m, n => m < n

/-- Which of two steps from one and the same place is preferred. As long as there are words, a
segment cannot be closed; once there are none, all that can be done besides closing it is to go on
over a wildcard for no word. -/
inductive Step.Before (appetite : Appetite) : Step → Step → Prop where
  /-- A segment that is used up is closed first. -/
  | close (p : Part) : Before appetite .close (.along p)
  /-- Of two kinds of slots one comes first. -/
  | slot {p r : Part} (h : p.slot.rank < r.slot.rank) : Before appetite (.along p) (.along r)
  /-- Of two stretches for one wildcard the appetite tells which comes first. -/
  | span {p r : Part} (hslot : p.slot = r.slot) (hwild : p.slot.isWildcard)
      (h : appetite.Before p.words.length r.words.length) : Before appetite (.along p) (.along r)

/-- Of two steps at most one is preferred to the other. -/
theorem Step.Before.asymm {appetite : Appetite} {a b : Step} (h : Before appetite a b) :
    ¬ Before appetite b a := by
  intro h'
  cases h with
  | close p => cases h'
  | slot hlt =>
    cases h' with
    | slot hgt => omega
    | span hslot _ _ => rw [hslot] at hlt; omega
  | span hslot _ hbefore =>
    cases h' with
    | slot hgt => rw [hslot] at hgt; omega
    | span _ _ hafter =>
      cases appetite <;> simp only [Appetite.Before] at hbefore hafter <;> omega

/-! ## Derivations -/

namespace Catalogue

variable {α : Type}

/-- A way in which a rule of a catalogue matches a query: the slots of its address stand, in order,
for stretches of words that make up the segments of the query. -/
@[ext] structure Derivation (cat : Catalogue α) (q : Query) (name : List Word) where
  parts : Segmented (List Part)
  id : Nat
  rule : α
  /-- Every slot stands for the words it is given. -/
  covers : ∀ s, ∀ p ∈ parts.get s, p.slot.Covers name p.words
  /-- Together these words are the whole segment. -/
  whole : ∀ s, (parts.get s).flatMap Part.words = q.get s
  /-- The rule is stored at the address that the slots make up. -/
  stored : cat[id]? = some (⟨parts.pattern.map Part.slot, parts.context.map Part.slot,
    parts.topic.map Part.slot⟩, rule)

namespace Derivation

variable {cat : Catalogue α} {q : Query} {name : List Word}

/-- The steps of a derivation: over the slots of a segment, then out of the segment. -/
def steps (d : cat.Derivation q name) : List Step :=
  d.parts.pattern.map .along ++ .close ::
    (d.parts.context.map .along ++ .close :: (d.parts.topic.map .along ++ [.close]))

/-- What the wildcards of a rule stand for in a derivation. -/
def bindings (d : cat.Derivation q name) : Bindings :=
  ⟨Part.spansFrom 0 d.parts.pattern, Part.spansFrom 0 d.parts.context,
    Part.spansFrom 0 d.parts.topic⟩

/-- The match that a derivation shows. -/
def result (d : cat.Derivation q name) : Trie.Match α :=
  ⟨d.id, d.rule, d.bindings⟩

/-- The preferred of two derivations takes the preferred step where they differ first. -/
def Precedes (appetite : Appetite) (d e : cat.Derivation q name) : Prop :=
  List.Lex (Step.Before appetite) d.steps e.steps

/-- Of two derivations at most one is preferred to the other. -/
theorem Precedes.asymm {appetite : Appetite} {d e : cat.Derivation q name}
    (h : d.Precedes appetite e) : ¬ e.Precedes appetite d :=
  List.lex_asymm Step.Before.asymm h

end Derivation

end Catalogue

end Colloquy
