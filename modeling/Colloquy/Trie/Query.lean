import Colloquy.Pattern.Segment
import Colloquy.Word

/-!
# Queries and what their wildcards stand for
-/

namespace Colloquy

/-- What is looked up: the words of the input, of the context and of the topic. -/
abbrev Query := Segmented (List Word)

namespace Query

/-- The word that stands for a context or topic that is not there. -/
def absent : Word := Word.ofText "UNDEFINED".toList

/-- The words, or the word for what is not there in the place of none. -/
def orAbsent (ws : List Word) : List Word :=
  if ws = [] then [absent] else ws

theorem orAbsent_ne_nil (ws : List Word) : orAbsent ws ≠ [] := by
  unfold orAbsent
  split
  · simp
  · assumption

/-- The query for an input in a context and under a topic. -/
def ofWords (pattern context topic : List Word) : Query :=
  ⟨pattern, orAbsent context, orAbsent topic⟩

/-- A query as it is written. -/
def text (q : Query) : Text :=
  q.line formsOf

end Query

/-- A stretch of the words of a segment: from the word number `start` up to, and without, the word
number `stop`. -/
structure Span where
  start : Nat
  stop : Nat
  deriving DecidableEq, Repr

/-- The words of a stretch, if the segment reaches that far. -/
def Span.words? (r : Span) (ws : List Word) : Option (List Word) :=
  if r.start ≤ r.stop ∧ r.stop ≤ ws.length then some ((ws.take r.stop).drop r.start) else none

/-- For every segment the stretches that its wildcards stand for, in order. -/
abbrev Bindings := Segmented (List Span)

namespace Bindings

/-- No wildcards. -/
def none : Bindings := Segmented.replicate []

/-- A wildcard of a segment before the others. -/
def cons (s : Segment) (r : Span) (c : Bindings) : Bindings :=
  c.modify (r :: ·) s

/-- The stretch of the wildcard with the given number, counted from one. -/
def span? (c : Bindings) (s : Segment) : Nat → Option Span
  | 0 => .none
  | n + 1 => (c.get s)[n]?

/-- The words of the wildcard with the given number, counted from one. -/
def words? (c : Bindings) (q : Query) (s : Segment) (n : Nat) : Option (List Word) :=
  (c.span? s n).bind fun r => r.words? (q.get s)

/-- The text of the wildcard with the given number as it was written, empty if there is no such
wildcard. -/
def textOf (c : Bindings) (q : Query) (s : Segment) (n : Nat) : Text :=
  ((c.words? q s n).map surfacesOf).getD []

end Bindings

end Colloquy
