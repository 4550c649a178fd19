import Colloquy.Trie.Basic
import Colloquy.Trie.Query
import Std.Data.TreeSet

/-!
# Finding the rule for a query

The words of a query are followed through the trie, segment by segment. At a node a word that stands
for itself is preferred to the name of the bot, that to a wildcard for one or more words, and that
to a wildcard for any number of words. Once a segment is used up, going on to the next comes before
a wildcard that stands for no word. The search is depth first: it takes the first way that leads to
a rule, and gives up a state for good once no way leads on from it.
-/

namespace Colloquy

/-- Where a search stands: at a node, before the word number `pos` of a segment. -/
structure State where
  node : Nat
  segment : Segment
  pos : Nat
  deriving DecidableEq, Repr

namespace State

/-- States in order: by node, position and segment. -/
@[inline] def order (s r : State) : Ordering :=
  (compare s.node r.node).then
    ((compare s.pos r.pos).then (compare s.segment.rank r.segment.rank))

instance : Std.TransCmp order :=
  inferInstanceAs (Std.TransCmp (compareLex (compareOn State.node)
    (compareLex (compareOn State.pos) (compareOn fun s => s.segment.rank))))

instance : Std.LawfulEqCmp order where
  compare_self := by
    intro s
    simp [order]
  eq_of_compare := by
    rintro ⟨n, r, p⟩ ⟨m, s, q⟩ h
    simp [order] at h
    cases r <;> cases s <;> simp_all [Segment.rank]

end State

/-- A way on from a state: the edge it takes, with the stretch that a wildcard stands for on it. -/
structure Move where
  edge : Edge
  span? : Option Span := none
  target : State
  deriving DecidableEq, Repr

/-- A rule that was found, and what its wildcards stand for. -/
structure Found where
  id : Nat
  bindings : Bindings
  deriving DecidableEq, Repr

/-- What a search has seen. -/
structure Trail where
  /-- The states from which no way leads to a rule. -/
  givenUp : Std.TreeSet State State.order := ∅
  /-- The states that were looked into, the latest first. -/
  entered : List State := []

namespace Trie

variable {α : Type} (t : Trie α) (q : Query) (name : List Word)

/-! ## The ways on from a state -/

/-- The numbers of words that a wildcard may stand for, in the order in which they are tried. -/
def spanLengths (least remaining : Nat) : List Nat :=
  let lengths := List.range' least (remaining + 1 - least)
  match t.options.appetite with
  | .greedy => lengths.reverse
  | .lazy => lengths

/-- Over a word that stands for itself. -/
def wordMoves (s : State) : List Move :=
  match (q.get s.segment)[s.pos]? with
  | none => []
  | some w =>
    match (t.node s.node).child? (.slot (.word w.form)) with
    | none => []
    | some i => [{ edge := .slot (.word w.form), target := ⟨i, s.segment, s.pos + 1⟩ }]

/-- The name of the bot, unless it is empty, stands at a position among some words. -/
def nameAt (ws : List Word) (pos : Nat) : Bool :=
  name ≠ [] && (name.map Word.form).isPrefixOf ((ws.drop pos).map Word.form)

/-- Over the name of the bot. -/
def botNameMoves (s : State) : List Move :=
  match (t.node s.node).child? (.slot .botName) with
  | none => []
  | some i =>
    if nameAt name (q.get s.segment) s.pos then
      [{ edge := .slot .botName, target := ⟨i, s.segment, s.pos + name.length⟩ }]
    else []

/-- Over a wildcard that stands for at least so many words. -/
def wildcardMoves (slot : Slot) (least : Nat) (s : State) : List Move :=
  match (t.node s.node).child? (.slot slot) with
  | none => []
  | some i =>
    (t.spanLengths least ((q.get s.segment).length - s.pos)).map fun n =>
      { edge := .slot slot, span? := some ⟨s.pos, s.pos + n⟩
        target := ⟨i, s.segment, s.pos + n⟩ }

/-- On to the next segment. -/
def separatorMoves (s : State) : List Move :=
  match s.segment.next?, (t.node s.node).child? .separator with
  | some next, some i => [{ edge := .separator, target := ⟨i, next, 0⟩ }]
  | _, _ => []

/-- The words of the segment are used up. -/
def isAtEnd (s : State) : Bool :=
  s.pos = (q.get s.segment).length

/-- All ways on from a state, in the order in which they are tried. -/
def moves (s : State) : List Move :=
  if isAtEnd q s then t.separatorMoves s ++ t.wildcardMoves q .zeroOrMore 0 s
  else t.wordMoves q s ++ t.botNameMoves q name s ++ t.wildcardMoves q .oneOrMore 1 s
    ++ t.wildcardMoves q .zeroOrMore 0 s

/-- The rule at which a state ends the search: all segments are used up. -/
def ruleAt? (s : State) : Option Nat :=
  if isAtEnd q s ∧ s.segment = .topic then (t.node s.node).rule? else none

end Trie

/-! ## The search -/

/-- The rule found behind a move, with the stretch of the move before the others. -/
def Found.after (s : State) (m : Move) (f : Found) : Found :=
  match m.span? with
  | none => f
  | some r => { f with bindings := f.bindings.cons s.segment r }

/-- It has the number it was found with. -/
@[simp] theorem Found.id_after (s : State) (m : Move) (f : Found) : (f.after s m).id = f.id := by
  unfold after
  split <;> rfl

/-- The first of several moves behind which `search` finds a rule. -/
def firstFound (search : State → Trail → Option Found × Trail) (s : State) :
    List Move → Trail → Option Found × Trail
  | [], trail => (none, trail)
  | m :: ms, trail =>
    match search m.target trail with
    | (some f, trail) => (some (f.after s m), trail)
    | (none, trail) => firstFound search s ms trail

namespace Trie

variable {α : Type} (t : Trie α) (q : Query) (name : List Word)

/-- Search from a state over at most `depth` nodes. A state that was given up is not looked into
again. -/
def search : (depth : Nat) → State → Trail → Option Found × Trail
  | 0, _, trail => (none, trail)
  | depth + 1, s, trail =>
    if s ∈ trail.givenUp then (none, trail)
    else
      let trail := { trail with entered := s :: trail.entered }
      match t.ruleAt? q s with
      | some id => (some ⟨id, .none⟩, trail)
      | none =>
        match firstFound (search depth) s (t.moves q name s) trail with
        | (some f, trail) => (some f, trail)
        | (none, trail) => (none, { trail with givenUp := trail.givenUp.insert s })

/-- Where every search begins. -/
def start : State := ⟨0, .pattern, 0⟩

/-- Search from the root. A child has a greater number than its parent, so no way is longer than
there are nodes. -/
def searchFromRoot : Option Found × Trail :=
  t.search q name t.nodeCount start {}

/-- A rule that matches a query. -/
structure Match (α : Type) where
  id : Nat
  rule : α
  bindings : Bindings

/-- The rule for a query. -/
def find? : Option (Match α) := do
  let f ← (t.searchFromRoot q name).1
  let rule ← t.get? f.id
  return ⟨f.id, rule, f.bindings⟩

end Trie

end Colloquy
