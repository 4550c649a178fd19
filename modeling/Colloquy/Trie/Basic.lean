import Colloquy.Pattern.Address

/-!
# The trie of rules

Rules are stored in a trie: the slots of an address, with a separator between its segments, lead
from the root to the node that holds the rule. Nodes and rules are numbered in the order in which
they were made, and a child is always made after its parent.
-/

namespace Colloquy

/-- A step from a node to a child. -/
inductive Edge where
  /-- Over a slot of a segment. -/
  | slot (s : Slot)
  /-- From a segment to the next. -/
  | separator
  deriving DecidableEq, Repr

/-- The steps that lead to a rule at an address. -/
def Address.edges (a : Address) : List Edge :=
  a.pattern.map .slot ++ .separator :: (a.context.map .slot ++ .separator :: a.topic.map .slot)

/-- A node of the trie. -/
structure Node where
  /-- The numbers of the children. -/
  children : List (Edge × Nat) := []
  /-- The number of the rule that is stored here. -/
  rule? : Option Nat := none
  deriving DecidableEq, Repr, Inhabited

/-- The child over an edge. -/
def Node.child? (n : Node) (e : Edge) : Option Nat :=
  n.children.lookup e

/-- The order in which a wildcard tries the stretches it may stand for. -/
inductive Appetite where
  /-- The longest first. -/
  | greedy
  /-- The shortest first. -/
  | lazy
  deriving DecidableEq, Repr

/-- How a trie takes in addresses and matches them. -/
structure MatchOptions where
  appetite : Appetite := .greedy
  /-- Whether a pattern may have two wildcards in a row. -/
  wildcardPairs : Bool := false
  deriving DecidableEq, Repr

/-- What happens to a rule when another comes to its address. -/
inductive Policy where
  /-- The later rule replaces it. -/
  | overwrite
  /-- The later rule is refused. -/
  | reject
  deriving DecidableEq, Repr

/-- What became of a rule that was taken in, with its number. -/
inductive Placement where
  /-- It is the first rule at its address. -/
  | fresh (id : Nat)
  /-- It has the number of the rule it replaces. -/
  | replacing (id : Nat)
  deriving DecidableEq, Repr

/-- The number of a rule that was taken in. -/
def Placement.id : Placement → Nat
  | .fresh id | .replacing id => id

/-- Rules by their addresses. The node with the number 0 is the root. -/
structure Trie (α : Type) where
  options : MatchOptions
  nodes : Array Node
  rules : Array α

namespace Trie

variable {α : Type}

/-- A trie with no rules. -/
def empty (options : MatchOptions) : Trie α := ⟨options, #[{}], #[]⟩

/-- The number of rules. -/
def size (t : Trie α) : Nat := t.rules.size

/-- No rules at all. -/
def isEmpty (t : Trie α) : Bool := t.rules.isEmpty

/-- The number of nodes, with the root. -/
def nodeCount (t : Trie α) : Nat := t.nodes.size

/-- The node with the given number. -/
def node (t : Trie α) (i : Nat) : Node := t.nodes.getD i {}

/-- The rule with the given number. -/
def get? (t : Trie α) (id : Nat) : Option α := t.rules[id]?

/-- The node to which some edges lead from another. -/
def walk? (t : Trie α) (i : Nat) : List Edge → Option Nat
  | [] => some i
  | e :: es => ((t.node i).child? e).bind fun j => t.walk? j es

/-- The number of the rule at an address. -/
def idAt? (t : Trie α) (a : Address) : Option Nat :=
  (t.walk? 0 a.edges).bind fun i => (t.node i).rule?

/-- The rule at an address. -/
def at? (t : Trie α) (a : Address) : Option α :=
  (t.idAt? a).bind t.get?

/-- Nodes with the way that some edges lead from node `i` laid out, and the node at its end. -/
def extend (nodes : Array Node) (i : Nat) : List Edge → Array Node × Nat
  | [] => (nodes, i)
  | e :: es =>
    match (nodes.getD i {}).child? e with
    | some j => extend nodes j es
    | none =>
      let j := nodes.size
      let nodes := nodes.modify i fun n => { n with children := (e, j) :: n.children }
      extend (nodes.push {}) j es

/-- A rule at an address where there was none. -/
def add (t : Trie α) (a : Address) (rule : α) : Trie α :=
  let (nodes, i) := extend t.nodes 0 a.edges
  { t with
    nodes := nodes.modify i fun n => { n with rule? := some t.rules.size }
    rules := t.rules.push rule }

/-- Store a rule at an address. When it is refused, the trie stays as it was. -/
def insert (t : Trie α) (a : Address) (rule : α) (policy : Policy) :
    Except AddressError (Placement × Trie α) := do
  a.check t.options.wildcardPairs
  match t.idAt? a, policy with
  | some _, .reject => .error (.occupied a)
  | some id, .overwrite =>
    .ok (.replacing id, { t with rules := t.rules.setIfInBounds id rule })
  | none, _ => .ok (.fresh t.rules.size, t.add a rule)

end Trie

end Colloquy
