import Colloquy.Json.Decode
import Colloquy.Trie.Basic

/-!
# Patterns and the ways of matching in documents
-/

namespace Colloquy

namespace Pattern

/-- A pattern as it is written in a document. -/
def toJson (p : Pattern) : Json :=
  .str p.text

/-- The pattern that a document writes. -/
def ofJson? (j : Json) : Option Pattern := do
  (read (← j.asText?)).toOption

end Pattern

namespace Segment

/-- A segment as it is written in a document. -/
def toJson (s : Segment) : Json :=
  .ofString s.name

/-- The segment that a document names. -/
def ofJson? : Json → Option Segment :=
  Json.asName? (all.map fun s => (s.name, s))

end Segment

namespace Appetite

/-- The name of an order of trying. -/
def name : Appetite → String
  | .greedy => "greedy"
  | .lazy => "lazy"

/-- The order of trying that a document names. -/
def ofJson? : Json → Option Appetite :=
  Json.asName? ([greedy, lazy].map fun a => (a.name, a))

end Appetite

namespace Policy

/-- The name of a policy. -/
def name : Policy → String
  | .overwrite => "overwrite"
  | .reject => "reject"

/-- The policy that a document names. -/
def ofJson? : Json → Option Policy :=
  Json.asName? ([overwrite, reject].map fun p => (p.name, p))

end Policy

namespace MatchOptions

/-- Options as they are written in a document. -/
def toJson (o : MatchOptions) : Json :=
  .record [("consumption", .ofString o.appetite.name),
    ("adjacent_wildcards", .bool o.wildcardPairs)]

/-- The options that a document writes. -/
def ofJson? (j : Json) : Option MatchOptions := do
  let fs ← j.fields? ["consumption", "adjacent_wildcards"]
  return {
    appetite := ← fs.withDefault "consumption" Appetite.ofJson? .greedy
    wildcardPairs := ← fs.withDefault "adjacent_wildcards" Json.asBool? false }

end MatchOptions

end Colloquy
