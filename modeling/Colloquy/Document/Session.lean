import Colloquy.Json.Decode
import Colloquy.Session.Basic

/-!
# Conversations in documents
-/

namespace Colloquy

namespace Turn

/-- An exchange as it is written in a document. -/
def toJson (e : Turn) : Json :=
  .record [("input", .str e.input), ("response", .str e.reply)]

/-- The exchange that a document writes. -/
def ofJson? (j : Json) : Option Turn := do
  let fs ← j.fields? ["input", "response"]
  return ⟨← fs.required "input" Json.asText?, ← fs.required "response" Json.asText?⟩

end Turn

namespace Session

/-- A conversation as it is written in a document. -/
def toJson (s : Session) : Json :=
  .record [("id", .str s.id),
    ("predicates", .obj (s.predicates.entries.map fun p => (p.1, .str p.2))),
    ("history", .ofList Turn.toJson s.history), ("history_limit", .ofNat s.limit)]

/-- The conversation that a document writes. -/
def ofJson? (j : Json) : Option Session := do
  let fs ← j.fields? ["id", "predicates", "history", "history_limit"]
  return {
    id := ← fs.required "id" Json.asText?
    predicates := Dict.ofList (← fs.required "predicates" Json.asTextPairs?)
    history := ← fs.required "history" (Json.asList? Turn.ofJson?)
    limit := ← fs.required "history_limit" Json.asNat64? }

end Session

end Colloquy
