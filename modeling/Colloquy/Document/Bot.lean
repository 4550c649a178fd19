import Colloquy.Bot.Basic
import Colloquy.Document.Pattern
import Colloquy.Document.Template
import Colloquy.Json.Reader

/-!
# Settings, rules and answers in documents
-/

namespace Colloquy

namespace Settings

/-- Settings as they are written in a document. -/
def toJson (s : Settings) : Json :=
  .record [("recursion_limit", .ofNat s.recursionLimit),
    ("reduction_limit", .ofNat s.reductionLimit),
    ("default_predicate_value", .str s.defaultPredicate),
    ("duplicate_rule_policy", .ofString s.policy.name),
    ("wildcard_consumption", .ofString s.appetite.name),
    ("adjacent_wildcards", .bool s.wildcardPairs),
    ("set_renders_value", .bool s.setRendersValue), ("history_limit", .ofNat s.historyLimit),
    ("recursion_fallback", .str s.fallback),
    ("seed", .ofOption (fun w => .ofNat w.toNat) s.seed?), ("version", .str s.version)]

/-- The settings that a document writes; whatever is left out is as in a bot without settings. -/
def ofJson? (j : Json) : Option Settings := do
  let fs ← j.fields? ["recursion_limit", "reduction_limit", "default_predicate_value",
    "duplicate_rule_policy", "wildcard_consumption", "adjacent_wildcards", "set_renders_value",
    "history_limit", "recursion_fallback", "seed", "version"]
  let d : Settings := {}
  return {
    recursionLimit := ← fs.withDefault "recursion_limit" Json.asNat64? d.recursionLimit
    reductionLimit := ← fs.withDefault "reduction_limit" Json.asNat64? d.reductionLimit
    defaultPredicate := ← fs.withDefault "default_predicate_value" Json.asText? d.defaultPredicate
    policy := ← fs.withDefault "duplicate_rule_policy" Policy.ofJson? d.policy
    appetite := ← fs.withDefault "wildcard_consumption" Appetite.ofJson? d.appetite
    wildcardPairs := ← fs.withDefault "adjacent_wildcards" Json.asBool? d.wildcardPairs
    setRendersValue := ← fs.withDefault "set_renders_value" Json.asBool? d.setRendersValue
    historyLimit := ← fs.withDefault "history_limit" Json.asNat64? d.historyLimit
    fallback := ← fs.withDefault "recursion_fallback" Json.asText? d.fallback
    seed? := ← fs.withDefault "seed" (Json.asOption? Json.asUInt64?) d.seed?
    version := ← fs.withDefault "version" Json.asText? d.version }

/-- The settings that the text of a document writes. -/
def read? (t : Text) : Option Settings :=
  (Json.readDocument? t).bind ofJson?

end Settings

namespace Rule

/-- A rule as it is written in a document. -/
def toJson (r : Rule) : Json :=
  .record [("pattern", r.pattern.toJson), ("context", r.context.toJson),
    ("topic", r.topic.toJson), ("template", r.template.toJson)]

/-- The rule that a document writes. -/
def ofJson? (j : Json) : Option Rule := do
  let fs ← j.fields? ["pattern", "context", "topic", "template"]
  return {
    pattern := ← fs.required "pattern" Pattern.ofJson?
    context := ← fs.withDefault "context" Pattern.ofJson? []
    topic := ← fs.withDefault "topic" Pattern.ofJson? []
    template := ← fs.required "template" Template.ofJson? }

/-- The rules that the text of a document writes. -/
def readAll? (t : Text) : Option (List Rule) :=
  (Json.readDocument? t).bind (Json.asList? ofJson?)

end Rule

namespace Notice

/-- A notice as it is written in a document. -/
def toJson : Notice → Json
  | .noMatch input => .record [("kind", .ofString "no_match"), ("input", .str input)]
  | .recursionLimit input limit =>
    .record [("kind", .ofString "recursion_limit_exceeded"), ("input", .str input),
      ("limit", .ofNat limit)]
  | .reductionLimit input limit =>
    .record [("kind", .ofString "reduction_limit_exceeded"), ("input", .str input),
      ("limit", .ofNat limit)]

end Notice

namespace Answer

/-- An answer as it is written in a document. -/
def toJson (r : Answer) : Json :=
  .record [("text", .str r.text), ("diagnostics", .ofList Notice.toJson r.notices)]

end Answer

end Colloquy
