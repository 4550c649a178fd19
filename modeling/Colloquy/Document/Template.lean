import Colloquy.Document.Pattern
import Colloquy.Template.Basic

/-!
# Templates in documents

A template is an object with one member, named for the kind of the template, or just the name of a
kind that holds nothing.
-/

namespace Colloquy

/-! ## Shapes and swaps -/

namespace Shape

/-- The name of a shape. -/
def name : Shape → String
  | .upper => "upper"
  | .lower => "lower"
  | .sentence => "sentence"
  | .formal => "formal"

/-- The shape that a document names. -/
def ofJson? : Json → Option Shape :=
  Json.asName? ([upper, lower, sentence, formal].map fun s => (s.name, s))

end Shape

namespace Swap

/-- The name of a swap. -/
def name : Swap → String
  | .person => "person"
  | .person2 => "person2"
  | .gender => "gender"

/-- The swap that a document names. -/
def ofJson? : Json → Option Swap :=
  Json.asName? ([person, person2, gender].map fun s => (s.name, s))

end Swap

namespace Template

/-! ## Writing -/

/-- An object with one member. -/
def tagged (kind : String) (content : Json) : Json :=
  .record [(kind, content)]

/-- A name that may be left out, as a member. -/
def nameMember (name? : Option Text) : List (String × Json) :=
  match name? with
  | none => []
  | some name => [("name", .str name)]

/-- The number of a wildcard or of an exchange. -/
def indexJson (index : UInt64) : Json := .ofNat index.toNat

mutual

/-- A template as it is written in a document. -/
def toJson : Template → Json
  | text t => tagged "text" (.str t)
  | literal t => tagged "literal" (.str t)
  | sequence children => tagged "sequence" (.arr (toJsonAll children))
  | random children => tagged "random" (.arr (toJsonAll children))
  | condition name? branches otherwise? =>
    tagged "condition" (.record (nameMember name? ++
      [("branches", .arr (toJsonBranches branches))] ++ toJsonOptional otherwise?))
  | reduce body => tagged "reduce" (toJson body)
  | set name value => tagged "set" (.record [("name", .str name), ("value", toJson value)])
  | get name => tagged "get" (.record [("name", .str name)])
  | wildcard segment index =>
    tagged "wildcard" (.record [("segment", segment.toJson), ("index", indexJson index)])
  | think body => tagged "think" (toJson body)
  | shaped shape body =>
    tagged "case" (.record [("shape", .ofString shape.name), ("body", toJson body)])
  | swapped swap body =>
    tagged "person" (.record [("shape", .ofString swap.name), ("body", toJson body)])
  | property name => tagged "bot" (.record [("name", .str name)])
  | input index => tagged "input" (.record [("index", indexJson index)])
  | reply index => tagged "that" (.record [("index", indexJson index)])
  | sessionId => .ofString "id"
  | ruleCount => .ofString "size"
  | version => .ofString "version"
  | date => .ofString "date"

/-- Several templates as they are written in a document. -/
def toJsonAll : List Template → List Json
  | [] => []
  | t :: ts => toJson t :: toJsonAll ts

/-- The branches of a condition as they are written in a document. -/
def toJsonBranches : List (Branch Template) → List Json
  | [] => []
  | ⟨name?, value, body⟩ :: bs =>
    .record (nameMember name? ++ [("value", .str value), ("body", toJson body)]) ::
      toJsonBranches bs

/-- The template for all other cases, as a member. -/
def toJsonOptional : Option Template → List (String × Json)
  | none => []
  | some t => [("default", toJson t)]

end

/-! ## Reading -/

/-- The branch of a condition, with `inner` to read its template. -/
def branchOfJson? (inner : Json → Option Template) (j : Json) : Option (Branch Template) := do
  let fs ← j.fields? ["name", "value", "body"]
  return {
    name? := ← fs.withDefault "name" (Json.asOption? Json.asText?) none
    value := ← fs.required "value" Json.asText?
    body := ← fs.required "body" inner }

/-- The template of a kind, from what it holds and with `inner` to read the templates inside. -/
def ofContent? (inner : Json → Option Template) (kind : String) (content : Json) :
    Option Template :=
  match kind with
  | "text" => content.asText?.map text
  | "literal" => content.asText?.map literal
  | "sequence" => (content.asList? inner).map sequence
  | "random" => (content.asList? inner).map random
  | "condition" => do
    let fs ← content.fields? ["name", "branches", "default"]
    return condition
      (← fs.withDefault "name" (Json.asOption? Json.asText?) none)
      (← fs.withDefault "branches" (Json.asList? (branchOfJson? inner)) [])
      (← fs.withDefault "default" (Json.asOption? inner) none)
  | "reduce" => (inner content).map reduce
  | "set" => do
    let fs ← content.fields? ["name", "value"]
    return set (← fs.required "name" Json.asText?) (← fs.required "value" inner)
  | "get" => do
    let fs ← content.fields? ["name"]
    return get (← fs.required "name" Json.asText?)
  | "wildcard" => do
    let fs ← content.fields? ["segment", "index"]
    return wildcard (← fs.required "segment" Segment.ofJson?)
      (← fs.withDefault "index" Json.asUInt64? 1)
  | "think" => (inner content).map think
  | "case" => do
    let fs ← content.fields? ["shape", "body"]
    return shaped (← fs.required "shape" Shape.ofJson?) (← fs.required "body" inner)
  | "person" => do
    let fs ← content.fields? ["shape", "body"]
    return swapped (← fs.required "shape" Swap.ofJson?) (← fs.required "body" inner)
  | "bot" => do
    let fs ← content.fields? ["name"]
    return property (← fs.required "name" Json.asText?)
  | "input" => do
    let fs ← content.fields? ["index"]
    return input (← fs.withDefault "index" Json.asUInt64? 1)
  | "that" => do
    let fs ← content.fields? ["index"]
    return reply (← fs.withDefault "index" Json.asUInt64? 1)
  | "id" => content.asNull?.map fun _ => sessionId
  | "size" => content.asNull?.map fun _ => ruleCount
  | "version" => content.asNull?.map fun _ => version
  | "date" => content.asNull?.map fun _ => date
  | _ => none

/-- The template that a document writes, looking no deeper than `depth` templates. -/
def ofJsonWithin? : (depth : Nat) → Json → Option Template
  | 0, _ => none
  | depth + 1, j => do
    let (kind, content) ← j.variant?
    ofContent? (ofJsonWithin? depth) (String.ofList kind) content

/-- The template that a document writes. A template inside another is nested more deeply in the
document, so the depth of the document bounds that of the template. -/
def ofJson? (j : Json) : Option Template :=
  ofJsonWithin? (j.depth + 1) j

end Template

end Colloquy
