import Colloquy.Document.Template
import Colloquy.Proofs.Template.Nodes

/-!
# Templates that are written and read again

A template is written as a document that has the documents of its children inside it, and a reader
that reads these reads the template. So every template is read again from what is written for it,
however deeply it is nested, and no two templates are written alike.

* `Json.fields?_record`, `Json.Fields.get?_ofRecord` — a record has the fields it was made of.
* `Template.ofContent?_toJson` — one node is read, if its children are.
* `Template.depth_toJson_lt` — children are nested less deeply than the node they belong to.
* `Template.toJson_round_trip` — every template is read again.
-/

namespace Colloquy

/-! ## Records that are written -/

namespace Json

/-- The fields of a record, by the text of their names. -/
def Fields.ofRecord (fs : List (String × Json)) : Fields :=
  fs.map fun f => (f.1.toList, f.2)

theorem Fields.get?_ofRecord (fs : List (String × Json)) (name : String) :
    (Fields.ofRecord fs).get? name = fs.lookup name := by
  induction fs with
  | nil => rfl
  | cons f fs ih =>
    obtain ⟨other, j⟩ := f
    show List.lookup name.toList ((other.toList, j) :: Fields.ofRecord fs) = _
    rw [List.lookup_cons, List.lookup_cons, ← ih]
    by_cases h : name = other
    · simp [h]
    · have htexts : (name.toList == other.toList) = false := by simpa [String.toList_inj] using h
      have hnames : (name == other) = false := by simpa using h
      rw [htexts, hnames]
      rfl

@[simp] theorem Fields.required_ofRecord {α : Type} (fs : List (String × Json)) (name : String)
    (f : Json → Option α) : (Fields.ofRecord fs).required name f = (fs.lookup name).bind f := by
  rw [required, get?_ofRecord]

@[simp] theorem Fields.withDefault_ofRecord {α : Type} (fs : List (String × Json)) (name : String)
    (f : Json → Option α) (default : α) :
    (Fields.ofRecord fs).withDefault name f default =
      ((fs.lookup name).map f).getD (some default) := by
  rw [withDefault, get?_ofRecord]
  cases fs.lookup name <;> rfl

/-- **A record has the fields that it was made of,** if no two of them have one name. -/
theorem fields?_record {fs : List (String × Json)} (h : (fs.map Prod.fst).Nodup)
    (names : List String) : (record fs).fields? names = some (Fields.ofRecord fs) := by
  have honce (name : String) : repeats (Fields.ofRecord fs) name = false := by
    have hcount : ((Fields.ofRecord fs).filter fun m => m.1 = name.toList).length =
        (fs.map Prod.fst).count name := by
      rw [Fields.ofRecord, ← List.countP_eq_length_filter, List.countP_map, List.count,
        List.countP_map]
      refine List.countP_congr fun f _ => ?_
      simp [String.toList_inj]
    rw [repeats, hcount]
    simpa using List.nodup_iff_count.mp h name
  have hnone : names.any (repeats (Fields.ofRecord fs)) = false := by
    simpa using fun name _ => honce name
  show (if names.any (repeats (Fields.ofRecord fs)) then none else _) = _
  rw [hnone]
  rfl

/-- Things are read again from the array that is written for them, if each of them is. -/
theorem asList?_arr_map {α : Type} {f : α → Json} {g : Json → Option α} {xs : List α}
    (h : ∀ x ∈ xs, g (f x) = some x) : asList? g (arr (xs.map f)) = some xs := by
  induction xs with
  | nil => rfl
  | cons x xs ih =>
    obtain ⟨hx, hxs⟩ := List.forall_mem_cons.mp h
    have htail : (xs.map f).mapM g = some xs := ih hxs
    show (f x :: xs.map f).mapM g = _
    rw [List.mapM_cons, hx, htail]
    rfl

theorem depth_le_depthItems {j : Json} {items : List Json} (h : j ∈ items) :
    j.depth ≤ depthItems items := by
  induction items with
  | nil => cases h
  | cons i items ih =>
    rw [depthItems]
    rcases List.mem_cons.mp h with rfl | h
    · exact Nat.le_max_left _ _
    · exact Nat.le_trans (ih h) (Nat.le_max_right _ _)

theorem depth_le_depthMembers {m : Text × Json} {members : List (Text × Json)}
    (h : m ∈ members) : m.2.depth ≤ depthMembers members := by
  induction members with
  | nil => cases h
  | cons n members ih =>
    rw [depthMembers]
    rcases List.mem_cons.mp h with rfl | h
    · exact Nat.le_max_left _ _
    · exact Nat.le_trans (ih h) (Nat.le_max_right _ _)

theorem depth_lt_arr {j : Json} {items : List Json} (h : j ∈ items) : j.depth < (arr items).depth :=
  Nat.lt_succ_of_le (depth_le_depthItems h)

/-- A field of a record is nested less deeply than the record. -/
theorem depth_lt_record {f : String × Json} {fs : List (String × Json)} (h : f ∈ fs) :
    f.2.depth < (record fs).depth :=
  have hmember : (f.1.toList, f.2) ∈ Fields.ofRecord fs :=
    List.mem_map_of_mem (f := fun f => (f.1.toList, f.2)) h
  Nat.lt_succ_of_le (depth_le_depthMembers hmember)

end Json

@[simp] theorem Segment.ofJson?_toJson (s : Segment) : ofJson? s.toJson = some s := by
  cases s <;> rfl

@[simp] theorem Shape.ofJson?_name (s : Shape) : ofJson? (.ofString s.name) = some s := by
  cases s <;> rfl

@[simp] theorem Swap.ofJson?_name (s : Swap) : ofJson? (.ofString s.name) = some s := by
  cases s <;> rfl

namespace Template

/-! ## One node -/

theorem toJsonAll_eq_map (ts : List Template) : toJsonAll ts = ts.map toJson := by
  induction ts with
  | nil => rfl
  | cons t ts ih => rw [toJsonAll, ih, List.map_cons]

/-- A branch as it is written in a document. -/
def branchJson (b : Branch Template) : Json :=
  .record (nameMember b.name? ++ [("value", .str b.value), ("body", toJson b.body)])

theorem toJsonBranches_eq_map (bs : List (Branch Template)) :
    toJsonBranches bs = bs.map branchJson := by
  induction bs with
  | nil => rfl
  | cons b bs ih => rw [toJsonBranches, ih, List.map_cons, branchJson]

@[simp] theorem asUInt64?_indexJson (index : UInt64) :
    (indexJson index).asUInt64? = some index := by
  have hlt : index.toNat < UInt64.size := index.toNat_lt
  show (if index.toNat < UInt64.size then some index.toNat else none).map UInt64.ofNat = _
  rw [if_pos hlt, Option.map_some, UInt64.ofNat_toNat]

variable {inner : Json → Option Template}

@[simp] theorem asOption?_asText?_str (name : Text) :
    Json.asOption? Json.asText? (.str name) = some (some name) := rfl

/-- No template is written as `null`, so one that may be left out is read where it is there. -/
theorem asOption?_toJson (t : Template) :
    Json.asOption? inner t.toJson = (inner t.toJson).map some := by
  cases t <;> rfl

theorem branchOfJson?_branchJson {b : Branch Template} (h : inner b.body.toJson = some b.body) :
    branchOfJson? inner (branchJson b) = some b := by
  obtain ⟨name?, value, body⟩ := b
  cases name? <;>
    simp [branchOfJson?, branchJson, nameMember, Json.fields?_record, List.lookup_cons,
      Json.asText?, h]

/-- What is written for a node says of which kind it is, and a reader that reads what is written for
its children reads the node. -/
theorem ofContent?_toJson {t : Template} (h : ∀ c ∈ t.children, inner c.toJson = some c) :
    ∃ (kind : String) (content : Json), t.toJson.variant? = some (kind.toList, content) ∧
      ofContent? inner kind content = some t := by
  cases t with
  | text t => exact ⟨"text", _, rfl, rfl⟩
  | literal t => exact ⟨"literal", _, rfl, rfl⟩
  | sequence ts =>
    refine ⟨"sequence", _, rfl, ?_⟩
    have hread : Json.asList? inner (.arr (ts.map toJson)) = some ts := Json.asList?_arr_map h
    simp [ofContent?, toJsonAll_eq_map, hread]
  | random ts =>
    refine ⟨"random", _, rfl, ?_⟩
    have hread : Json.asList? inner (.arr (ts.map toJson)) = some ts := Json.asList?_arr_map h
    simp [ofContent?, toJsonAll_eq_map, hread]
  | condition name? branches otherwise? =>
    refine ⟨"condition", _, rfl, ?_⟩
    have hbranches : Json.asList? (branchOfJson? inner) (.arr (toJsonBranches branches)) =
        some branches := by
      rw [toJsonBranches_eq_map]
      refine Json.asList?_arr_map fun b hb => branchOfJson?_branchJson (h _ ?_)
      exact List.mem_append_left _ (List.mem_map_of_mem hb)
    cases otherwise? with
    | none =>
      cases name? <;>
        simp [ofContent?, nameMember, toJsonOptional, Json.fields?_record, List.lookup_cons,
          hbranches]
    | some t =>
      have hdefault : Json.asOption? inner t.toJson = some (some t) := by
        rw [asOption?_toJson, h t (by simp [children]), Option.map_some]
      cases name? <;>
        simp [ofContent?, nameMember, toJsonOptional, Json.fields?_record, List.lookup_cons,
          hbranches, hdefault]
  | reduce body =>
    refine ⟨"reduce", _, rfl, ?_⟩
    simp [ofContent?, h body (by simp [children])]
  | set name value =>
    refine ⟨"set", _, rfl, ?_⟩
    simp [ofContent?, Json.fields?_record, List.lookup_cons, Json.asText?,
      h value (by simp [children])]
  | get name =>
    refine ⟨"get", _, rfl, ?_⟩
    simp [ofContent?, Json.fields?_record, Json.asText?]
  | wildcard segment index =>
    refine ⟨"wildcard", _, rfl, ?_⟩
    simp [ofContent?, Json.fields?_record, List.lookup_cons]
  | think body =>
    refine ⟨"think", _, rfl, ?_⟩
    simp [ofContent?, h body (by simp [children])]
  | shaped shape body =>
    refine ⟨"case", _, rfl, ?_⟩
    simp [ofContent?, Json.fields?_record, List.lookup_cons, h body (by simp [children])]
  | swapped swap body =>
    refine ⟨"person", _, rfl, ?_⟩
    simp [ofContent?, Json.fields?_record, List.lookup_cons, h body (by simp [children])]
  | property name =>
    refine ⟨"bot", _, rfl, ?_⟩
    simp [ofContent?, Json.fields?_record, Json.asText?]
  | input index =>
    refine ⟨"input", _, rfl, ?_⟩
    simp [ofContent?, Json.fields?_record]
  | reply index =>
    refine ⟨"that", _, rfl, ?_⟩
    simp [ofContent?, Json.fields?_record]
  | sessionId => exact ⟨"id", _, rfl, rfl⟩
  | ruleCount => exact ⟨"size", _, rfl, rfl⟩
  | version => exact ⟨"version", _, rfl, rfl⟩
  | date => exact ⟨"date", _, rfl, rfl⟩

/-! ## Nested nodes -/

theorem depth_lt_tagged (kind : String) (content : Json) :
    content.depth < (tagged kind content).depth :=
  Json.depth_lt_record (List.mem_singleton_self (kind, content))

theorem depth_lt_tagged_record {f : String × Json} {fs : List (String × Json)} (h : f ∈ fs)
    (kind : String) : f.2.depth < (tagged kind (.record fs)).depth :=
  Nat.lt_trans (Json.depth_lt_record h) (depth_lt_tagged kind _)

/-- **Children are nested less deeply** than the node they belong to. -/
theorem depth_toJson_lt {c t : Template} (h : c ∈ t.children) :
    c.toJson.depth < t.toJson.depth := by
  cases t with
  | sequence ts | random ts =>
    have hitem : c.toJson ∈ toJsonAll ts := by
      rw [toJsonAll_eq_map]
      exact List.mem_map_of_mem h
    exact Nat.lt_trans (Json.depth_lt_arr hitem) (depth_lt_tagged _ _)
  | condition name? branches otherwise? =>
    rcases List.mem_append.mp h with h | h
    · obtain ⟨b, hb, rfl⟩ := List.mem_map.mp h
      have hbody : b.body.toJson.depth < (branchJson b).depth :=
        Json.depth_lt_record (f := ("body", b.body.toJson)) (by simp)
      have hitem : branchJson b ∈ toJsonBranches branches := by
        rw [toJsonBranches_eq_map]
        exact List.mem_map_of_mem hb
      refine Nat.lt_trans (Nat.lt_trans hbody (Json.depth_lt_arr hitem)) ?_
      exact depth_lt_tagged_record (f := ("branches", .arr (toJsonBranches branches))) (by simp) _
    · obtain rfl : otherwise? = some c := by simpa using h
      exact depth_lt_tagged_record (f := ("default", c.toJson)) (by simp [toJsonOptional]) _
  | reduce body | think body =>
    obtain rfl := List.mem_singleton.mp h
    exact depth_lt_tagged _ _
  | set name value =>
    obtain rfl := List.mem_singleton.mp h
    exact depth_lt_tagged_record (f := ("value", c.toJson)) (by simp) _
  | shaped shape body | swapped swap body =>
    obtain rfl := List.mem_singleton.mp h
    exact depth_lt_tagged_record (f := ("body", c.toJson)) (by simp) _
  | _ => cases h

/-- A reader that looks deeply enough reads a template from what is written for it. -/
theorem ofJsonWithin?_toJson {depth : Nat} {t : Template} (h : t.toJson.depth < depth) :
    ofJsonWithin? depth t.toJson = some t := by
  induction depth generalizing t with
  | zero => cases h
  | succ depth ih =>
    have hchildren : ∀ c ∈ t.children, ofJsonWithin? depth c.toJson = some c := fun c hc =>
      ih (Nat.lt_of_lt_of_le (depth_toJson_lt hc) (Nat.le_of_lt_succ h))
    obtain ⟨kind, content, hvariant, hcontent⟩ := ofContent?_toJson hchildren
    rw [ofJsonWithin?, hvariant]
    show ofContent? (ofJsonWithin? depth) (String.ofList kind.toList) content = some t
    rw [String.ofList_toList, hcontent]

/-- **Templates are read again from what is written for them,** whatever nodes they are made of and
however deeply these are nested; so different templates are written differently. -/
theorem toJson_round_trip :
    (∀ t : Template, ofJson? t.toJson = some t) ∧ Function.Injective toJson := by
  have hread (t : Template) : ofJson? t.toJson = some t :=
    ofJsonWithin?_toJson (Nat.lt_succ_self _)
  refine ⟨hread, fun t u h => ?_⟩
  have hsome : some t = some u := by rw [← hread t, ← hread u, h]
  exact Option.some.inj hsome

end Template

end Colloquy
