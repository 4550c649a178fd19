import Colloquy.Template.Basic

/-!
# The nodes of a template

A template is a tree. What its nodes are is said here once, for whatever is to be said of all of
them: what a node does when it is rendered, at any depth and in any branch.

* `Template.children` — the templates right below a node.
* `Template.Within` — the nodes of a template, itself included.
* `Template.children_induction` — what children hand on to their node holds of all templates.
-/

namespace Colloquy

namespace Template

/-- The templates right below a node, in the order in which they are written. -/
def children : Template → List Template
  | sequence ts | random ts => ts
  | condition _ branches otherwise? => branches.map Branch.body ++ otherwise?.toList
  | reduce body | set _ body | think body | shaped _ body | swapped _ body => [body]
  | text _ | literal _ | get _ | wildcard _ _ | property _ | input _ | reply _ | sessionId
  | ruleCount | version | date => []

/-- A node of a template: the template itself, or a node of one of its children. -/
inductive Within (n : Template) : Template → Prop where
  | self : Within n n
  | child {c t : Template} (hc : c ∈ t.children) (h : Within n c) : Within n t

/-- A child of a node is a node. -/
theorem Within.of_mem_children {n c t : Template} (h : n.Within t) (hc : c ∈ n.children) :
    c.Within t := by
  induction h with
  | self => exact .child hc .self
  | child hchild _ ih => exact .child hchild ih

theorem sizeOf_lt_of_mem_children {c t : Template} (h : c ∈ t.children) : sizeOf c < sizeOf t := by
  cases t with
  | sequence ts | random ts =>
    have hsize : sizeOf c < sizeOf ts := List.sizeOf_lt_of_mem h
    simp only [sequence.sizeOf_spec, random.sizeOf_spec]
    omega
  | condition name? branches otherwise? =>
    rw [condition.sizeOf_spec]
    rcases List.mem_append.mp h with h | h
    · obtain ⟨b, hb, rfl⟩ := List.mem_map.mp h
      have hbody : sizeOf b.body < sizeOf b := by
        cases b
        simp only [Branch.mk.sizeOf_spec]
        omega
      have hbranch : sizeOf b < sizeOf branches := List.sizeOf_lt_of_mem hb
      omega
    · obtain rfl : otherwise? = some c := by simpa using h
      rw [Option.some.sizeOf_spec]
      omega
  | reduce body | set _ body | think body | shaped _ body | swapped _ body =>
    obtain rfl := List.mem_singleton.mp h
    simp only [reduce.sizeOf_spec, set.sizeOf_spec, think.sizeOf_spec, shaped.sizeOf_spec,
      swapped.sizeOf_spec]
    omega
  | _ => cases h

/-- What holds of a node as soon as it holds of its children holds of every template. -/
theorem children_induction {P : Template → Prop} (node : ∀ t, (∀ c ∈ t.children, P c) → P t)
    (t : Template) : P t :=
  node t fun c hc =>
    have := sizeOf_lt_of_mem_children hc
    children_induction node c
termination_by sizeOf t

end Template

end Colloquy
