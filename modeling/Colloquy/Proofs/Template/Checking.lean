import Colloquy.Proofs.Template.Nodes
import Colloquy.Template.Check

/-!
# What is found wrong with a template

What a template needs is told here without any check of it. Each node has its parts, in the order in
which they are written: what it requires itself, and its children. Counting parts from the root
downwards gives every requirement in a template a place, and the places are ordered as words in a
dictionary are, which is the order in which the template is written.

* `Requirement.Holds`, `Requirement.fault` — what is required, and what is reported otherwise.
* `Template.parts` — the requirements and the children of a node, as they are written.
* `Template.requirementAt?` — the requirement at a place in a template.
* `Template.IsFirstFault` — a requirement is the first that does not hold.
* `Template.check_finds_first_fault` — a check passes templates of which every node is sound, and
  reports the first fault of all others.
-/

namespace Colloquy

/-! ## One thing after the other -/

section

variable {α ε : Type} {f : α → Except ε Unit} {xs : List α} {e : ε}

/-- What is done with all things succeeds if it does with each. -/
theorem forM_eq_ok_iff : forM xs f = .ok () ↔ ∀ x ∈ xs, f x = .ok () := by
  induction xs with
  | nil => simp [pure, Except.pure]
  | cons x xs ih =>
    rw [List.forM_cons, List.forall_mem_cons, ← ih]
    cases f x <;> simp [bind, Except.bind]

theorem forM_singleton (x : α) (f : α → Except ε Unit) : forM [x] f = f x := by
  rw [List.forM_cons]
  cases f x <;> rfl

/-- What is done with one thing after the other fails as it does with the first with which it
fails. -/
theorem exists_of_forM_eq_error (h : forM xs f = .error e) :
    ∃ (i : Nat) (x : α), xs[i]? = some x ∧ f x = .error e ∧
      ∀ j < i, ∀ y, xs[j]? = some y → f y = .ok () := by
  induction xs with
  | nil => cases h
  | cons x xs ih =>
    rw [List.forM_cons] at h
    cases hx : f x with
    | error e' =>
      rw [hx] at h
      obtain rfl : e' = e := Except.error.inj h
      exact ⟨0, x, rfl, hx, fun j hj => absurd hj (Nat.not_lt_zero j)⟩
    | ok u =>
      rw [hx] at h
      obtain ⟨i, y, hy, herror, hbefore⟩ := ih h
      refine ⟨i + 1, y, hy, herror, fun j hj z hz => ?_⟩
      cases j with
      | zero =>
        obtain rfl : x = z := Option.some.inj hz
        exact hx
      | succ j => exact hbefore j (Nat.lt_of_succ_lt_succ hj) z hz

end

namespace Template

/-! ## What is required -/

/-- What a node requires. -/
inductive Requirement where
  /-- A name. -/
  | named (n : Naming) (name : Text)
  /-- A number. -/
  | counted (n : Counting) (index : UInt64)
  /-- The name of a condition, which may be left out. -/
  | condition (name? : Option Text)
  /-- The name that a branch with a value tests, its own or else that of the condition. -/
  | tested (name? : Option Text) (value : Text)

namespace Requirement

/-- Names are not blank, and numbers count from one. -/
def Holds : Requirement → Prop
  | named _ name => name.isBlankText = false
  | counted _ index => 1 ≤ index
  | condition name? => ∀ name ∈ name?, name.isBlankText = false
  | tested name? _ => ∃ name ∈ name?, name.isBlankText = false

/-- What is reported if a requirement does not hold. -/
def fault : Requirement → TemplateError
  | named n _ => .blankName n
  | counted n _ => .zeroIndex n
  | condition _ => .blankCondition
  | tested _ value => .untested value

/-- The check of a requirement. -/
def check : Requirement → Except TemplateError Unit
  | named n name => checkName n name
  | counted n index => checkIndex n index
  | condition name? => checkCondition name?
  | tested name? value => checkTested name? value

/-- Numbers from one on are those that are not zero. -/
theorem one_le_iff {index : UInt64} : 1 ≤ index ↔ index ≠ 0 := by
  rw [UInt64.le_iff_toNat_le, ne_eq, ← UInt64.toNat_inj]
  exact Nat.one_le_iff_ne_zero

/-- A requirement that holds passes its check. -/
theorem check_eq_ok {r : Requirement} (h : r.Holds) : r.check = .ok () := by
  cases r with
  | named n name =>
    have hname : name.isBlankText = false := h
    simp [check, checkName, hname]
  | counted n index =>
    have hindex : index ≠ 0 := one_le_iff.mp h
    simp [check, checkIndex, hindex]
  | condition name? =>
    have hname : ∀ name ∈ name?, name.isBlankText = false := h
    cases name? <;> simp_all [check, checkCondition]
  | tested name? value =>
    obtain ⟨name, rfl, hname⟩ := h
    simp [check, checkTested, hname]

/-- What the check of any other requirement reports is its fault. -/
theorem check_eq_error {r : Requirement} (h : ¬ r.Holds) : r.check = .error r.fault := by
  cases r with
  | named n name =>
    have hname : name.isBlankText = true := by simpa [Holds] using h
    simp [check, checkName, hname, fault]
  | counted n index =>
    obtain rfl : index = 0 := by simpa [Holds, one_le_iff] using h
    rfl
  | condition name? =>
    cases name? <;> simp_all [Holds, check, checkCondition, fault]
  | tested name? value =>
    cases name? <;> simp_all [Holds, check, checkTested, fault]

end Requirement

/-! ## The parts of a template -/

/-- A part of a node: something that it requires, or a child. -/
inductive Part where
  | requirement (r : Requirement)
  | child (t : Template)

/-- The parts of a node, in the order in which they are written. -/
def parts : Template → List Part
  | sequence ts | random ts => ts.map .child
  | condition name? branches otherwise? =>
    .requirement (.condition name?) ::
      branches.flatMap (fun b =>
        [.requirement (.tested (b.name?.or name?) b.value), .child b.body]) ++
      otherwise?.toList.map .child
  | set name value => [.requirement (.named .set name), .child value]
  | get name => [.requirement (.named .get name)]
  | property name => [.requirement (.named .property name)]
  | wildcard _ index => [.requirement (.counted .wildcard index)]
  | input index => [.requirement (.counted .input index)]
  | reply index => [.requirement (.counted .reply index)]
  | reduce body | think body | shaped _ body | swapped _ body => [.child body]
  | text _ | literal _ | sessionId | ruleCount | version | date => []

/-- The children of a node are among its parts. -/
theorem child_mem_parts_iff {c t : Template} : .child c ∈ t.parts ↔ c ∈ t.children := by
  cases t <;> simp [parts, children, eq_comm]

/-- The check of a part. -/
def Part.check : Part → Except TemplateError Unit
  | requirement r => r.check
  | child t => t.check

theorem checkAll_eq_forM (ts : List Template) :
    checkAll ts = forM (ts.map Part.child) Part.check := by
  induction ts with
  | nil => rfl
  | cons t ts ih =>
    rw [checkAll, ih]
    rfl

theorem checkBranches_eq_forM (name? : Option Text) (bs : List (Branch Template)) :
    checkBranches name? bs =
      forM (bs.flatMap fun b =>
        [.requirement (.tested (b.name?.or name?) b.value), .child b.body]) Part.check := by
  induction bs with
  | nil => rfl
  | cons b bs ih =>
    obtain ⟨own?, value, body⟩ := b
    rw [checkBranches, ih]
    rfl

theorem checkOptional_eq_forM (t? : Option Template) :
    checkOptional t? = forM (t?.toList.map Part.child) Part.check := by
  cases t? with
  | none => rfl
  | some t => exact (forM_singleton (.child t) Part.check).symm

/-- **One node.** A check of a template checks its parts, one after the other. -/
theorem check_eq_forM (t : Template) : t.check = forM t.parts Part.check := by
  cases t with
  | sequence ts | random ts => rw [check, checkAll_eq_forM, parts]
  | condition name? branches otherwise? =>
    rw [check, checkBranches_eq_forM, checkOptional_eq_forM, parts, List.cons_append,
      List.forM_cons, List.forM_append]
    rfl
  | set name value =>
    rw [parts, List.forM_cons, forM_singleton]
    exact check.eq_def _
  | text _ | literal _ | sessionId | ruleCount | version | date => exact check.eq_def _
  | _ =>
    rw [parts, forM_singleton]
    exact check.eq_def _

/-! ## Places -/

/-- The requirement at a place in a part: a place begins with the number of a part of a child, and
goes on with a place in this part. -/
def Part.requirementAt? : Part → List Nat → Option Requirement
  | requirement r, [] => some r
  | requirement _, _ :: _ => none
  | child _, [] => none
  | child t, i :: p => t.parts[i]?.bind fun x => x.requirementAt? p

/-- The requirement at a place in a template. -/
def requirementAt? (t : Template) (p : List Nat) : Option Requirement :=
  (Part.child t).requirementAt? p

/-- The requirements in a template are those of its nodes. -/
theorem exists_requirementAt?_iff {t : Template} {r : Requirement} :
    (∃ p, t.requirementAt? p = some r) ↔ ∃ n : Template, n.Within t ∧ .requirement r ∈ n.parts := by
  constructor
  · rintro ⟨p, hp⟩
    induction p generalizing t with
    | nil => cases hp
    | cons i p ih =>
      obtain ⟨x, hx, hr⟩ := Option.bind_eq_some_iff.mp hp
      have hmem : x ∈ t.parts := List.mem_of_getElem? hx
      cases x with
      | requirement r' =>
        cases p with
        | nil =>
          obtain rfl : r' = r := Option.some.inj hr
          exact ⟨t, .self, hmem⟩
        | cons _ _ => cases hr
      | child c =>
        obtain ⟨n, hn, hrequired⟩ := ih hr
        exact ⟨n, .child (child_mem_parts_iff.mp hmem) hn, hrequired⟩
  · rintro ⟨n, hn, hr⟩
    induction hn with
    | self =>
      obtain ⟨i, hi⟩ := List.getElem?_of_mem hr
      exact ⟨[i], Option.bind_eq_some_iff.mpr ⟨_, hi, rfl⟩⟩
    | child hc _ ih =>
      obtain ⟨p, hp⟩ := ih
      obtain ⟨i, hi⟩ := List.getElem?_of_mem (child_mem_parts_iff.mpr hc)
      exact ⟨i :: p, Option.bind_eq_some_iff.mpr ⟨_, hi, hp⟩⟩

/-- A requirement in a part does not hold, and all that stand at earlier places do. -/
structure Part.IsFirstFault (x : Part) (p : List Nat) (r : Requirement) : Prop where
  at_eq : x.requirementAt? p = some r
  not_holds : ¬ r.Holds
  earlier : ∀ q < p, ∀ r', x.requirementAt? q = some r' → r'.Holds

/-- A requirement in a template is the first that does not hold. -/
def IsFirstFault (t : Template) (p : List Nat) (r : Requirement) : Prop :=
  (Part.child t).IsFirstFault p r

/-- Only one requirement is the first that does not hold. -/
theorem Part.IsFirstFault.unique {x : Part} {p q : List Nat} {r r' : Requirement}
    (h : x.IsFirstFault p r) (h' : x.IsFirstFault q r') : r = r' := by
  have hpq : ¬ p < q := fun hlt => h.not_holds (h'.earlier p hlt r h.at_eq)
  have hqp : ¬ q < p := fun hlt => h'.not_holds (h.earlier q hlt r' h'.at_eq)
  obtain rfl : p = q := Std.le_antisymm (Std.not_lt.mp hqp) (Std.not_lt.mp hpq)
  exact Option.some.inj (h.at_eq.symm.trans h'.at_eq)

/-! ## The check -/

/-- What the check of a part finds: nothing if all in it holds, and the first fault otherwise. -/
structure Part.Checked (x : Part) : Prop where
  ok : x.check = .ok () → ∀ p r, x.requirementAt? p = some r → r.Holds
  error : ∀ e, x.check = .error e → ∃ p r, x.IsFirstFault p r ∧ r.fault = e

theorem Requirement.checked (r : Requirement) : (Part.requirement r).Checked := by
  by_cases h : r.Holds
  · refine ⟨fun _ p r' hr => ?_, fun e he => ?_⟩
    · cases p with
      | nil => exact Option.some.inj hr ▸ h
      | cons _ _ => cases hr
    · rw [Part.check, Requirement.check_eq_ok h] at he
      cases he
  · refine ⟨fun hok => ?_, fun e he => ?_⟩
    · rw [Part.check, Requirement.check_eq_error h] at hok
      cases hok
    · rw [Part.check, Requirement.check_eq_error h] at he
      exact ⟨[], r, ⟨rfl, h, fun q hq => absurd hq (List.not_lt_nil q)⟩, Except.error.inj he⟩

/-- **One node.** If the parts of a node are checked rightly, so is the node. -/
theorem checked_of_parts {t : Template} (h : ∀ x ∈ t.parts, x.Checked) :
    (Part.child t).Checked := by
  refine ⟨fun hok p r hr => ?_, fun e he => ?_⟩
  · rw [Part.check, check_eq_forM, forM_eq_ok_iff] at hok
    cases p with
    | nil => cases hr
    | cons i p =>
      obtain ⟨x, hx, hr⟩ := Option.bind_eq_some_iff.mp hr
      have hmem : x ∈ t.parts := List.mem_of_getElem? hx
      exact (h x hmem).ok (hok x hmem) p r hr
  · rw [Part.check, check_eq_forM] at he
    obtain ⟨i, x, hx, hfault, hbefore⟩ := exists_of_forM_eq_error he
    obtain ⟨p, r, hfirst, hr⟩ := (h x (List.mem_of_getElem? hx)).error e hfault
    refine ⟨i :: p, r, ⟨?_, hfirst.not_holds, fun q hq r' hr' => ?_⟩, hr⟩
    · exact Option.bind_eq_some_iff.mpr ⟨x, hx, hfirst.at_eq⟩
    · -- An earlier place is in an earlier part, or else earlier in the part with the fault.
      cases q with
      | nil => cases hr'
      | cons j q =>
        obtain ⟨y, hy, hr'⟩ := Option.bind_eq_some_iff.mp hr'
        rcases List.cons_lt_cons_iff.mp hq with hj | ⟨rfl, hqp⟩
        · exact (h y (List.mem_of_getElem? hy)).ok (hbefore j hj y hy) q r' hr'
        · obtain rfl : x = y := Option.some.inj (hx.symm.trans hy)
          exact hfirst.earlier q hqp r' hr'

theorem checked (t : Template) : (Part.child t).Checked := by
  induction t using children_induction with
  | node t ih =>
    refine checked_of_parts fun x hx => ?_
    cases x with
    | requirement r => exact r.checked
    | child c => exact ih c (child_mem_parts_iff.mp hx)

/-! ## Sound nodes -/

/-- A node is sound if its number counts from one and its name is not blank. A condition need not
have a name, but each of its branches tests a predicate with a name that is not blank: its own, or
else that of the condition. -/
def IsSound : Template → Prop
  | wildcard _ index | input index | reply index => 1 ≤ index
  | set name _ | get name | property name => name.isBlankText = false
  | condition name? branches _ =>
    (∀ name ∈ name?, name.isBlankText = false) ∧
      ∀ b ∈ branches, ∃ name ∈ b.name?.or name?, name.isBlankText = false
  | _ => True

/-- A condition requires something of its own name, and of the name that each branch tests. -/
theorem requirement_mem_parts_condition {r : Requirement} {name? : Option Text}
    {branches : List (Branch Template)} {otherwise? : Option Template} :
    .requirement r ∈ (condition name? branches otherwise?).parts ↔
      r = .condition name? ∨ ∃ b ∈ branches, r = .tested (b.name?.or name?) b.value := by
  simp [parts]

/-- A node is sound if all holds that it requires. -/
theorem isSound_iff {n : Template} :
    n.IsSound ↔ ∀ r, .requirement r ∈ n.parts → r.Holds := by
  cases n with
  | condition name? branches otherwise? =>
    simp only [requirement_mem_parts_condition]
    constructor
    · rintro ⟨hname, hbranches⟩ r (rfl | ⟨b, hb, rfl⟩)
      · exact hname
      · exact hbranches b hb
    · intro h
      exact ⟨h _ (.inl rfl), fun b hb => h _ (.inr ⟨b, hb, rfl⟩)⟩
  | _ => simp [IsSound, parts, Requirement.Holds]

/-- **A check finds the first fault.** It passes a template if and only if every node of it is
sound, at any depth; and what it reports is the fault of the first requirement, in the order in
which the template is written, that does not hold. -/
theorem check_finds_first_fault (t : Template) :
    (t.check = .ok () ↔ ∀ n : Template, n.Within t → n.IsSound) ∧
      ∀ e, t.check = .error e ↔ ∃ p r, t.IsFirstFault p r ∧ r.fault = e := by
  have hchecked := t.checked
  refine ⟨⟨fun hok n hn => ?_, fun hsound => ?_⟩, fun e => ⟨hchecked.error e, ?_⟩⟩
  · refine isSound_iff.mpr fun r hr => ?_
    obtain ⟨p, hp⟩ := exists_requirementAt?_iff.mpr ⟨n, hn, hr⟩
    exact hchecked.ok hok p r hp
  · cases hcheck : t.check with
    | ok _ => rfl
    | error e =>
      obtain ⟨p, r, hfirst, -⟩ := hchecked.error e hcheck
      obtain ⟨n, hn, hr⟩ := exists_requirementAt?_iff.mp ⟨p, hfirst.at_eq⟩
      exact absurd (isSound_iff.mp (hsound n hn) r hr) hfirst.not_holds
  · rintro ⟨p, r, hfirst, rfl⟩
    cases hcheck : t.check with
    | ok _ => exact absurd (hchecked.ok hcheck p r hfirst.at_eq) hfirst.not_holds
    | error e =>
      obtain ⟨q, r', hfirst', rfl⟩ := hchecked.error e hcheck
      rw [hfirst.unique hfirst']

end Template

end Colloquy
