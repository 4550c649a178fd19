import Colloquy.Template.Basic

/-!
# Well-formed templates

A template may be built that could never be rendered to anything: a predicate without a name, a
wildcard with the number zero. Such templates are found before they are stored.
-/

namespace Colloquy

/-- The templates that name something. -/
inductive Naming where
  | set
  | get
  | property
  deriving DecidableEq, Repr

/-- The templates that count something. -/
inductive Counting where
  | wildcard
  | input
  | reply
  deriving DecidableEq, Repr

/-- What is wrong with a template. -/
inductive TemplateError where
  /-- A name is blank. -/
  | blankName (n : Naming)
  /-- A number is zero. -/
  | zeroIndex (n : Counting)
  /-- A condition names a predicate, but the name is blank. -/
  | blankCondition
  /-- A branch, given by its value, has no predicate to test. -/
  | untested (value : Text)
  deriving DecidableEq, Repr

namespace TemplateError

/-- What a template that names something is called in a report. -/
def namingWord : Naming → String
  | .set => "set"
  | .get => "get"
  | .property => "bot"

/-- What a template that counts something is called in a report. -/
def countingWord : Counting → String
  | .wildcard => "wildcard"
  | .input => "input"
  | .reply => "that"

/-- The fault in words. -/
def reason : TemplateError → Text
  | .blankName n => (namingWord n ++ " needs a name").toList
  | .zeroIndex n => (countingWord n ++ " indices count from 1").toList
  | .blankCondition => "condition has an empty predicate name".toList
  | .untested value =>
    "condition branch for '".toList ++ value ++ "' has no predicate to test".toList

/-- What is reported for a template that is not well-formed. -/
def message (e : TemplateError) : Text :=
  "malformed template: ".toList ++ e.reason

end TemplateError

namespace Template

/-- A name must not be blank. -/
def checkName (n : Naming) (name : Text) : Except TemplateError Unit :=
  if name.isBlankText then .error (.blankName n) else .ok ()

/-- Numbers count from one. -/
def checkIndex (n : Counting) (index : UInt64) : Except TemplateError Unit :=
  if index = 0 then .error (.zeroIndex n) else .ok ()

/-- The name of a condition, if it has one, must not be blank. -/
def checkCondition (name? : Option Text) : Except TemplateError Unit :=
  if name?.any Text.isBlankText then .error .blankCondition else .ok ()

/-- A branch must name a predicate, or else its condition must. -/
def checkTested (name? : Option Text) (value : Text) : Except TemplateError Unit :=
  if name?.all Text.isBlankText then .error (.untested value) else .ok ()

mutual

/-- Whether a template is well-formed. The first fault is reported, in the order in which the
template is written. -/
def check : Template → Except TemplateError Unit
  | text _ | literal _ | sessionId | ruleCount | version | date => .ok ()
  | sequence children => checkAll children
  | random children => checkAll children
  | condition name? branches otherwise? => do
    checkCondition name?
    checkBranches name? branches
    checkOptional otherwise?
  | reduce body => check body
  | set name value => do
    checkName .set name
    check value
  | get name => checkName .get name
  | wildcard _ index => checkIndex .wildcard index
  | think body => check body
  | shaped _ body => check body
  | swapped _ body => check body
  | property name => checkName .property name
  | input index => checkIndex .input index
  | reply index => checkIndex .reply index

/-- Whether several templates are well-formed. -/
def checkAll : List Template → Except TemplateError Unit
  | [] => .ok ()
  | t :: ts => do
    check t
    checkAll ts

/-- Whether the branches of a condition are well-formed. -/
def checkBranches (name? : Option Text) : List (Branch Template) → Except TemplateError Unit
  | [] => .ok ()
  | ⟨own?, value, body⟩ :: bs => do
    checkTested (own?.or name?) value
    check body
    checkBranches name? bs

/-- Whether a template that may be left out is well-formed. -/
def checkOptional : Option Template → Except TemplateError Unit
  | none => .ok ()
  | some t => check t

end

/-- A blank name is found at the condition, before its branch. -/
theorem check_whenIs (name value : Text) (body : Template) :
    (whenIs name value body).check =
      if name.isBlankText then .error .blankCondition else body.check := by
  rw [whenIs, check, checkBranches, checkBranches, checkOptional]
  cases hblank : name.isBlankText with
  | true => simp [checkCondition, hblank, bind, Except.bind]
  | false =>
    simp only [checkCondition, checkTested, Option.any_some, Option.none_or, Option.all_some, hblank]
    cases body.check <;> rfl

end Template

end Colloquy
