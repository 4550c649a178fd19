import Colloquy.Pattern.Address
import Colloquy.Template.Check

/-!
# Rules
-/

namespace Colloquy

/-- A rule: the patterns of what it answers, and the template of the answer. An empty context or
topic stands for any. -/
structure Rule where
  pattern : Pattern
  context : Pattern := []
  topic : Pattern := []
  template : Template

namespace Rule

/-- The rule for three patterns that are given as texts. -/
def read (pattern context topic : Text) (template : Template) : Except Unreadable Rule := do
  return ⟨← Pattern.read pattern, ← Pattern.read context, ← Pattern.read topic, template⟩

/-- Where a rule is stored. -/
def address (r : Rule) : Address :=
  Address.ofPatterns r.pattern r.context r.topic

end Rule

/-- Why a rule is not learned. -/
inductive RuleError where
  | template (e : TemplateError)
  | address (e : AddressError)
  deriving DecidableEq, Repr

end Colloquy
