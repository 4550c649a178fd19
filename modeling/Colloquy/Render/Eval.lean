import Colloquy.Render.Basic

/-!
# Rendering a template

A template is rendered node by node; what a reduction does is left to the caller, who knows how much
of the limits is left.
-/

namespace Colloquy

namespace Surroundings

variable (w : Surroundings)

/-- The value of a predicate as templates see it. -/
def predicate (s : Session) (name : Text) : Text :=
  s.predicateD name w.manner.defaultPredicate

/-- Two values are the same for a condition: up to letter case and white space at the ends. -/
def sameValue (actual expected : Text) : Bool :=
  actual.trim.lower = expected.trim.lower

/-- Whether a branch is taken: it or its condition names a predicate, which has its value. -/
def holds (s : Session) (name? own? : Option Text) (value : Text) : Bool :=
  (own?.or name?).any fun name => sameValue (w.predicate s name) value

/-- The input with the given number: the one that is being answered has the number one. -/
def inputText (r : Rendering) (index : Nat) : Text :=
  if index = 1 then r.input else (r.session.input? (index - 1)).getD []

end Surroundings

namespace Template

variable {m : Type → Type} [Monad m] (w : Surroundings) (scene : Scene)
  (reduceText : Text → RenderT m Text)

mutual

/-- The text that a template renders to. -/
@[specialize] def render : Template → RenderT m Text
  | text t => pure t.collapse
  | literal t => pure t
  | sequence children => renderAll children
  | random children => do
    if children.isEmpty then
      return []
    let i ← RenderT.choose w.tape children.length
    renderNth children i
  | condition name? branches otherwise? =>
    renderBranches name? (renderOptional otherwise?) branches
  | reduce body => do
    let phrase ← render body
    reduceText phrase
  | set name value => do
    let value ← render value
    RenderT.modifySession fun s => s.setPredicate name value.trim
    return if w.manner.setRendersValue then value.trim else []
  | get name => do
    return w.predicate (← RenderT.session) name
  | wildcard segment index => pure (scene.wildcard segment index.toNat)
  | think body => do
    let _ ← render body
    return []
  | shaped shape body => do
    let t ← render body
    return shape.apply t
  | swapped swap body => do
    let t ← render body
    return (w.books.swap swap).rewrite t
  | property name => pure ((w.profile.find? name).getD [])
  | input index => do
    return Surroundings.inputText (← RenderT.current) index.toNat
  | reply index => do
    return ((← RenderT.session).reply? index.toNat).getD []
  | sessionId => do
    return (← RenderT.session).id
  | ruleCount => pure (toString w.trie.size).toList
  | version => pure w.manner.version
  | date => pure (Calendar.line w.clock)

/-- The texts of several templates, one after the other. -/
@[specialize] def renderAll : List Template → RenderT m Text
  | [] => pure []
  | t :: ts => do
    let first ← render t
    let rest ← renderAll ts
    return first ++ rest

/-- The text of one of several templates. -/
@[specialize] def renderNth : List Template → Nat → RenderT m Text
  | [], _ => pure []
  | t :: _, 0 => render t
  | _ :: ts, n + 1 => renderNth ts n

/-- The text of the first branch that is taken, or else of what is rendered in all other cases. -/
@[specialize] def renderBranches (name? : Option Text) (otherwise : RenderT m Text) :
    List (Branch Template) → RenderT m Text
  | [] => otherwise
  | ⟨own?, value, body⟩ :: bs => do
    if w.holds (← RenderT.session) name? own? value then render body
    else renderBranches name? otherwise bs

/-- The text of a template that may be left out. -/
@[specialize] def renderOptional : Option Template → RenderT m Text
  | none => pure []
  | some t => render t

end

end Template

end Colloquy
