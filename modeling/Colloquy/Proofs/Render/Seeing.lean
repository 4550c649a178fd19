import Colloquy.Proofs.Render.Relation
import Colloquy.Proofs.Session.History

/-!
# What an answer sees of the conversation

While a sentence is answered, what was said before is looked at in three ways: the latest reply is
the context of every text that is looked up, and templates show earlier inputs and earlier replies
by their numbers. All three are told here from the turns themselves, and the answer is told anew
with the history put out of sight: templates have the inputs and replies written into them, and what
is looked up is looked up under a given context.

* `View` — the sentence that is answered, and the turns before it.
* `Template.spellOut` — a template with the inputs and replies of a view written into it.
* `View.answer` — the answer to a sentence by what is in a view alone.
* `View.shows_answer` — it is the answer in a conversation that has the history of the view.
-/

namespace Colloquy

/-- What is seen of a conversation while a sentence is answered: the sentence, all turns before it
with the oldest first, and how many of them are remembered. -/
structure View where
  input : Text
  told : List Turn
  limit : Nat

namespace View

variable (v : View)

/-- The turns that are remembered, the latest first. -/
def recent : List Turn := v.told.reverse.take v.limit

/-- The sentence that is being answered has the number one, and the one before it the number two.
There is nothing under the number zero, and nothing beyond the turns that are remembered. -/
def inputText : Nat → Text
  | 0 => []
  | 1 => v.input
  | n + 2 => ((v.recent[n]?).map Turn.input).getD []

/-- The latest reply has the number one. There is nothing under the number zero, and nothing beyond
the turns that are remembered. -/
def replyText : Nat → Text
  | 0 => []
  | n + 1 => ((v.recent[n]?).map Turn.reply).getD []

/-- The words of the last sentence of the latest reply, or the word for what is not there. -/
def context (b : Phrasebook) : List Word :=
  match v.recent.head? with
  | none => [Query.absent]
  | some turn => Query.orAbsent (b.readLast turn.reply)

end View

/-! ## Templates that are spelled out -/

namespace Template

variable (v : View)

mutual

/-- A template with the inputs and replies that it shows written into it. -/
def spellOut : Template → Template
  | input index => literal (v.inputText index.toNat)
  | reply index => literal (v.replyText index.toNat)
  | sequence children => sequence (spellOutAll children)
  | random children => random (spellOutAll children)
  | condition name? branches otherwise? =>
    condition name? (spellOutBranches branches) (spellOutOptional otherwise?)
  | reduce body => reduce (spellOut body)
  | set name value => set name (spellOut value)
  | think body => think (spellOut body)
  | shaped shape body => shaped shape (spellOut body)
  | swapped swap body => swapped swap (spellOut body)
  | text t => text t
  | literal t => literal t
  | get name => get name
  | wildcard segment index => wildcard segment index
  | property name => property name
  | sessionId => sessionId
  | ruleCount => ruleCount
  | version => version
  | date => date

def spellOutAll : List Template → List Template
  | [] => []
  | t :: ts => spellOut t :: spellOutAll ts

def spellOutBranches : List (Branch Template) → List (Branch Template)
  | [] => []
  | ⟨own?, value, body⟩ :: bs => ⟨own?, value, spellOut body⟩ :: spellOutBranches bs

def spellOutOptional : Option Template → Option Template
  | none => none
  | some t => some (spellOut t)

end

theorem length_spellOutAll (ts : List Template) : (spellOutAll v ts).length = ts.length := by
  induction ts with
  | nil => rfl
  | cons t ts ih => rw [spellOutAll, List.length_cons, List.length_cons, ih]

theorem isEmpty_spellOutAll (ts : List Template) : (spellOutAll v ts).isEmpty = ts.isEmpty := by
  cases ts <;> rfl

end Template

/-! ## Answers by a view -/

namespace View

variable (v : View) (w : Surroundings)

/-- The query for a text under a topic: its context is that of the view. -/
def query (topic t : Text) : Query :=
  ⟨w.books.normal.read t, v.context w.books.normal, Query.orAbsent (w.books.normal.read topic)⟩

/-- Look a text up under the context of the view and render the template of its rule, spelled out;
`none` if no rule matches. -/
def replyTo (reduceText : Text → RenderM Text) (t : Text) : RenderM (Option Text) := do
  let q := v.query w (← RenderT.session).topic t
  match w.trie.find? q w.botName with
  | none => return none
  | some found =>
    let reply ← (found.rule.spellOut v).render w ⟨q, found.bindings⟩ reduceText
    return some reply.trim

/-- Look a text up by the view, with a notice and an empty reply if no rule matches. -/
def replyOrNote (reduceText : Text → RenderM Text) (t : Text) : RenderM Text := do
  match ← v.replyTo w reduceText t with
  | some reply => return reply
  | none =>
    RenderT.note (.noMatch t)
    return []

/-- A reduction that is within the limits. -/
def perform (reduceText : Text → RenderM Text) (t : Text) : RenderM Text := do
  modify fun r => { r with reductions := r.reductions + 1 }
  v.replyOrNote w reduceText t

/-- The reply to a text as new input, by the view, with `budget` reductions yet to be nested. -/
def reduce : (budget : Nat) → Text → RenderM Text
  | 0, t => w.refuseNested t
  | budget + 1, t => do
    if w.manner.reductionLimit ≤ (← RenderT.current).reductions then w.refuseFurther t
    else v.perform w (reduce budget) t

/-- The reply to the sentence of the view, by the view. -/
def answer : RenderM Text := do
  Surroundings.begin v.input
  v.replyOrNote w (v.reduce w w.manner.recursionLimit) v.input

end View

/-! ## Conversations that are seen -/

/-- A rendering in which the sentence of a view is answered, in a conversation that remembers its
turns. -/
structure Rendering.Sees (r : Rendering) (v : View) : Prop where
  session : r.session.Remembers v.told v.limit
  input : r.input = v.input

namespace Rendering.Sees

variable {r : Rendering} {v : View}

/-- An input that is shown is that of the view. -/
theorem inputText_eq (h : r.Sees v) (n : Nat) : Surroundings.inputText r n = v.inputText n := by
  match n with
  | 0 => rfl
  | 1 => exact h.input
  | n + 2 =>
    have hback : Surroundings.inputText r (n + 2) = (r.session.input? (n + 1)).getD [] :=
      if_neg (by omega)
    rw [hback, h.session.input?_succ]
    rfl

/-- A reply that is shown is that of the view. -/
theorem replyText_eq (h : r.Sees v) (n : Nat) :
    (r.session.reply? n).getD [] = v.replyText n := by
  cases n with
  | zero => rfl
  | succ n =>
    rw [h.session.reply?_succ]
    rfl

/-- The query for a text has the context of the view. -/
theorem query_eq (h : r.Sees v) (w : Surroundings) (t : Text) :
    w.query r.session t = v.query w r.session.topic t := by
  have hcontext : Query.orAbsent (w.books.normal.readLast r.session.lastReply) =
      v.context w.books.normal := by
    rw [Session.lastReply, h.session.reply?_succ, View.context, View.recent,
      List.head?_eq_getElem?]
    cases (v.told.reverse.take v.limit)[0]? with
    | none => rfl
    | some turn => rfl
  rw [Surroundings.query, Query.ofWords, hcontext, View.query]

end Rendering.Sees

/-! ## Answers in a conversation that is seen -/

/-- A part does what another does, wherever the conversation is seen, and it is seen afterwards. -/
def View.Shows (v : View) ⦃α : Type⦄ (p p' : RenderM α) : Prop :=
  ∀ r, r.Sees v → p.run r = p'.run r ∧ (p.run r).2.Sees v

namespace View.Shows

variable {v : View}

/-- A part that leaves the history and the input alone. -/
theorem of_keeps {α : Type} {p : RenderM α} (h : ∀ r, r.Sees v → (p.run r).2.Sees v) :
    v.Shows p p :=
  fun r hr => ⟨rfl, h r hr⟩

theorem pure {α : Type} (a : α) : v.Shows (pure a) (pure a) :=
  of_keeps fun _ hr => hr

theorem bind {α β : Type} {p p' : RenderM α} {f f' : α → RenderM β} (hp : v.Shows p p')
    (hf : ∀ a, v.Shows (f a) (f' a)) : v.Shows (p >>= f) (p' >>= f') := by
  intro r hr
  obtain ⟨heq, hsees⟩ := hp r hr
  show (f (p.run r).1).run (p.run r).2 = (f' (p'.run r).1).run (p'.run r).2 ∧ _
  rw [← heq]
  exact hf (p.run r).1 (p.run r).2 hsees

theorem session : v.Shows RenderT.session RenderT.session :=
  of_keeps fun _ hr => hr

/-- What is done with the conversation may rest on what is seen of it. -/
theorem session_bind {α : Type} {f f' : Session → RenderM α}
    (h : ∀ r : Rendering, r.Sees v → v.Shows (f r.session) (f' r.session)) :
    v.Shows (RenderT.session >>= f) (RenderT.session >>= f') :=
  fun r hr => h r hr r hr

theorem note (n : Notice) : v.Shows (RenderT.note n) (RenderT.note n) :=
  of_keeps fun _ hr => ⟨hr.session, hr.input⟩

theorem choose (tape : Tape) (n : Nat) :
    v.Shows (RenderT.choose tape n) (RenderT.choose tape n) :=
  of_keeps fun _ hr => ⟨hr.session, hr.input⟩

theorem setPredicate (name value : Text) :
    v.Shows (RenderT.modifySession fun s => s.setPredicate name value)
      (RenderT.modifySession fun s => s.setPredicate name value) :=
  of_keeps fun _ hr => ⟨hr.session.setPredicate name value, hr.input⟩

variable {w : Surroundings} {f f' : Text → RenderM Text}

mutual

/-- A template shows what is written into it when it is spelled out. -/
theorem render (hf : ∀ t, v.Shows (f t) (f' t)) (scene : Scene) :
    ∀ t : Template, v.Shows (t.render w scene f) ((t.spellOut v).render w scene f')
  | .text t => by
    rw [Template.spellOut, Template.render, Template.render]
    exact .pure _
  | .literal t => by
    rw [Template.spellOut, Template.render, Template.render]
    exact .pure _
  | .sequence children => by
    rw [Template.spellOut, Template.render, Template.render]
    exact renderAll hf scene children
  | .random children => by
    rw [Template.spellOut, Template.render, Template.render, Template.length_spellOutAll,
      Template.isEmpty_spellOutAll]
    split
    · exact .pure _
    · exact (choose _ _).bind fun i => renderNth hf scene children i
  | .condition name? branches otherwise? => by
    rw [Template.spellOut, Template.render, Template.render]
    exact renderBranches hf scene name? (renderOptional hf scene otherwise?) branches
  | .reduce body => by
    rw [Template.spellOut, Template.render, Template.render]
    exact (render hf scene body).bind hf
  | .set name value => by
    rw [Template.spellOut, Template.render, Template.render]
    exact (render hf scene value).bind fun value =>
      (setPredicate name value.trim).bind fun _ => .pure _
  | .get name => by
    rw [Template.spellOut, Template.render, Template.render]
    exact session.bind fun _ => .pure _
  | .wildcard segment index => by
    rw [Template.spellOut, Template.render, Template.render]
    exact .pure _
  | .think body => by
    rw [Template.spellOut, Template.render, Template.render]
    exact (render hf scene body).bind fun _ => .pure _
  | .shaped shape body => by
    rw [Template.spellOut, Template.render, Template.render]
    exact (render hf scene body).bind fun _ => .pure _
  | .swapped swap body => by
    rw [Template.spellOut, Template.render, Template.render]
    exact (render hf scene body).bind fun _ => .pure _
  | .property name => by
    rw [Template.spellOut, Template.render, Template.render]
    exact .pure _
  | .input index => by
    rw [Template.spellOut, Template.render, Template.render]
    intro r hr
    rw [← hr.inputText_eq]
    exact ⟨rfl, hr⟩
  | .reply index => by
    rw [Template.spellOut, Template.render, Template.render]
    intro r hr
    rw [← hr.replyText_eq]
    exact ⟨rfl, hr⟩
  | .sessionId => by
    rw [Template.spellOut, Template.render, Template.render]
    exact session.bind fun _ => .pure _
  | .ruleCount => by
    rw [Template.spellOut, Template.render, Template.render]
    exact .pure _
  | .version => by
    rw [Template.spellOut, Template.render, Template.render]
    exact .pure _
  | .date => by
    rw [Template.spellOut, Template.render, Template.render]
    exact .pure _

theorem renderAll (hf : ∀ t, v.Shows (f t) (f' t)) (scene : Scene) :
    ∀ ts : List Template, v.Shows (Template.renderAll w scene f ts)
      (Template.renderAll w scene f' (Template.spellOutAll v ts))
  | [] => by
    rw [Template.spellOutAll, Template.renderAll, Template.renderAll]
    exact .pure _
  | t :: ts => by
    rw [Template.spellOutAll, Template.renderAll, Template.renderAll]
    exact (render hf scene t).bind fun _ => (renderAll hf scene ts).bind fun _ => .pure _

theorem renderNth (hf : ∀ t, v.Shows (f t) (f' t)) (scene : Scene) :
    ∀ (ts : List Template) (n : Nat), v.Shows (Template.renderNth w scene f ts n)
      (Template.renderNth w scene f' (Template.spellOutAll v ts) n)
  | [], n => by
    rw [Template.spellOutAll, Template.renderNth, Template.renderNth]
    exact .pure _
  | t :: ts, 0 => by
    rw [Template.spellOutAll, Template.renderNth, Template.renderNth]
    exact render hf scene t
  | t :: ts, n + 1 => by
    rw [Template.spellOutAll, Template.renderNth, Template.renderNth]
    exact renderNth hf scene ts n

theorem renderBranches (hf : ∀ t, v.Shows (f t) (f' t)) (scene : Scene) (name? : Option Text)
    {p p' : RenderM Text} (hp : v.Shows p p') :
    ∀ bs : List (Branch Template), v.Shows (Template.renderBranches w scene f name? p bs)
      (Template.renderBranches w scene f' name? p' (Template.spellOutBranches v bs))
  | [] => by
    rw [Template.spellOutBranches, Template.renderBranches, Template.renderBranches]
    exact hp
  | ⟨own?, value, body⟩ :: bs => by
    rw [Template.spellOutBranches, Template.renderBranches, Template.renderBranches]
    refine session.bind fun s => ?_
    split
    · exact render hf scene body
    · exact renderBranches hf scene name? hp bs

theorem renderOptional (hf : ∀ t, v.Shows (f t) (f' t)) (scene : Scene) :
    ∀ t? : Option Template, v.Shows (Template.renderOptional w scene f t?)
      (Template.renderOptional w scene f' (Template.spellOutOptional v t?))
  | none => by
    rw [Template.spellOutOptional, Template.renderOptional, Template.renderOptional]
    exact .pure _
  | some t => by
    rw [Template.spellOutOptional, Template.renderOptional, Template.renderOptional]
    exact render hf scene t

end

/-- A text is looked up under the context of the view. -/
theorem replyTo (hf : ∀ t, v.Shows (f t) (f' t)) (t : Text) :
    v.Shows (w.replyTo f t) (v.replyTo w f' t) := by
  refine session_bind fun r hr => ?_
  dsimp only
  rw [hr.query_eq]
  cases w.trie.find? (v.query w r.session.topic t) w.botName with
  | none => exact .pure _
  | some found => exact (render hf _ found.rule).bind fun _ => .pure _

theorem replyOrNote (hf : ∀ t, v.Shows (f t) (f' t)) (t : Text) :
    v.Shows (w.replyOrNote f t) (v.replyOrNote w f' t) := by
  refine (replyTo hf t).bind fun reply? => ?_
  cases reply? with
  | some reply => exact .pure _
  | none => exact (note _).bind fun _ => .pure _

theorem refuseNested (t : Text) : v.Shows (w.refuseNested t) (w.refuseNested t) :=
  of_keeps fun _ hr => ⟨hr.session, hr.input⟩

theorem refuseFurther (t : Text) : v.Shows (w.refuseFurther t) (w.refuseFurther t) := by
  refine of_keeps fun r hr => ?_
  cases hexhausted : r.exhausted with
  | true =>
    rw [w.run_refuseFurther_of_exhausted hexhausted]
    exact hr
  | false =>
    rw [w.run_refuseFurther_of_not_exhausted hexhausted]
    exact ⟨hr.session, hr.input⟩

/-- However deeply reductions are nested, they see what the sentence sees. -/
theorem reduce (budget : Nat) (t : Text) :
    v.Shows (w.reduce budget t) (v.reduce w budget t) := by
  induction budget generalizing t with
  | zero => exact refuseNested t
  | succ budget ih =>
    have hcount : v.Shows (modify fun r => { r with reductions := r.reductions + 1 })
        (modify fun r => { r with reductions := r.reductions + 1 }) :=
      of_keeps fun _ hr => ⟨hr.session, hr.input⟩
    have hperform : v.Shows (w.perform (w.reduce budget) t) (v.perform w (v.reduce w budget) t) :=
      hcount.bind fun _ => replyOrNote ih t
    have hcurrent : v.Shows RenderT.current RenderT.current := of_keeps fun _ hr => hr
    refine hcurrent.bind fun r => ?_
    split
    · exact refuseFurther t
    · exact hperform

end View.Shows

/-- **An answer sees the last turns and nothing else of the history.** In a conversation that
remembers the turns of a view, the answer to the sentence of the view is the one by the view: every
text that is looked up, by the sentence itself or by a reduction, is looked up under the context of
the view, and templates show its inputs and replies. The history stays as it is. -/
theorem View.run_answer (v : View) (w : Surroundings) {r : Rendering}
    (h : r.session.Remembers v.told v.limit) :
    (w.answer v.input).run r = (v.answer w).run r ∧
      ((w.answer v.input).run r).2.session.Remembers v.told v.limit := by
  obtain ⟨heq, hsees⟩ := View.Shows.replyOrNote (View.Shows.reduce w.manner.recursionLimit) v.input
    (w := w) { r with input := v.input, reductions := 0, exhausted := false } ⟨h, rfl⟩
  exact ⟨heq, hsees.session⟩

end Colloquy
