import Colloquy.Render.Eval

/-!
# Answering a sentence

A sentence is looked up and the template of its rule rendered. A reduction does the same for the
text that its body renders to, within two limits: on how deeply reductions are nested, and on how
many there are in one answer.
-/

namespace Colloquy

namespace Surroundings

variable (w : Surroundings)

/-! ## Parts that may be kept track of -/

section

variable {m : Type → Type} [Monad m]

/-- Look a text up in the light of the conversation and render the template of its rule; `none` if
no rule matches. -/
@[specialize] def replyTo (reduceText : Text → RenderT m Text) (t : Text) :
    RenderT m (Option Text) := do
  let q := w.query (← RenderT.session) t
  match w.trie.find? q w.botName with
  | none => return none
  | some found =>
    let reply ← found.rule.render w ⟨q, found.bindings⟩ reduceText
    return some reply.trim

/-- Look a text up and render the template of its rule, with a notice and an empty reply if no rule
matches. -/
@[specialize] def replyOrNote (reduceText : Text → RenderT m Text) (t : Text) :
    RenderT m Text := do
  match ← w.replyTo reduceText t with
  | some reply => return reply
  | none =>
    RenderT.note (.noMatch t)
    return []

/-- A reduction that would be nested too deeply. -/
def refuseNested (t : Text) : RenderT m Text := do
  RenderT.note (.recursionLimit t w.manner.recursionLimit)
  return w.manner.fallback

/-- A reduction after too many others. Notice is given only of the first. -/
def refuseFurther (t : Text) : RenderT m Text := do
  let r ← RenderT.current
  if !r.exhausted then
    set { r with exhausted := true }
    RenderT.note (.reductionLimit t w.manner.reductionLimit)
  return w.manner.fallback

/-- A reduction that is within the limits: it is counted, and its text is replied to. -/
@[specialize] def perform (reduceText : Text → RenderT m Text) (t : Text) : RenderT m Text := do
  modify fun r => { r with reductions := r.reductions + 1 }
  w.replyOrNote reduceText t

/-- Make ready for another sentence: the counts of the limits start anew. -/
def begin (sentence : Text) : RenderT m Unit :=
  modify fun r => { r with input := sentence, reductions := 0, exhausted := false }

end

/-! ## Reductions and answers -/

/-- The reply to a text as new input, with `budget` reductions yet to be nested. Beyond a limit it
is the fallback, and nothing is looked up. -/
def reduce : (budget : Nat) → Text → RenderM Text
  | 0, t => w.refuseNested t
  | budget + 1, t => do
    if w.manner.reductionLimit ≤ (← RenderT.current).reductions then w.refuseFurther t
    else w.perform (reduce budget) t

/-- The reply to a sentence, empty if no rule matches. -/
def answer (sentence : Text) : RenderM Text := do
  begin sentence
  w.replyOrNote (w.reduce w.manner.recursionLimit) sentence

/-! ## Small laws -/

section

variable {m : Type → Type} [Monad m] [LawfulMonad m] {r : Rendering}

theorem run_refuseFurther_of_exhausted (h : r.exhausted = true) (t : Text) :
    (w.refuseFurther t : RenderT m Text).run r = pure (w.manner.fallback, r) := by
  simp [refuseFurther, RenderT.current, h]

theorem run_refuseFurther_of_not_exhausted (h : r.exhausted = false) (t : Text) :
    (w.refuseFurther t : RenderT m Text).run r = pure (w.manner.fallback,
      { r with
        exhausted := true
        notices := r.notices ++ [.reductionLimit t w.manner.reductionLimit] }) := by
  simp [refuseFurther, RenderT.current, RenderT.note, h]

end

variable {r : Rendering}

/-- After too many reductions, another is refused. -/
theorem run_reduce_beyond (h : w.manner.reductionLimit ≤ r.reductions) (budget : Nat) (t : Text) :
    (w.reduce (budget + 1) t).run r = (w.refuseFurther t : RenderM Text).run r := by
  simp [reduce, RenderT.current, h]

/-- Within the limits, a reduction is counted and its text replied to. -/
theorem run_reduce_within (h : r.reductions < w.manner.reductionLimit) (budget : Nat) (t : Text) :
    (w.reduce (budget + 1) t).run r =
      (w.replyOrNote (w.reduce budget) t).run { r with reductions := r.reductions + 1 } := by
  simp [reduce, perform, RenderT.current, Nat.not_le.mpr h]

end Surroundings

end Colloquy
