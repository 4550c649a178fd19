import Colloquy.Proofs.Render.Relation

/-!
# Earlier notices do not matter

Notices are given and never looked at, and a sentence is answered with all counts started anew. So
an answer depends on the conversation and on how much of the tape was read, and on nothing else that
earlier answers have left behind.

* `Rendering.behind` — the same state, with notices that were given before.
* `Surroundings.run_answer` — an answer from any state is that from a new one.
-/

namespace Colloquy

/-- The same state, with some notices that were given before. -/
def Rendering.behind (earlier : List Notice) (r : Rendering) : Rendering :=
  { r with notices := earlier ++ r.notices }

/-- A part does the same whichever notices were given before. -/
def Forgets ⦃α : Type⦄ (p p' : RenderM α) : Prop :=
  ∀ earlier r, p'.run (r.behind earlier) = ((p.run r).1, (p.run r).2.behind earlier)

namespace Forgets

theorem bind {α β : Type} {p p' : RenderM α} {f f' : α → RenderM β} (hp : Forgets p p')
    (hf : ∀ a, Forgets (f a) (f' a)) : Forgets (p >>= f) (p' >>= f') := by
  intro earlier r
  show (f' (p'.run (r.behind earlier)).1).run (p'.run (r.behind earlier)).2 = _
  rw [hp earlier r]
  exact hf (p.run r).1 earlier (p.run r).2

/-- To give notice is to put it behind all others. -/
theorem note (n : Notice) : Forgets (RenderT.note n) (RenderT.note n) := by
  intro earlier r
  show ((), { r with notices := earlier ++ r.notices ++ [n] }) =
    ((), { r with notices := earlier ++ (r.notices ++ [n]) })
  rw [List.append_assoc]

theorem congruence (w : Surroundings) : Congruence w w Forgets where
  alike := .refl w
  pure _ := fun _ _ => rfl
  bind hp hf := hp.bind hf
  session := fun _ _ => rfl
  inputText _ := fun _ _ => rfl
  setPredicate _ _ := fun _ _ => rfl
  choose _ := fun _ _ => rfl
  noMatch t := note (.noMatch t)

end Forgets

namespace Surroundings

variable (w : Surroundings)

theorem forgets_refuseNested (t : Text) : Forgets (w.refuseNested t) (w.refuseNested t) :=
  (Forgets.note (.recursionLimit t w.manner.recursionLimit)).bind fun _ _ _ => rfl

theorem forgets_refuseFurther (t : Text) : Forgets (w.refuseFurther t) (w.refuseFurther t) := by
  intro earlier r
  by_cases hexhausted : r.exhausted = true
  · rw [w.run_refuseFurther_of_exhausted hexhausted,
      w.run_refuseFurther_of_exhausted (r := r.behind earlier) hexhausted]
    rfl
  · have hnot : r.exhausted = false := eq_false_of_ne_true hexhausted
    rw [w.run_refuseFurther_of_not_exhausted hnot,
      w.run_refuseFurther_of_not_exhausted (r := r.behind earlier) hnot]
    exact congrArg (fun ns => (w.manner.fallback, { r with exhausted := true, notices := ns }))
      (List.append_assoc _ _ _)

theorem forgets_reduce (budget : Nat) (t : Text) :
    Forgets (w.reduce budget t) (w.reduce budget t) := by
  induction budget generalizing t with
  | zero => exact w.forgets_refuseNested t
  | succ budget ih =>
    intro earlier r
    by_cases hlimit : w.manner.reductionLimit ≤ r.reductions
    · rw [w.run_reduce_beyond hlimit, w.run_reduce_beyond (r := r.behind earlier) hlimit]
      exact w.forgets_refuseFurther t earlier r
    · have hwithin : r.reductions < w.manner.reductionLimit := Nat.lt_of_not_le hlimit
      rw [w.run_reduce_within hwithin, w.run_reduce_within (r := r.behind earlier) hwithin]
      exact (Forgets.congruence w).replyOrNote ih t earlier
        { r with reductions := r.reductions + 1 }

/-- **An answer carries nothing over but the conversation and the tape.** From any state, it is the
answer from a new state with the same conversation at the same place of the tape, and its notices
stand behind the earlier ones. -/
theorem run_answer (sentence : Text) (r : Rendering) :
    (w.answer sentence).run r =
      (((w.answer sentence).run { session := r.session, drawn := r.drawn }).1,
        ((w.answer sentence).run { session := r.session, drawn := r.drawn }).2.behind
          r.notices) := by
  have hforgets := (Forgets.congruence w).replyOrNote (w.forgets_reduce w.manner.recursionLimit)
    sentence r.notices ⟨r.session, r.drawn, sentence, 0, false, []⟩
  rw [Rendering.behind, List.append_nil] at hforgets
  exact hforgets

end Surroundings

end Colloquy
