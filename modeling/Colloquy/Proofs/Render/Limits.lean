import Colloquy.Proofs.Render.Relation
import Mathlib.Data.List.Induction

/-!
# An answer stays within the limits

Rules may send each other their texts in circles, so that only the two limits keep an answer from
going on for ever. That a choice by chance comes to its end is not their doing: it is a condition on
the tape that the words are read from (`Tape.fair`).

To see what the limits do, the reductions are watched: it is written down when one is begun, when it
has its reply, and when one is refused. Watching changes nothing of the answer, and what was written
down is lawful: beyond a limit there is nothing but refusals.

* `Event`, `Trace` — what is written down.
* `Surroundings.watchedAnswer` — an answer whose reductions are watched.
* `Surroundings.Lawful` — a trace in which nothing happens that the limits forbid.
* `Surroundings.watchedReduce_keeps` — one reduction after the other keeps the record straight.
* `Surroundings.answer_keeps_limits` — what the limits do, for every answer.
-/

namespace Colloquy

/-! ## What is written down -/

/-- What becomes of a reduction. -/
inductive Event where
  /-- It is performed: its text is replied to. -/
  | opened (t : Text)
  /-- It was performed, and this is its reply. -/
  | closed (reply : Text)
  /-- It is refused, with the state before, the state after and the reply. -/
  | refused (t : Text) (before after : Rendering) (reply : Text)

namespace Event

/-- Whether a reduction is begun. -/
@[simp] def isOpened : Event → Bool
  | opened _ => true
  | _ => false

/-- Whether a reduction is done. -/
@[simp] def isClosed : Event → Bool
  | closed _ => true
  | _ => false

end Event

/-- What was written down, in order. -/
abbrev Trace := List Event

namespace Trace

/-- How many reductions were performed, those included that have no reply yet. -/
def performed (tr : Trace) : Nat :=
  tr.countP Event.isOpened

/-- How many reductions have their reply. -/
def finished (tr : Trace) : Nat :=
  tr.countP Event.isClosed

@[simp] theorem performed_concat (tr : Trace) (e : Event) :
    performed (tr ++ [e]) = tr.performed + e.isOpened.toNat := by
  rw [performed, List.countP_append, List.countP_singleton]
  cases e.isOpened <;> rfl

@[simp] theorem finished_concat (tr : Trace) (e : Event) :
    finished (tr ++ [e]) = tr.finished + e.isClosed.toNat := by
  rw [finished, List.countP_append, List.countP_singleton]
  cases e.isClosed <;> rfl

end Trace

/-! ## Watching -/

/-- A part of a rendering whose reductions are watched. -/
abbrev WatchedM := RenderT (StateM Trace)

namespace WatchedM

/-- Write something down. -/
def emit (e : Event) : WatchedM Unit :=
  modifyThe Trace (· ++ [e])

/-- Watch a reduction that is refused. -/
def refusal (refuse : Text → WatchedM Text) (t : Text) : WatchedM Text := do
  let before ← RenderT.current
  let reply ← refuse t
  emit (.refused t before (← RenderT.current) reply)
  return reply

/-- Watch a reduction that is performed. -/
def reduction (perform : Text → WatchedM Text) (t : Text) : WatchedM Text := do
  emit (.opened t)
  let reply ← perform t
  emit (.closed reply)
  return reply

end WatchedM

namespace Surroundings

variable (w : Surroundings)

/-- The reply to a text as new input, as `reduce` gives it, watched. -/
def watchedReduce : (budget : Nat) → Text → WatchedM Text
  | 0, t => WatchedM.refusal w.refuseNested t
  | budget + 1, t => do
    if w.manner.reductionLimit ≤ (← RenderT.current).reductions then
      WatchedM.refusal w.refuseFurther t
    else WatchedM.reduction (w.perform (watchedReduce budget)) t

/-- The reply to a sentence, as `answer` gives it, watched. -/
def watchedAnswer (sentence : Text) : WatchedM Text := do
  begin sentence
  w.replyOrNote (w.watchedReduce w.manner.recursionLimit) sentence

/-! ## Traces that keep the limits -/

/-- A limit is reached after what is written down: so many reductions are nested, or were
performed, that there may be no other. -/
def Past (tr : Trace) : Prop :=
  tr.finished + w.manner.recursionLimit ≤ tr.performed ∨ w.manner.reductionLimit ≤ tr.performed

/-- What may come next after what is written down. -/
def Admits (tr : Trace) : Event → Prop
  | .opened _ => ¬ w.Past tr
  | .closed _ => tr.finished < tr.performed
  | .refused _ before after reply =>
    w.Past tr ∧ reply = w.manner.fallback ∧ after.session = before.session ∧
      after.drawn = before.drawn

/-- At no place is anything written down that may not come next. -/
def Lawful (tr : Trace) : Prop :=
  ∀ pre e post, tr = pre ++ e :: post → w.Admits pre e

variable {w}

theorem Lawful.nil : w.Lawful [] := by
  intro pre e post h
  simp at h

theorem Lawful.concat {tr : Trace} {e : Event} (h : w.Lawful tr) (he : w.Admits tr e) :
    w.Lawful (tr ++ [e]) := by
  intro pre e' post heq
  -- the event is the last one, or there is one behind it that is left away
  rcases List.eq_nil_or_concat post with rfl | ⟨post, last, rfl⟩
  · obtain ⟨rfl, hlast⟩ := List.append_inj' heq rfl
    obtain rfl := List.singleton_inj.mp hlast
    exact he
  · rw [List.concat_eq_append, ← List.cons_append, ← List.append_assoc] at heq
    exact h pre e' post (List.append_inj' heq rfl).1

theorem Lawful.of_prefix {pre tr : Trace} (h : w.Lawful tr) (hpre : pre <+: tr) :
    w.Lawful pre := by
  obtain ⟨rest, rfl⟩ := hpre
  intro a e b heq
  exact h a e (b ++ rest) (by rw [heq, List.append_assoc, List.cons_append])

/-- No more reductions are begun than there may be, neither in all nor nested. -/
theorem Lawful.bounds {tr : Trace} (h : w.Lawful tr) :
    tr.performed ≤ w.manner.reductionLimit ∧
      tr.performed ≤ tr.finished + w.manner.recursionLimit := by
  induction tr using List.reverseRecOn with
  | nil => exact ⟨Nat.zero_le _, Nat.zero_le _⟩
  | append_singleton tr e ih =>
    obtain ⟨hall, hnested⟩ := ih (h.of_prefix (List.prefix_append _ _))
    have hnext : w.Admits tr e := h tr e [] rfl
    rw [Trace.performed_concat, Trace.finished_concat]
    cases e with
    | opened t =>
      simp only [Admits, Past] at hnext
      simp only [Event.isOpened, Event.isClosed, Bool.toNat_true, Bool.toNat_false]
      omega
    | closed reply =>
      simp only [Event.isOpened, Event.isClosed, Bool.toNat_true, Bool.toNat_false]
      omega
    | refused t before after reply => exact ⟨hall, hnested⟩

end Surroundings

/-! ## What a rendering and its trace have to do with each other -/

/-- Whether notice is given that there were too many reductions. -/
def Notice.isReductionLimit : Notice → Bool
  | .reductionLimit _ _ => true
  | _ => false

/-- A rendering and what was written down of it, with `depth` reductions that have no reply yet.
The notices in `start` were given before. -/
structure Watching (w : Surroundings) (start : List Notice) (depth : Nat) (r : Rendering)
    (tr : Trace) : Prop where
  lawful : w.Lawful tr
  counted : r.reductions = tr.performed
  nested : tr.performed = tr.finished + depth
  notices : ∃ added, r.notices = start ++ added ∧
    added.countP Notice.isReductionLimit = r.exhausted.toNat
  exhausted : r.exhausted = true → tr.performed = w.manner.reductionLimit

namespace Watching

variable {w : Surroundings} {start : List Notice} {depth : Nat} {r : Rendering} {tr : Trace}

/-- Another notice that is not about the number of reductions. -/
theorem note (h : Watching w start depth r tr) (n : Notice) (hn : n.isReductionLimit = false) :
    Watching w start depth { r with notices := r.notices ++ [n] } tr := by
  obtain ⟨added, heq, hcount⟩ := h.notices
  refine ⟨h.lawful, h.counted, h.nested, ⟨added ++ [n], ?_, ?_⟩, h.exhausted⟩
  · simp only [heq, List.append_assoc]
  · simp only [List.countP_append, hcount, List.countP_singleton, hn]
    simp

/-- A refusal is written down where a limit is reached. -/
theorem refuse (h : Watching w start depth r tr) (hpast : w.Past tr) (t : Text)
    {before after : Rendering} (hsession : after.session = before.session)
    (hdrawn : after.drawn = before.drawn) :
    Watching w start depth r (tr ++ [.refused t before after w.manner.fallback]) where
  lawful := h.lawful.concat ⟨hpast, rfl, hsession, hdrawn⟩
  counted := by simp [h.counted]
  nested := by simpa using h.nested
  notices := h.notices
  exhausted hr := by simpa using h.exhausted hr

/-- Where no limit is reached, a reduction is begun and counted. -/
theorem begin (h : Watching w start depth r tr) (hpast : ¬ w.Past tr) (t : Text) :
    Watching w start (depth + 1) { r with reductions := r.reductions + 1 }
      (tr ++ [.opened t]) where
  lawful := h.lawful.concat hpast
  counted := by simp [h.counted]
  nested := by
    rw [Trace.performed_concat, Trace.finished_concat, h.nested]
    simp only [Event.isOpened, Event.isClosed, Bool.toNat_true, Bool.toNat_false]
    omega
  notices := h.notices
  exhausted hr := by
    have hall := h.exhausted hr
    exact absurd (Or.inr (Nat.le_of_eq hall.symm)) hpast

/-- The reduction that was begun last has its reply. -/
theorem finish (h : Watching w start (depth + 1) r tr) (reply : Text) :
    Watching w start depth r (tr ++ [.closed reply]) where
  lawful := by
    refine h.lawful.concat ?_
    have := h.nested
    show tr.finished < tr.performed
    omega
  counted := by simp [h.counted]
  nested := by
    rw [Trace.performed_concat, Trace.finished_concat, h.nested]
    simp only [Event.isOpened, Event.isClosed, Bool.toNat_true, Bool.toNat_false]
    omega
  notices := h.notices
  exhausted hr := by simpa using h.exhausted hr

end Watching

/-! ## Step by step -/

/-- A part that is watched does the same as one that is not, and keeps the record straight. -/
def Keeps (w : Surroundings) (start : List Notice) (depth : Nat) ⦃α : Type⦄ (p : WatchedM α)
    (p' : RenderM α) : Prop :=
  ∀ r tr, Watching w start depth r tr →
    ∃ tr', (p.run r).run tr = (p'.run r, tr') ∧ Watching w start depth (p'.run r).2 tr'

namespace Keeps

variable {w : Surroundings} {start : List Notice} {depth : Nat}

/-- A part in which nothing is written down. -/
theorem of_quiet {α : Type} {p : WatchedM α} {p' : RenderM α}
    (hrun : ∀ r tr, (p.run r).run tr = (p'.run r, tr))
    (hkeeps : ∀ r tr, Watching w start depth r tr → Watching w start depth (p'.run r).2 tr) :
    Keeps w start depth p p' :=
  fun r tr h => ⟨tr, hrun r tr, hkeeps r tr h⟩

theorem bind {α β : Type} {p : WatchedM α} {p' : RenderM α} {f : α → WatchedM β}
    {f' : α → RenderM β} (hp : Keeps w start depth p p')
    (hf : ∀ a, Keeps w start depth (f a) (f' a)) :
    Keeps w start depth (p >>= f) (p' >>= f') := by
  intro r tr h
  obtain ⟨tr₁, hrun, h₁⟩ := hp r tr h
  obtain ⟨tr₂, hrun', h₂⟩ := hf (p'.run r).1 (p'.run r).2 tr₁ h₁
  refine ⟨tr₂, ?_, h₂⟩
  calc ((p >>= f).run r).run tr
      = ((f ((p.run r).run tr).1.1).run ((p.run r).run tr).1.2).run ((p.run r).run tr).2 := rfl
    _ = ((f (p'.run r).1).run (p'.run r).2).run tr₁ := by rw [hrun]
    _ = ((p' >>= f').run r, tr₂) := hrun'

/-- What templates are rendered by is not written down, and changes nothing of what is counted. -/
theorem congruence (w : Surroundings) (start : List Notice) (depth : Nat) :
    Congruence w w (Keeps w start depth) where
  alike := .refl w
  pure _ := of_quiet (fun _ _ => rfl) fun _ _ h => h
  bind hp hf := hp.bind hf
  session := of_quiet (fun _ _ => rfl) fun _ _ h => h
  inputText _ := of_quiet (fun _ _ => rfl) fun _ _ h => h
  setPredicate _ _ := of_quiet (fun _ _ => rfl) fun _ _ h =>
    ⟨h.lawful, h.counted, h.nested, h.notices, h.exhausted⟩
  choose _ := of_quiet (fun _ _ => rfl) fun _ _ h =>
    ⟨h.lawful, h.counted, h.nested, h.notices, h.exhausted⟩
  noMatch t := of_quiet (fun _ _ => rfl) fun _ _ h => h.note (.noMatch t) rfl

end Keeps

namespace Surroundings

variable (w : Surroundings)

/-- A reduction that would be nested too deeply is refused where the limit is reached. -/
theorem keeps_refuseNested (start : List Notice) (t : Text) :
    Keeps w start w.manner.recursionLimit (WatchedM.refusal w.refuseNested t)
      (w.refuseNested t) := by
  intro r tr h
  have hpast : w.Past tr := Or.inl (Nat.le_of_eq h.nested.symm)
  refine ⟨_, rfl, ?_⟩
  exact (h.note (.recursionLimit t w.manner.recursionLimit) rfl).refuse hpast t rfl rfl

/-- What is written down of a refusal that does not look at what is written down. -/
theorem run_refusal {refuse : Text → WatchedM Text} {t reply : Text} {r r' : Rendering}
    (h : (refuse t).run r = pure (reply, r')) (tr : Trace) :
    ((WatchedM.refusal refuse t).run r).run tr = ((reply, r'), tr ++ [.refused t r r' reply]) := by
  calc ((WatchedM.refusal refuse t).run r).run tr
      = ((((refuse t).run r).run tr).1,
          (((refuse t).run r).run tr).2 ++
            [.refused t r (((refuse t).run r).run tr).1.2 (((refuse t).run r).run tr).1.1]) := rfl
    _ = ((reply, r'), tr ++ [.refused t r r' reply]) := by rw [h]; rfl

/-- What is written down of a reduction that is performed. -/
theorem run_reduction_perform {reduceText : Text → WatchedM Text} {t : Text} {r : Rendering}
    {out : Text × Rendering} {tr tr' : Trace}
    (h : ((w.replyOrNote reduceText t).run { r with reductions := r.reductions + 1 }).run
      (tr ++ [.opened t]) = (out, tr')) :
    ((WatchedM.reduction (w.perform reduceText) t).run r).run tr =
      (out, tr' ++ [.closed out.1]) := by
  let done := ((w.replyOrNote reduceText t).run { r with reductions := r.reductions + 1 }).run
    (tr ++ [.opened t])
  calc ((WatchedM.reduction (w.perform reduceText) t).run r).run tr
      = (done.1, done.2 ++ [.closed done.1.1]) := rfl
    _ = (out, tr' ++ [.closed out.1]) := by rw [show done = (out, tr') from h]

/-- After too many reductions another is refused, and notice is given of the first. -/
theorem watching_refuseFurther {start : List Notice} {depth : Nat} {r : Rendering} {tr : Trace}
    (h : Watching w start depth r tr) (hlimit : w.manner.reductionLimit ≤ r.reductions)
    (t : Text) :
    ∃ tr', ((WatchedM.refusal w.refuseFurther t).run r).run tr =
        ((w.refuseFurther t : RenderM Text).run r, tr') ∧
      Watching w start depth ((w.refuseFurther t : RenderM Text).run r).2 tr' := by
  have hall : tr.performed = w.manner.reductionLimit :=
    Nat.le_antisymm h.lawful.bounds.1 (h.counted ▸ hlimit)
  have hpast : w.Past tr := Or.inr (Nat.le_of_eq hall.symm)
  cases hexhausted : r.exhausted with
  | true =>
    rw [run_refusal (w.run_refuseFurther_of_exhausted hexhausted t),
      w.run_refuseFurther_of_exhausted hexhausted t]
    exact ⟨_, rfl, h.refuse hpast t rfl rfl⟩
  | false =>
    rw [run_refusal (w.run_refuseFurther_of_not_exhausted hexhausted t),
      w.run_refuseFurther_of_not_exhausted hexhausted t]
    refine ⟨_, rfl, Watching.refuse ?_ hpast t rfl rfl⟩
    obtain ⟨added, heq, hcount⟩ := h.notices
    refine ⟨h.lawful, h.counted, h.nested,
      ⟨added ++ [.reductionLimit t w.manner.reductionLimit], ?_, ?_⟩, fun _ => hall⟩
    · show r.notices ++ [_] = _
      rw [heq, List.append_assoc]
    · rw [List.countP_append, hcount, hexhausted]
      rfl

/-- A reduction with `budget` others yet to be nested in it keeps the record straight. -/
theorem watchedReduce_keeps (start : List Notice) {budget depth : Nat}
    (hbudget : budget + depth = w.manner.recursionLimit) (t : Text) :
    Keeps w start depth (w.watchedReduce budget t) (w.reduce budget t) := by
  induction budget generalizing depth t with
  | zero =>
    rw [Nat.zero_add] at hbudget
    rw [watchedReduce, reduce, hbudget]
    exact w.keeps_refuseNested start t
  | succ budget ih =>
    intro r tr h
    by_cases hlimit : w.manner.reductionLimit ≤ r.reductions
    · have hwatched : (w.watchedReduce (budget + 1) t).run r =
          (WatchedM.refusal w.refuseFurther t).run r := by
        simp [watchedReduce, RenderT.current, hlimit]
      rw [hwatched, w.run_reduce_beyond hlimit]
      exact w.watching_refuseFurther h hlimit t
    · have hwatched : (w.watchedReduce (budget + 1) t).run r =
          (WatchedM.reduction (w.perform (w.watchedReduce budget)) t).run r := by
        simp [watchedReduce, RenderT.current, hlimit]
      have hpast : ¬ w.Past tr := by
        have := h.nested
        have := h.counted
        simp only [Past]
        omega
      obtain ⟨tr', hrun, h'⟩ := (Keeps.congruence w start (depth + 1)).replyOrNote
        (fun t => ih (by omega) t) t _ _ (h.begin hpast t)
      rw [hwatched, w.run_reduce_within (Nat.lt_of_not_le hlimit)]
      exact ⟨_, w.run_reduction_perform hrun, h'.finish _⟩

/-- Watched or not, an answer is the same, and what was written down of it is in keeping with its
notices. -/
theorem watchedAnswer_keeps (sentence : Text) (r : Rendering) :
    ∃ tr, ((w.watchedAnswer sentence).run r).run [] = ((w.answer sentence).run r, tr) ∧
      Watching w r.notices 0 ((w.answer sentence).run r).2 tr := by
  have hstart : Watching w r.notices 0
      { r with input := sentence, reductions := 0, exhausted := false } [] :=
    ⟨Lawful.nil, rfl, rfl, ⟨[], by simp, rfl⟩, by simp⟩
  exact (Keeps.congruence w r.notices 0).replyOrNote
    (w.watchedReduce_keeps r.notices (Nat.add_zero _)) sentence _ _ hstart

/-- **An answer keeps the limits.** Every answer comes to its end, watched or not. This asks one thing
of the source of chance, which every tape brings along (`Tape.fair`): a choice meets a word that is
taken. On a source that yields the largest word for ever, a choice among three replies would refuse
words without end, whatever the limits are; no tape is such a source. Of what was written down of an
answer and of the notices that it adds:

* every reduction that was performed was counted and has its reply, and no more were performed than
  the reduction limit allows;
* at no time were more of them nested than the recursion limit allows;
* notice is given at most once that there were too many, and then just as many were performed as
  the limit allows;
* a reduction is performed only where no limit is reached; any other gives the fallback, and changes
  neither the conversation nor how much of the tape was read. -/
theorem answer_keeps_limits (sentence : Text) (r : Rendering) :
    ∃ (tr : Trace) (added : List Notice),
      ((w.watchedAnswer sentence).run r).run [] = ((w.answer sentence).run r, tr) ∧
      ((w.answer sentence).run r).2.notices = r.notices ++ added ∧
      ((w.answer sentence).run r).2.reductions = tr.performed ∧
      tr.finished = tr.performed ∧ tr.performed ≤ w.manner.reductionLimit ∧
      (∀ pre : Trace, pre <+: tr → pre.performed ≤ pre.finished + w.manner.recursionLimit) ∧
      added.countP Notice.isReductionLimit ≤ 1 ∧
      (∀ n ∈ added, n.isReductionLimit → tr.performed = w.manner.reductionLimit) ∧
      (∀ pre post t, tr = pre ++ .opened t :: post → ¬ w.Past pre) ∧
      ∀ pre post t before after reply, tr = pre ++ .refused t before after reply :: post →
        w.Past pre ∧ reply = w.manner.fallback ∧ after.session = before.session ∧
          after.drawn = before.drawn := by
  obtain ⟨tr, hrun, h⟩ := w.watchedAnswer_keeps sentence r
  obtain ⟨added, hnotices, hcount⟩ := h.notices
  refine ⟨tr, added, hrun, hnotices, h.counted, ?_, h.lawful.bounds.1, ?_, ?_, ?_, ?_, ?_⟩
  · exact h.nested.symm
  · intro pre hpre
    exact (h.lawful.of_prefix hpre).bounds.2
  · rw [hcount]
    exact Bool.toNat_le _
  · intro n hn hlimit
    have hpos : 0 < added.countP Notice.isReductionLimit := List.countP_pos_iff.mpr ⟨n, hn, hlimit⟩
    cases hexhausted : ((w.answer sentence).run r).2.exhausted with
    | true => exact h.exhausted hexhausted
    | false =>
      rw [hcount, hexhausted] at hpos
      exact absurd hpos (by decide)
  · intro pre post t heq
    exact h.lawful pre _ post heq
  · intro pre post t before after reply heq
    exact h.lawful pre _ post heq

end Surroundings

end Colloquy
