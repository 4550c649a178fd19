import Colloquy.Proofs.Render.Relation

/-!
# Raising the limits

An answer that no limit had a part in is the same with higher limits. The two runs go through the
same states one by one, for as long as the first gives no notice of a limit: every reduction that
the first performs the second performs as well, and one that the first refuses is told by a notice,
or was told of before.

* `Surroundings.raise` — the same surroundings with other limits.
* `Spares` — one part does what another does wherever that one gives no notice of a limit.
* `Surroundings.spares_reduce` — reductions with higher limits spare those with lower ones.
* `Surroundings.answer_raise` — answers that no limit had a part in stay the same.
-/

namespace Colloquy

/-- Whether notice is given of a limit. -/
def Notice.isLimit : Notice → Bool
  | .noMatch _ => false
  | .recursionLimit _ _ => true
  | .reductionLimit _ _ => true

/-- The same surroundings with other limits, and another text in the place of what is beyond. -/
def Surroundings.raise (w : Surroundings) (recursionLimit reductionLimit : Nat) (fallback : Text) :
    Surroundings :=
  { w with manner := { w.manner with recursionLimit, reductionLimit, fallback } }

/-- A part only adds notices, and where it adds none of a limit, and none was given before, another
part does the same. -/
def Spares ⦃α : Type⦄ (p p' : RenderM α) : Prop :=
  ∀ r, ∃ added, (p.run r).2.notices = r.notices ++ added ∧
    ((∀ n ∈ added, n.isLimit = false) → r.exhausted = false →
      p'.run r = p.run r ∧ (p.run r).2.exhausted = false)

namespace Spares

/-- A part that gives no notice, and is the same in both. -/
theorem of_quiet {α : Type} {p : RenderM α} (hnotices : ∀ r, (p.run r).2.notices = r.notices)
    (hexhausted : ∀ r, (p.run r).2.exhausted = r.exhausted) : Spares p p := by
  intro r
  refine ⟨[], by rw [hnotices, List.append_nil], fun _ hr => ⟨rfl, ?_⟩⟩
  rw [hexhausted, hr]

/-- A part that gives notice of a limit has nothing to be spared for. -/
theorem of_limit {α : Type} {p p' : RenderM α} {r : Rendering} {n : Notice}
    (hn : n.isLimit = true) (hnotices : (p.run r).2.notices = r.notices ++ [n]) :
    ∃ added, (p.run r).2.notices = r.notices ++ added ∧
      ((∀ n ∈ added, n.isLimit = false) → r.exhausted = false →
        p'.run r = p.run r ∧ (p.run r).2.exhausted = false) := by
  refine ⟨[n], hnotices, fun hnone => ?_⟩
  have hfalse := hnone n (List.mem_singleton_self n)
  rw [hn] at hfalse
  cases hfalse

theorem bind {α β : Type} {p p' : RenderM α} {f f' : α → RenderM β} (hp : Spares p p')
    (hf : ∀ a, Spares (f a) (f' a)) : Spares (p >>= f) (p' >>= f') := by
  intro r
  obtain ⟨first, hfirst, hsame⟩ := hp r
  obtain ⟨rest, hrest, hsame'⟩ := hf (p.run r).1 (p.run r).2
  refine ⟨first ++ rest, ?_, fun hnone hr => ?_⟩
  · show ((f (p.run r).1).run (p.run r).2).2.notices = _
    rw [hrest, hfirst, List.append_assoc]
  · obtain ⟨heq, hexhausted⟩ := hsame (fun n hn => hnone n (List.mem_append_left _ hn)) hr
    obtain ⟨heq', hexhausted'⟩ :=
      hsame' (fun n hn => hnone n (List.mem_append_right _ hn)) hexhausted
    refine ⟨?_, hexhausted'⟩
    show (f' (p'.run r).1).run (p'.run r).2 = (f (p.run r).1).run (p.run r).2
    rw [heq, heq']

end Spares

namespace Surroundings

variable (w : Surroundings) {recursionLimit reductionLimit : Nat} {fallback : Text}

/-- Limits do not matter to what templates are rendered by. -/
theorem spares_congruence (recursionLimit reductionLimit : Nat) (fallback : Text) :
    Congruence w (w.raise recursionLimit reductionLimit fallback) Spares where
  alike := ⟨rfl, rfl, rfl, rfl, rfl, rfl, rfl, fun _ => rfl⟩
  pure _ := Spares.of_quiet (fun _ => rfl) fun _ => rfl
  bind hp hf := hp.bind hf
  session := Spares.of_quiet (fun _ => rfl) fun _ => rfl
  inputText _ := Spares.of_quiet (fun _ => rfl) fun _ => rfl
  setPredicate _ _ := Spares.of_quiet (fun _ => rfl) fun _ => rfl
  choose _ := Spares.of_quiet (fun _ => rfl) fun _ => rfl
  noMatch t := fun _ => ⟨[.noMatch t], rfl, fun _ hr => ⟨rfl, hr⟩⟩

/-- Reductions that may be nested more deeply, and of which there may be more, do what the others do
for as long as these give no notice of a limit. -/
theorem spares_reduce (hreductions : w.manner.reductionLimit ≤ reductionLimit) {b b' : Nat}
    (hb : b ≤ b') (t : Text) :
    Spares (w.reduce b t) ((w.raise recursionLimit reductionLimit fallback).reduce b' t) := by
  induction b generalizing b' t with
  | zero =>
    intro r
    have hnotices : ((w.reduce 0 t).run r).2.notices =
        r.notices ++ [.recursionLimit t w.manner.recursionLimit] := rfl
    exact Spares.of_limit rfl hnotices
  | succ b ih =>
    obtain ⟨b', rfl⟩ : ∃ c, b' = c + 1 := ⟨b' - 1, by omega⟩
    intro r
    by_cases hlimit : w.manner.reductionLimit ≤ r.reductions
    · by_cases hexhausted : r.exhausted = true
      · -- notice was given before, so that there is nothing to show
        rw [w.run_reduce_beyond hlimit, w.run_refuseFurther_of_exhausted hexhausted]
        refine ⟨[], (List.append_nil _).symm, fun _ hr => ?_⟩
        rw [hexhausted] at hr
        cases hr
      · have hnotices : ((w.reduce (b + 1) t).run r).2.notices =
            r.notices ++ [.reductionLimit t w.manner.reductionLimit] := by
          rw [w.run_reduce_beyond hlimit,
            w.run_refuseFurther_of_not_exhausted (eq_false_of_ne_true hexhausted)]
          rfl
        exact Spares.of_limit rfl hnotices
    · have hlt : r.reductions < w.manner.reductionLimit := Nat.lt_of_not_le hlimit
      rw [w.run_reduce_within hlt,
        run_reduce_within (r := r) _ (Nat.lt_of_lt_of_le hlt hreductions)]
      exact (w.spares_congruence recursionLimit reductionLimit fallback).replyOrNote
        (fun t => ih (Nat.le_of_succ_le_succ hb) t) t _

/-- **Higher limits change nothing of an answer that no limit had a part in.** With limits that are
at least as high, and any text for what is beyond them, an answer that adds no notice of a limit has
the same reply, adds the same notices, and leaves the conversation and the tape the same. -/
theorem answer_raise (hrecursion : w.manner.recursionLimit ≤ recursionLimit)
    (hreductions : w.manner.reductionLimit ≤ reductionLimit) (fallback sentence : Text)
    (r : Rendering) :
    ∃ added, ((w.answer sentence).run r).2.notices = r.notices ++ added ∧
      ((∀ n ∈ added, n.isLimit = false) →
        ((w.raise recursionLimit reductionLimit fallback).answer sentence).run r =
          (w.answer sentence).run r) := by
  obtain ⟨added, hadded, hsame⟩ :=
    (w.spares_congruence recursionLimit reductionLimit fallback).replyOrNote
      (w.spares_reduce hreductions hrecursion) sentence
      { r with input := sentence, reductions := 0, exhausted := false }
  exact ⟨added, hadded, fun hnone => (hsame hnone rfl).1⟩

/-- A bot that replies to `a` what it replies to `b`, and may perform a single reduction. -/
def relay : Surroundings where
  trie := ((Trie.empty {}).add ⟨[.word ['A']], .anything, .anything⟩ (.reduce (.text ['b']))).add
    ⟨[.word ['B']], .anything, .anything⟩ (.text ['c'])
  books := ∅
  profile := Dict.empty
  clock := 0
  manner := { recursionLimit := 1, reductionLimit := 1 }
  tape := .ofList []

/-- The single reduction is enough for `a`, so that more of them make no difference. -/
theorem answer_raise_relay :
    relay.manner.recursionLimit ≤ 50 ∧ relay.manner.reductionLimit ≤ 1000 ∧
      ((relay.answer ['a']).run ⟨.new [] 3, 0, [], 0, false, []⟩).1 = ['c'] ∧
      ((relay.raise 50 1000 ['?']).answer ['a']).run ⟨.new [] 3, 0, [], 0, false, []⟩ =
        (relay.answer ['a']).run ⟨.new [] 3, 0, [], 0, false, []⟩ := by
  have hrecursion : relay.manner.recursionLimit ≤ 50 := by decide
  have hreductions : relay.manner.reductionLimit ≤ 1000 := by decide
  have hnotices : ((relay.answer ['a']).run ⟨.new [] 3, 0, [], 0, false, []⟩).2.notices = [] := by
    decide +kernel
  obtain ⟨added, hadded, hsame⟩ :=
    answer_raise relay hrecursion hreductions ['?'] ['a'] ⟨.new [] 3, 0, [], 0, false, []⟩
  rw [hnotices, List.nil_append] at hadded
  refine ⟨hrecursion, hreductions, by decide +kernel, hsame ?_⟩
  rw [← hadded]
  simp

end Surroundings

end Colloquy
