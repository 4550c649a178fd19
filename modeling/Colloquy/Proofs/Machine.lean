/-!
# Machines

A machine is given things one after the other. Each time it gives something back and goes on in
another state. A trie that takes in rules is a machine, and so is a bot that is spoken to; what is
to be known about whole runs of either follows from what is known about one step.

* `Machine.run` — what is given back in a run, and the state in the end.
* `Machine.run_related` — machines that stay in related states give back the same.
* `Machine.heard` — what is given back for those things that somebody listens to.
* `Machine.heard_eq_run_filter` — what nobody listens to might as well not have been given.
-/

namespace Colloquy

namespace Machine

variable {σ τ ι ο : Type}

/-- What a machine gives back for some things, one after the other, and its state in the end. -/
def run (step : σ → ι → ο × σ) (s : σ) : List ι → List ο × σ
  | [] => ([], s)
  | i :: is =>
    let (o, s) := step s i
    let (os, s) := run step s is
    (o :: os, s)

/-- What a machine gives back for those things in a run that are listened to. -/
def heard (step : σ → ι → ο × σ) (listens : ι → Bool) (s : σ) : List ι → List ο
  | [] => []
  | i :: is =>
    let (o, s) := step s i
    if listens i then o :: heard step listens s is else heard step listens s is

variable {step : σ → ι → ο × σ} {step' : τ → ι → ο × τ}

/-! ## Small laws -/

@[simp] theorem run_nil (s : σ) : run step s [] = ([], s) := rfl

@[simp] theorem run_cons (s : σ) (i : ι) (is : List ι) :
    run step s (i :: is) = ((step s i).1 :: (run step (step s i).2 is).1,
      (run step (step s i).2 is).2) := rfl

theorem run_append (s : σ) (is js : List ι) :
    run step s (is ++ js) = ((run step s is).1 ++ (run step (run step s is).2 js).1,
      (run step (run step s is).2 js).2) := by
  induction is generalizing s with
  | nil => rfl
  | cons i is ih => simp [ih]

@[simp] theorem heard_nil (listens : ι → Bool) (s : σ) : heard step listens s [] = [] := rfl

theorem heard_cons (listens : ι → Bool) (s : σ) (i : ι) (is : List ι) :
    heard step listens s (i :: is) =
      if listens i then (step s i).1 :: heard step listens (step s i).2 is
      else heard step listens (step s i).2 is := rfl

/-! ## Runs from steps -/

/-- What every step keeps holds in the end. -/
theorem run_invariant {P : σ → Prop} (hstep : ∀ {s} i, P s → P (step s i).2) {s : σ} (h : P s)
    (is : List ι) : P (run step s is).2 := by
  induction is generalizing s with
  | nil => exact h
  | cons i is ih => exact ih (hstep i h)

/-- Two machines that from related states give back the same, and go on in related states, give
back the same in every run. -/
theorem run_related {R : σ → τ → Prop}
    (hstep : ∀ {s s'} i, R s s' → (step s i).1 = (step' s' i).1 ∧ R (step s i).2 (step' s' i).2)
    {s : σ} {s' : τ} (h : R s s') (is : List ι) :
    (run step s is).1 = (run step' s' is).1 ∧ R (run step s is).2 (run step' s' is).2 := by
  induction is generalizing s s' with
  | nil => exact ⟨rfl, h⟩
  | cons i is ih =>
    obtain ⟨hout, hnext⟩ := hstep i h
    obtain ⟨houts, hlast⟩ := ih hnext
    rw [run_cons, run_cons, hout, houts]
    exact ⟨rfl, hlast⟩

section

variable {R : σ → σ → Prop} {listens : ι → Bool}

/-- A relation that steps keep side by side, and that a step over what is not listened to keeps on
its own, relates a run to the run without what is not listened to. -/
theorem run_filter_related
    (hheard : ∀ {s s'} i, listens i = true → R s s' → R (step s i).2 (step s' i).2)
    (hunheard : ∀ {s s'} i, listens i = false → R s s' → R (step s i).2 s')
    {s s' : σ} (h : R s s') (is : List ι) :
    R (run step s is).2 (run step s' (is.filter listens)).2 := by
  induction is generalizing s s' with
  | nil => exact h
  | cons i is ih =>
    cases hi : listens i with
    | true =>
      rw [List.filter_cons_of_pos hi]
      exact ih (hheard i hi h)
    | false =>
      rw [List.filter_cons_of_neg (by simp [hi])]
      exact ih (hunheard i hi h)

/-- If what is listened to is answered alike in related states, then what is heard in a run is what
would be heard if nothing else had been given. -/
theorem heard_eq_run_filter
    (hheard : ∀ {s s'} i, listens i = true → R s s' →
      (step s i).1 = (step s' i).1 ∧ R (step s i).2 (step s' i).2)
    (hunheard : ∀ {s s'} i, listens i = false → R s s' → R (step s i).2 s')
    {s s' : σ} (h : R s s') (is : List ι) :
    heard step listens s is = (run step s' (is.filter listens)).1 := by
  induction is generalizing s s' with
  | nil => rfl
  | cons i is ih =>
    rw [heard_cons]
    cases hi : listens i with
    | true =>
      obtain ⟨hout, hnext⟩ := hheard i hi h
      rw [List.filter_cons_of_pos hi, run_cons, if_pos rfl, hout, ih hnext]
    | false =>
      rw [List.filter_cons_of_neg (by simp [hi]), if_neg (by simp), ih (hunheard i hi h)]

end

end Machine

end Colloquy
