import Colloquy.Phrasebook.Basic

/-!
# Writing a text anew by a phrasebook

A text is cut into runs of word characters and runs of other characters. At a word, the longest
phrase that begins there is replaced; failing that, the part of the word before its first apostrophe
is looked up; failing that, the word is kept. What has been written is not looked up again, so a
phrasebook may exchange two words.
-/

namespace Colloquy

/-- A longest stretch of characters that are all word characters or all not. -/
structure Run where
  chars : Text
  isWord : Bool
  deriving DecidableEq, Repr

namespace Run

/-- Put a character before some runs: it joins the first of them if it is of its kind. -/
def cons (c : Char) : List Run → List Run
  | [] => [⟨[c], isWordChar c⟩]
  | r :: rs =>
    if r.isWord = isWordChar c then ⟨c :: r.chars, r.isWord⟩ :: rs
    else ⟨[c], isWordChar c⟩ :: r :: rs

/-- Either way the runs begin with the character. -/
theorem flatMap_chars_cons (c : Char) (rs : List Run) :
    (cons c rs).flatMap chars = c :: rs.flatMap chars := by
  cases rs with
  | nil => rfl
  | cons r rs =>
    rw [cons]
    split <;> rfl

/-- White space and nothing else between two words. -/
def isGap (r : Run) : Bool :=
  !r.isWord && r.chars.isBlankText

end Run

/-- The runs of a text, in order. -/
def Text.runs (t : Text) : List Run :=
  t.foldr Run.cons []

theorem Text.runs_cons (c : Char) (t : Text) : runs (c :: t) = Run.cons c t.runs := rfl

/-- One after the other the runs are the text. -/
theorem Text.flatMap_chars_runs (t : Text) : t.runs.flatMap Run.chars = t := by
  induction t with
  | nil => rfl
  | cons c t ih => rw [runs_cons, Run.flatMap_chars_cons, ih]

namespace Phrasebook

/-- A phrase found in a text: the text it covers, its replacement, and the number of runs it takes
after its first. -/
structure Hit where
  covered : Text
  replacement : Text
  taken : Nat

/-- The longest phrase that goes on from `phrase`, which covers `covered` and `taken` runs, over the
runs that follow, by at most `room` words. -/
def longestHit? (b : Phrasebook) (phrase covered : Text) (taken : Nat) :
    (room : Nat) → List Run → Option Hit
  | room + 1, gap :: next :: rest =>
    let here := (b.entries.find? phrase).map fun r => ⟨covered, r, taken⟩
    if gap.isGap && next.isWord then
      (b.longestHit? (phrase ++ ' ' :: next.chars.lower) (covered ++ gap.chars ++ next.chars)
        (taken + 2) room rest).or here
    else here
  | _, _ => (b.entries.find? phrase).map fun r => ⟨covered, r, taken⟩

/-- The longest phrase that begins with the given word. -/
def hitAt? (b : Phrasebook) (word : Text) (following : List Run) : Option Hit :=
  b.longestHit? word.lower word 0 (b.longest - 1) following

/-- A word whose part before the first apostrophe is a phrase, with that part replaced. -/
def headReplaced? (b : Phrasebook) (word : Text) : Option Text :=
  let (head, tail) := word.span (· ≠ '\'')
  if tail = [] then none
  else (b.entries.find? (Text.lower head)).map fun r => Text.inCaseOf head r ++ tail

/-- Runs written anew, from left to right. -/
def rewriteRuns (b : Phrasebook) : List Run → Text
  | [] => []
  | r :: rs =>
    if r.isWord then
      match b.hitAt? r.chars rs with
      | some hit => Text.inCaseOf hit.covered hit.replacement ++ b.rewriteRuns (rs.drop hit.taken)
      | none => (b.headReplaced? r.chars).getD r.chars ++ b.rewriteRuns rs
    else r.chars ++ b.rewriteRuns rs
  termination_by rs => rs.length
  decreasing_by all_goals simp only [List.length_drop, List.length_cons]; omega

/-- A text written anew. -/
def rewrite (b : Phrasebook) (t : Text) : Text :=
  b.rewriteRuns t.runs

/-! ## Small laws -/

section
variable {b : Phrasebook} {r : Run} {rs : List Run}

@[simp] theorem rewriteRuns_nil (b : Phrasebook) : b.rewriteRuns [] = [] := by
  rw [rewriteRuns]

/-- What stands between words is kept. -/
theorem rewriteRuns_cons_of_not_word (hr : r.isWord = false) :
    b.rewriteRuns (r :: rs) = r.chars ++ b.rewriteRuns rs := by
  rw [rewriteRuns, hr]
  rfl

/-- A phrase is replaced as a whole. -/
theorem rewriteRuns_cons_of_hit (hr : r.isWord = true) {hit : Hit}
    (h : b.hitAt? r.chars rs = some hit) : b.rewriteRuns (r :: rs) =
      Text.inCaseOf hit.covered hit.replacement ++ b.rewriteRuns (rs.drop hit.taken) := by
  rw [rewriteRuns, hr, h]
  rfl

/-- Where no phrase begins, the word is on its own. -/
theorem rewriteRuns_cons_of_no_hit (hr : r.isWord = true) (h : b.hitAt? r.chars rs = none) :
    b.rewriteRuns (r :: rs) = (b.headReplaced? r.chars).getD r.chars ++ b.rewriteRuns rs := by
  rw [rewriteRuns, hr, h]
  rfl

/-- Runs are kept where neither a phrase begins at a word nor its part before an apostrophe is
one. -/
theorem rewriteRuns_eq_flatMap_chars (h : ∀ r rest, r :: rest <:+ rs → r.isWord = true →
    b.hitAt? r.chars rest = none ∧ b.headReplaced? r.chars = none) :
    b.rewriteRuns rs = rs.flatMap Run.chars := by
  induction rs with
  | nil => exact b.rewriteRuns_nil
  | cons r rs ih =>
    have hrest := ih fun s rest hsuffix => h s rest (hsuffix.trans (List.suffix_cons r rs))
    rw [List.flatMap_cons, ← hrest]
    cases hr : r.isWord with
    | true =>
      obtain ⟨hnone, hhead⟩ := h r rs (List.suffix_refl _) hr
      rw [rewriteRuns_cons_of_no_hit hr hnone, hhead, Option.getD_none]
    | false => exact rewriteRuns_cons_of_not_word hr

end

/-! ## Phrasebooks with no phrases -/

section
variable {b : Phrasebook} (hb : b.isEmpty = true)
include hb

theorem longestHit?_of_isEmpty (phrase covered : Text) (taken room : Nat) (rs : List Run) :
    b.longestHit? phrase covered taken room rs = none := by
  fun_induction longestHit? b phrase covered taken room rs with
  | case1 phrase covered taken room gap next rest here hgap ih =>
    rw [ih, Option.none_or]
    simp [here, Dict.find?_of_isEmpty hb]
  | case2 phrase covered taken room gap next rest here hgap =>
    simp [here, Dict.find?_of_isEmpty hb]
  | case3 phrase => simp [Dict.find?_of_isEmpty hb]

theorem headReplaced?_of_isEmpty (word : Text) : b.headReplaced? word = none := by
  unfold headReplaced?
  simp [Dict.find?_of_isEmpty hb]

/-- **A phrasebook with no phrases leaves a text as it is,** so nothing has to be looked up in
one. -/
theorem rewrite_of_isEmpty (t : Text) : b.rewrite t = t := by
  have hnone : ∀ r rest, r :: rest <:+ t.runs → r.isWord = true →
      b.hitAt? r.chars rest = none ∧ b.headReplaced? r.chars = none := fun _ _ _ _ =>
    ⟨longestHit?_of_isEmpty hb .., headReplaced?_of_isEmpty hb _⟩
  rw [rewrite, rewriteRuns_eq_flatMap_chars hnone, Text.flatMap_chars_runs]

end

end Phrasebook

end Colloquy
