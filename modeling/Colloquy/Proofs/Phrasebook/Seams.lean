import Colloquy.Proofs.Phrasebook.Lookup
import Colloquy.Proofs.Phrasebook.Phrases
import Colloquy.Proofs.Text.Runs

/-!
# Seams

No phrase goes on over a character that is neither in a word nor white space, so the texts before
and behind it are written anew each on its own. White space at an end of a text is kept as well, for
a phrase only goes over white space to another word.

* `Shut` — runs into which no phrase goes on.
* `Phrasebook.longestHit?_append`, `Phrasebook.rewriteRuns_append` — runs before them are looked up
  and written anew without them.
* `Phrasebook.rewrite_append_mark`, `Phrasebook.rewrite_cons_of_not_word`,
  `Phrasebook.rewrite_concat_of_not_word` — the same told of texts.
* `Phrasebook.rewrite_append_punctuation` — rewriting is local across punctuation.
-/

namespace Colloquy

open Unicode

/-- A text that stands between words and is not all white space. -/
structure Text.IsPunctuation (s : Text) : Prop where
  between : ∀ c ∈ s, isWordChar c = false
  marked : ∃ c ∈ s, isBlank c = false

/-! ## Runs into which no phrase goes on -/

/-- No phrase goes on into the runs: they begin with something between words, and if this is white
space, nothing follows it. -/
def Shut : List Run → Prop
  | [] => True
  | g :: rs => g.isWord = false ∧ (g.isGap = false ∨ rs = [])

/-- One more character between words changes nothing about that. -/
theorem Shut.cons {rs : List Run} (h : Shut rs) {c : Char} (hc : isWordChar c = false) :
    Shut (Run.cons c rs) := by
  cases rs with
  | nil => exact ⟨hc, .inr rfl⟩
  | cons g rs =>
    obtain ⟨hword, hgap⟩ := h
    rw [Run.cons_of_eq (by rw [hword, hc])]
    refine ⟨hword, hgap.imp_left fun hgap => ?_⟩
    rw [Run.isGap, hword] at hgap ⊢
    simp only [Bool.not_false, Bool.true_and] at hgap ⊢
    rw [Text.isBlankText, List.all_cons, ← Text.isBlankText, hgap, Bool.and_false]

theorem shut_runs_singleton {c : Char} (hc : isWordChar c = false) : Shut (Text.runs [c]) :=
  ⟨hc, .inr rfl⟩

/-- Nor does a phrase go on over a character that is no white space either. -/
theorem shut_cons_mark {c : Char} (hc : isWordChar c = false) (hblank : isBlank c = false)
    (rs : List Run) : Shut (Run.cons c rs) := by
  have hmark (cs : Text) : Run.isGap ⟨c :: cs, false⟩ = false := by
    rw [Run.isGap, Text.isBlankText, List.all_cons, hblank]
    rfl
  cases rs with
  | nil => exact ⟨hc, .inr rfl⟩
  | cons g rs =>
    rw [Run.cons, hc]
    split
    · rename_i hword
      rw [hword]
      exact ⟨rfl, .inl (hmark _)⟩
    · exact ⟨rfl, .inl (hmark _)⟩

/-- A look-up passes none of them. -/
theorem Reaches.of_append {room : Nat} {rs ys more : List Run} {ws : List Text} (hys : Shut ys)
    (h : Reaches room (rs ++ ys) more ws) : Reaches room rs more ws := by
  generalize hall : rs ++ ys = all at h
  induction h generalizing rs with
  | stop => exact .stop
  | next hgap hword _ ih =>
    rcases rs with _ | ⟨g, _ | ⟨s, rs⟩⟩
    · subst hall
      rcases hys.2 with hmark | hend
      · rw [hgap] at hmark
        cases hmark
      · cases hend
    · obtain ⟨rfl, rfl⟩ := List.cons.inj hall
      have hnot := hys.1
      rw [hword] at hnot
      cases hnot
    · obtain ⟨rfl, htail⟩ := List.cons.inj hall
      obtain ⟨rfl, hrest⟩ := List.cons.inj htail
      exact .next hgap hword (ih hrest)

namespace Phrasebook

variable {b : Phrasebook} {ys : List Run}

theorem longestHit?_append (hys : Shut ys) (phrase covered : Text) (taken room : Nat)
    (rs : List Run) : b.longestHit? phrase covered taken room (rs ++ ys) =
      b.longestHit? phrase covered taken room rs := by
  have hstop {phrase covered : Text} {taken room : Nat} {rs : List Run}
      (h : ∀ more ws, Reaches room rs more ws → ws = []) :
      b.longestHit? phrase covered taken room (rs ++ ys) =
        b.longestHit? phrase covered taken room rs := by
    rw [longestHit?_of_stop h, longestHit?_of_stop fun more ws hreach =>
      h more ws (hreach.of_append hys)]
  induction phrase, covered, taken, room, rs using longestHit?.induct b with
  | case1 phrase covered taken room gap r rs hnext ih =>
    obtain ⟨hgap, hword⟩ := Bool.and_eq_true_iff.mp hnext
    rw [List.cons_append, List.cons_append, longestHit?_of_next hgap hword,
      longestHit?_of_next hgap hword, ih]
  | case2 phrase covered taken room gap r rs hnext =>
    exact hstop fun _ _ hreach => hreach.eq_nil_of_not_next hnext
  | case3 room phrase covered taken rs hshort =>
    exact hstop fun _ _ hreach => hreach.eq_nil_of_short hshort

theorem hitAt?_append (hys : Shut ys) (word : Text) (rs : List Run) :
    b.hitAt? word (rs ++ ys) = b.hitAt? word rs :=
  longestHit?_append hys _ _ _ _ rs

/-- A hit takes no more runs than there are. -/
theorem taken_le_of_hitAt? {word : Text} {rs : List Run} {hit : Hit}
    (h : b.hitAt? word rs = some hit) : hit.taken ≤ rs.length := by
  obtain ⟨more, ws, htakes⟩ := exists_takes_of_hitAt? h
  rw [htakes.taken_eq]
  exact htakes.begins.length_le

/-- **Runs are written anew without those into which no phrase goes on.** -/
theorem rewriteRuns_append (hys : Shut ys) (xs : List Run) :
    b.rewriteRuns (xs ++ ys) = b.rewriteRuns xs ++ b.rewriteRuns ys := by
  induction xs using rewriteRuns.induct b with
  | case1 => rw [rewriteRuns_nil]; rfl
  | case2 r rs hword hit hhit ih =>
    have hboth : b.hitAt? r.chars (rs ++ ys) = some hit := by rw [hitAt?_append hys, hhit]
    rw [List.cons_append, rewriteRuns_cons_of_hit hword hboth, rewriteRuns_cons_of_hit hword hhit,
      List.drop_append_of_le_length (taken_le_of_hitAt? hhit), ih, List.append_assoc]
  | case3 r rs hword hhit ih =>
    have hboth : b.hitAt? r.chars (rs ++ ys) = none := by rw [hitAt?_append hys, hhit]
    rw [List.cons_append, rewriteRuns_cons_of_no_hit hword hboth,
      rewriteRuns_cons_of_no_hit hword hhit, ih, List.append_assoc]
  | case4 r rs hword ih =>
    have hnot : r.isWord = false := eq_false_of_ne_true hword
    rw [List.cons_append, rewriteRuns_cons_of_not_word hnot, rewriteRuns_cons_of_not_word hnot,
      ih, List.append_assoc]

/-! ## Texts -/

variable {c : Char} {s t : Text}

@[simp] theorem rewrite_nil (b : Phrasebook) : b.rewrite [] = [] :=
  rewriteRuns_nil b

/-- A character between words is kept at the beginning of a text. -/
theorem rewrite_cons_of_not_word (hc : isWordChar c = false) (t : Text) :
    b.rewrite (c :: t) = c :: b.rewrite t := by
  rw [rewrite, rewrite, Text.runs_cons]
  cases hruns : t.runs with
  | nil =>
    rw [Run.cons, hc, rewriteRuns_cons_of_not_word rfl]
    rfl
  | cons g rs =>
    rw [Run.cons, hc]
    split
    · rename_i hword
      have hjoined : b.rewriteRuns (⟨c :: g.chars, g.isWord⟩ :: rs) =
          c :: g.chars ++ b.rewriteRuns rs := rewriteRuns_cons_of_not_word hword
      rw [hjoined, rewriteRuns_cons_of_not_word hword]
      rfl
    · rw [rewriteRuns_cons_of_not_word rfl]
      rfl

/-- A text is written anew on its own before a text into which no phrase goes on. -/
theorem rewrite_append_of_shut (ht : Shut t.runs) (s : Text) :
    b.rewrite (s ++ t) = b.rewrite s ++ b.rewrite t := by
  induction s using List.reverseRecOn generalizing t with
  | nil => rw [rewrite_nil]; rfl
  | append_singleton s c ih =>
    cases hc : isWordChar c with
    | true =>
      -- the runs do not touch: the last of the one text is a word, the first of the other is none
      have hlast : Text.runs [c] = [⟨[c], isWordChar c⟩] := rfl
      have hapart : Run.cons c t.runs = Text.runs [c] ++ t.runs := by
        rw [hlast]
        refine Run.cons_of_ne fun g hg => ?_
        obtain ⟨rest, hrest⟩ := List.head?_eq_some_iff.mp hg
        rw [hrest] at ht
        rw [ht.1, hc]
        exact Bool.false_ne_true
      have hruns : Text.runs (s ++ [c] ++ t) = Text.runs (s ++ [c]) ++ t.runs := by
        rw [Text.runs_append, List.foldr_append, List.foldr_cons, List.foldr_nil, hapart,
          Run.foldr_cons_append (by simp [hlast]), Text.runs_append]
      rw [rewrite, hruns, rewriteRuns_append ht]
      rfl
    | false =>
      have hshut : Shut (Text.runs (c :: t)) := ht.cons hc
      have hone : b.rewrite [c] = [c] := by
        rw [rewrite_cons_of_not_word hc, rewrite_nil]
      rw [List.append_assoc, List.singleton_append, ih hshut,
        ih (shut_runs_singleton hc), rewrite_cons_of_not_word hc, hone, List.append_assoc]
      rfl

/-- A character between words is kept at the end of a text. -/
theorem rewrite_concat_of_not_word (hc : isWordChar c = false) (s : Text) :
    b.rewrite (s ++ [c]) = b.rewrite s ++ [c] := by
  rw [rewrite_append_of_shut (shut_runs_singleton hc), rewrite_cons_of_not_word hc, rewrite_nil]

/-- **The texts before and behind a mark are written anew each on its own.** -/
theorem rewrite_append_mark (hc : isWordChar c = false) (hblank : isBlank c = false)
    (s t : Text) : b.rewrite (s ++ c :: t) = b.rewrite s ++ c :: b.rewrite t := by
  have hshut : Shut (Text.runs (c :: t)) := shut_cons_mark hc hblank t.runs
  rw [rewrite_append_of_shut hshut, rewrite_cons_of_not_word hc]

/-! ## Punctuation -/

/-- What stands between words is kept at the beginning of a text. -/
theorem rewrite_between_append (hs : ∀ c ∈ s, isWordChar c = false) (t : Text) :
    b.rewrite (s ++ t) = s ++ b.rewrite t := by
  induction s with
  | nil => rfl
  | cons c s ih =>
    obtain ⟨hc, hs⟩ := List.forall_mem_cons.mp hs
    rw [List.cons_append, rewrite_cons_of_not_word hc, ih hs]
    rfl

/-- What stands between words is kept at the end of a text. -/
theorem rewrite_append_between (hs : ∀ c ∈ s, isWordChar c = false) (t : Text) :
    b.rewrite (t ++ s) = b.rewrite t ++ s := by
  induction s generalizing t with
  | nil => simp
  | cons c s ih =>
    obtain ⟨hc, hs⟩ := List.forall_mem_cons.mp hs
    have hnext := ih hs (t ++ [c])
    rw [rewrite_concat_of_not_word hc] at hnext
    simpa using hnext

/-- **Rewriting is local across punctuation.** What stands before and behind it is written anew each
on its own, and the punctuation is kept. -/
theorem rewrite_append_punctuation (b : Phrasebook) (hs : s.IsPunctuation) (before behind : Text) :
    b.rewrite (before ++ s ++ behind) = b.rewrite before ++ s ++ b.rewrite behind := by
  obtain ⟨hbetween, c, hmem, hblank⟩ := hs
  obtain ⟨s₁, s₂, rfl⟩ := List.append_of_mem hmem
  obtain ⟨hs₁, hrest⟩ := List.forall_mem_append.mp hbetween
  obtain ⟨hc, hs₂⟩ := List.forall_mem_cons.mp hrest
  -- the text is cut at the mark; what is left of the punctuation stands at the two cut ends
  calc b.rewrite (before ++ (s₁ ++ c :: s₂) ++ behind)
      = b.rewrite (before ++ s₁ ++ c :: (s₂ ++ behind)) := by simp
    _ = b.rewrite (before ++ s₁) ++ c :: b.rewrite (s₂ ++ behind) :=
        rewrite_append_mark hc hblank _ _
    _ = b.rewrite before ++ s₁ ++ c :: (s₂ ++ b.rewrite behind) := by
        rw [rewrite_append_between hs₁, rewrite_between_append hs₂]
    _ = b.rewrite before ++ (s₁ ++ c :: s₂) ++ b.rewrite behind := by simp

/-- A phrase of two words, and what is written for its second word on its own. -/
def company : Phrasebook :=
  afterInserts [("with you".toList, "with me".toList), ("you".toList, "I".toList)]

/-- A comma keeps the two words apart; white space alone does not. -/
theorem rewrite_append_punctuation_company :
    Text.IsPunctuation ", ".toList ∧
      company.rewrite ("stay with".toList ++ ", ".toList ++ "you".toList) =
        company.rewrite "stay with".toList ++ ", ".toList ++ company.rewrite "you".toList ∧
      company.rewrite "stay with, you".toList = "stay with, i".toList ∧
      company.rewrite "stay with you".toList = "stay with me".toList := by
  have hbetween : ", ".toList.all (!isWordChar ·) = true := by decide
  have hcomma : Text.IsPunctuation ", ".toList :=
    ⟨fun c hc => by simpa using List.all_eq_true.mp hbetween c hc, ',', by decide, by decide⟩
  exact ⟨hcomma, rewrite_append_punctuation company hcomma _ _, by decide +kernel,
    by decide +kernel⟩

end Phrasebook

end Colloquy
