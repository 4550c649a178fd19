import Colloquy.Proofs.Phrasebook.Phrases
import Colloquy.Proofs.Text.Casing
import Colloquy.Proofs.Text.Runs
import Colloquy.Proofs.Text.Words

/-!
# White space that is collapsed

Collapsing the white space of a text keeps its letters and its words, and it touches only what
stands between the runs of word characters.

* `Text.collapse_append_congr` — texts that collapse to the same may be put for each other.
* `Text.exists_collapse_eq` — what is left are the words with single spaces between them.
* `Text.runs_collapse` — a text is collapsed run by run.
* `Text.inCaseOf_collapse` — collapsed or not, a text gives its letter case to others.
-/

namespace Colloquy

open Unicode

namespace Text

variable {c : Char} {s s' t t' : Text}

@[simp] theorem collapse_nil : collapse [] = [] := rfl

@[simp] theorem collapse_cons_of_not_blank (hc : isBlank c = false) (t : Text) :
    collapse (c :: t) = c :: t.collapse := by
  simp [collapse, hc]

theorem collapse_cons_of_blank (hc : isBlank c = true) (t : Text) : collapse (c :: t) =
    if t.collapse.head? = some ' ' then t.collapse else ' ' :: t.collapse := by
  simp [collapse, hc]

/-! ## Texts put together -/

/-- What stands in front of a text may be collapsed before. -/
theorem collapse_collapse_append (s t : Text) : (s.collapse ++ t).collapse = (s ++ t).collapse := by
  induction s with
  | nil => rfl
  | cons c s ih =>
    cases hc : isBlank c with
    | false => simp [hc, ih]
    | true =>
      rw [collapse_cons_of_blank hc, List.cons_append, collapse_cons_of_blank hc, ← ih]
      split
      · -- the white space adds nothing on the left, so there is a space already on the right
        rename_i hspace
        obtain ⟨u, hu⟩ := List.head?_eq_some_iff.mp hspace
        have hbegins : (collapse s ++ t).collapse.head? = some ' ' := by
          rw [hu, List.cons_append, collapse_cons_of_blank rfl]
          split
          · assumption
          · rfl
        rw [if_pos hbegins]
      · rw [List.cons_append, collapse_cons_of_blank rfl]

@[simp] theorem collapse_collapse (t : Text) : t.collapse.collapse = t.collapse := by
  simpa using collapse_collapse_append t []

theorem collapse_append_collapse (s t : Text) : (s ++ t.collapse).collapse = (s ++ t).collapse := by
  induction s with
  | nil => exact collapse_collapse t
  | cons c s ih =>
    cases hc : isBlank c with
    | false => simp [hc, ih]
    | true =>
      rw [List.cons_append, List.cons_append, collapse_cons_of_blank hc, collapse_cons_of_blank hc,
        ih]

/-- **Texts that collapse to the same may be put for each other.** -/
theorem collapse_append_congr (hs : s.collapse = s'.collapse) (ht : t.collapse = t'.collapse) :
    (s ++ t).collapse = (s' ++ t').collapse := by
  rw [← collapse_collapse_append, ← collapse_append_collapse, hs, ht, collapse_append_collapse,
    collapse_collapse_append]

/-- A text without white space in front of another stays as it is. -/
theorem collapse_append_of_no_blank (hs : ∀ c ∈ s, isBlank c = false) (t : Text) :
    (s ++ t).collapse = s ++ t.collapse := by
  induction s with
  | nil => rfl
  | cons c s ih =>
    obtain ⟨hc, hs⟩ := List.forall_mem_cons.mp hs
    rw [List.cons_append, collapse_cons_of_not_blank hc, ih hs]
    rfl

theorem collapse_eq_self (ht : ∀ c ∈ t, isBlank c = false) : t.collapse = t := by
  simpa using collapse_append_of_no_blank ht []

/-- In front of a text that begins with no white space, a text is collapsed on its own. -/
theorem collapse_append_of_head (ht : ∀ c ∈ t.head?, isBlank c = false) (s : Text) :
    (s ++ t).collapse = s.collapse ++ t.collapse := by
  induction s with
  | nil => rfl
  | cons c s ih =>
    cases hc : isBlank c with
    | false => simp [hc, ih]
    | true =>
      have hhead : (collapse s ++ t.collapse).head? = some ' ' ↔ (collapse s).head? = some ' ' := by
        cases hs : collapse s with
        | cons d u => rfl
        | nil =>
          cases t with
          | nil => simp
          | cons d t =>
            have hd : isBlank d = false := ht d rfl
            have hne : d ≠ ' ' := by
              rintro rfl
              cases hd
            simp [hd, hne]
      rw [List.cons_append, collapse_cons_of_blank hc, collapse_cons_of_blank hc, ih]
      simp only [hhead]
      split <;> rfl

/-! ## What is kept -/

theorem mem_collapse (h : c ∈ t.collapse) : c = ' ' ∨ c ∈ t := by
  induction t with
  | nil => cases h
  | cons d t ih =>
    cases hd : isBlank d with
    | false =>
      rw [collapse_cons_of_not_blank hd, List.mem_cons] at h
      rcases h with rfl | h
      · exact .inr List.mem_cons_self
      · exact (ih h).imp_right (List.mem_cons_of_mem d)
    | true =>
      rw [collapse_cons_of_blank hd] at h
      split at h
      · exact (ih h).imp_right (List.mem_cons_of_mem d)
      · rcases List.mem_cons.mp h with rfl | h
        · exact .inl rfl
        · exact (ih h).imp_right (List.mem_cons_of_mem d)

theorem collapse_ne_nil (h : t ≠ []) : t.collapse ≠ [] := by
  obtain ⟨c, t, rfl⟩ := List.exists_cons_of_ne_nil h
  cases hc : isBlank c with
  | false => simp [hc]
  | true =>
    rw [collapse_cons_of_blank hc]
    split
    · rename_i hspace
      intro hnil
      rw [hnil] at hspace
      cases hspace
    · exact List.cons_ne_nil _ _

/-- What has no white space among it is not touched. -/
theorem filter_collapse {p : Char → Bool} (hp : ∀ c, isBlank c = true → p c = false) (t : Text) :
    t.collapse.filter p = t.filter p := by
  induction t with
  | nil => rfl
  | cons c t ih =>
    cases hc : isBlank c with
    | false => rw [collapse_cons_of_not_blank hc, List.filter_cons, List.filter_cons, ih]
    | true =>
      have hspace : p ' ' = false := hp ' ' rfl
      rw [collapse_cons_of_blank hc, List.filter_cons_of_neg (by simp [hp c hc]), ← ih]
      split
      · rfl
      · exact List.filter_cons_of_neg (by simp [hspace])

/-! ## The words -/

/-- A text is collapsed part by part: each part but the first stands behind a space. -/
theorem collapse_eq_of_splitWhere {first : Text} {rest : List Text}
    (h : t.splitWhere isBlank = first :: rest) : ∃ e, (∀ c ∈ e, isBlank c = true) ∧
      t.collapse = first ++ ((rest.filter (· ≠ [])).flatMap (' ' :: ·) ++ e) := by
  induction t generalizing first rest with
  | nil =>
    obtain ⟨rfl, rfl⟩ := List.cons.inj h
    exact ⟨[], by simp, rfl⟩
  | cons c t ih =>
    obtain ⟨next, others, hparts⟩ := List.exists_cons_of_ne_nil (splitWhere_ne_nil isBlank t)
    obtain ⟨e, he, hcollapse⟩ := ih hparts
    rw [splitWhere_cons, hparts] at h
    split at h
    · rename_i hc
      obtain ⟨rfl, rfl⟩ := List.cons.inj h
      rw [collapse_cons_of_blank hc, hcollapse]
      by_cases hnext : next = []
      · subst hnext
        rw [List.filter_cons_of_neg (by simp), List.nil_append]
        split
        · exact ⟨e, he, rfl⟩
        · -- no space comes first, so no word follows
          rename_i hspace
          refine ⟨' ' :: e, List.forall_mem_cons.mpr ⟨rfl, he⟩, ?_⟩
          cases hwords : others.filter (· ≠ []) with
          | nil => rfl
          | cons w ws =>
            rw [hwords] at hspace
            exact absurd rfl hspace
      · have hspace : (next ++ ((others.filter (· ≠ [])).flatMap (' ' :: ·) ++ e)).head? ≠
            some ' ' := by
          obtain ⟨d, ds, rfl⟩ := List.exists_cons_of_ne_nil hnext
          have hd : isBlank d = false :=
            not_of_mem_splitWhere (hparts ▸ List.mem_cons_self) d List.mem_cons_self
          rintro heq
          obtain rfl : d = ' ' := Option.some.inj heq
          cases hd
        rw [if_neg hspace, List.filter_cons_of_pos (by simpa using hnext)]
        exact ⟨e, he, by simp⟩
    · rename_i hc
      obtain ⟨rfl, rfl⟩ := List.cons.inj h
      refine ⟨e, he, ?_⟩
      rw [collapse_cons_of_not_blank (by simpa using hc), hcollapse]
      rfl

/-- **What is left are the words with single spaces between them**, but for white space at the two
ends. -/
theorem exists_collapse_eq (t : Text) : ∃ s e, (∀ c ∈ s, isBlank c = true) ∧
    (∀ c ∈ e, isBlank c = true) ∧ t.collapse = s ++ unwords t.words ++ e := by
  obtain ⟨first, rest, hparts⟩ := List.exists_cons_of_ne_nil (splitWhere_ne_nil isBlank t)
  obtain ⟨e, he, hcollapse⟩ := collapse_eq_of_splitWhere hparts
  have hwords : t.words = (first :: rest).filter (· ≠ []) := congrArg _ hparts
  by_cases hfirst : first = []
  · subst hfirst
    rw [List.filter_cons_of_neg (by simp)] at hwords
    rw [hcollapse, ← hwords]
    cases t.words with
    | nil => exact ⟨[], e, by simp, he, rfl⟩
    | cons w ws =>
      refine ⟨[' '], e, List.forall_mem_singleton.mpr rfl, he, ?_⟩
      rw [unwords_cons]
      simp
  · rw [List.filter_cons_of_pos (by simpa using hfirst)] at hwords
    refine ⟨[], e, by simp, he, ?_⟩
    rw [hcollapse, hwords, unwords_cons]
    simp

theorem words_collapse (t : Text) : t.collapse.words = t.words := by
  obtain ⟨s, e, hs, he, hcollapse⟩ := exists_collapse_eq t
  have hends := apply_between_blanks (fun _ t hc => words_cons_blank hc t)
    (fun _ t hc => words_concat_blank hc t) hs he (unwords t.words)
  rw [hcollapse, hends, words_unwords_words]

@[simp] theorem isBlankText_collapse (t : Text) : t.collapse.isBlankText = t.isBlankText :=
  Bool.eq_iff_iff.mpr (by rw [← words_eq_nil_iff, words_collapse, words_eq_nil_iff])

/-! ## The letter case -/

/-- Letters are all that counts of a text whose letter case is taken over. -/
theorem inCaseOf_congr {m m' : Text} (h : m.filter isAlphabetic = m'.filter isAlphabetic)
    (t : Text) : inCaseOf m t = inCaseOf m' t := by
  have hshouted : m.isShouted = m'.isShouted := by rw [isShouted, h, isShouted]
  have hcapitalized : m.isCapitalized = m'.isCapitalized := by
    rw [isCapitalized, ← List.head?_filter, h, List.head?_filter, isCapitalized]
  rw [inCaseOf, hshouted, hcapitalized, inCaseOf]

/-- White space has no letter case. -/
theorem inCaseOf_collapse (m t : Text) : inCaseOf m.collapse t = inCaseOf m t := by
  refine inCaseOf_congr (filter_collapse (fun c hc => ?_) m) t
  exact (Bool.or_eq_false_iff.mp (isAlphanumeric_eq_false_of_isBlank hc)).1

/-! ## The runs -/

namespace IsCutInto

variable {rs : List Run}

/-- There is no white space in a run of word characters. -/
theorem isBlank_eq_false (h : t.IsCutInto rs) {r : Run} (hr : r ∈ rs) (hword : r.isWord = true) :
    ∀ c ∈ r.chars, isBlank c = false :=
  fun c hc => isBlank_eq_false_of_isWordChar (by rw [h.kind r hr c hc, hword])

/-- Runs that are collapsed one by one are the text that is collapsed: white space does not go on
from one of them to the next. -/
theorem flatMap_collapse (h : t.IsCutInto rs) :
    (rs.map (Run.recast collapse)).flatMap Run.chars = t.collapse := by
  induction rs generalizing t with
  | nil =>
    obtain rfl := h.join
    rfl
  | cons r rs ih =>
    obtain rfl := h.join
    rw [List.map_cons, List.flatMap_cons, List.flatMap_cons, ih h.tail]
    cases hword : r.isWord with
    | true =>
      have hno := h.isBlank_eq_false List.mem_cons_self hword
      rw [collapse_append_of_no_blank hno, Run.recast, collapse_eq_self hno]
    | false =>
      refine (collapse_append_of_head (fun c hc => ?_) r.chars).symm
      cases rs with
      | nil => cases hc
      | cons s rs =>
        have hs : s.isWord = true := by
          have hne := (List.isChain_cons.mp h.alternate).1 s rfl
          rw [hword] at hne
          exact eq_true_of_ne_false hne.symm
        have hmem : s ∈ r :: s :: rs := List.mem_cons_of_mem r List.mem_cons_self
        obtain ⟨d, ds, hchars⟩ := List.exists_cons_of_ne_nil (h.chars_ne_nil s hmem)
        rw [List.flatMap_cons, hchars] at hc
        obtain rfl : d = c := Option.some.inj hc
        exact h.isBlank_eq_false hmem hs d (hchars ▸ List.mem_cons_self)

end IsCutInto

/-- **A text is collapsed run by run.** -/
theorem runs_collapse (t : Text) : t.collapse.runs = t.runs.map (Run.recast collapse) := by
  have hcut := isCutInto_runs t
  rw [← hcut.flatMap_collapse]
  refine (hcut.map fun r hr => ?_).eq_runs.symm
  refine ⟨rfl, collapse_ne_nil (hcut.chars_ne_nil r hr), fun c (hc : c ∈ r.chars.collapse) => ?_⟩
  cases hword : r.isWord with
  | true =>
    rw [collapse_eq_self (hcut.isBlank_eq_false hr hword)] at hc
    exact hcut.kind r hr c hc
  | false =>
    rcases mem_collapse hc with rfl | hc
    · exact hword.symm
    · exact hcut.kind r hr c hc

end Text

end Colloquy
