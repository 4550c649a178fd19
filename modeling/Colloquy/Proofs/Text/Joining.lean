import Colloquy.Proofs.Text.Sentences
import Colloquy.Proofs.Unicode.Capitals

/-!
# Sentences that are joined again

Cutting a text into sentences loses no letter and no digit, and it is stable: the sentences, joined
by white space of whatever kind, are cut apart again where they were joined. For this a sentence has
to end with a terminator if another follows it, and all but the last do: what is left of a text
behind its last terminator is the end of it.

* `Text.exists_stretches_append_break`, `Text.sentences_append_break` — the text is cut behind a
  terminator that stands before white space.
* `Text.isClosed_of_mem_dropLast_sentences` — every sentence that another follows ends with a
  terminator.
* `Text.sentences_intercalate` — sentences that are joined by white space are cut apart again.
* `Text.sentences_lossless` — what becomes of the characters of a text, and of its sentences.
-/

namespace Colloquy

open Unicode

namespace Text

variable {t u w : Text} {c d : Char}

/-! ## Breaks -/

theorem isTerminator_eq_false_of_isBlank (h : isBlank c = true) : isTerminator c = false := by
  by_contra hend
  simp only [isTerminator, Bool.not_eq_false, Bool.or_eq_true, decide_eq_true_eq] at hend
  rcases hend with (rfl | rfl) | rfl <;> exact absurd h (by decide)

/-- White space in front of a text ends no stretch of it. -/
theorem stretches_cons_blank (hd : isBlank d = true) (t : Text) :
    stretches (d :: t) = consHead d t.stretches := by
  have hno : isBreak d t.stretches = false := by
    simp [isBreak, isTerminator_eq_false_of_isBlank hd]
  rw [stretches_cons, hno]
  rfl

/-- A terminator before white space ends its stretch. -/
theorem isBreak_stretches_cons_blank (hc : isTerminator c = true) (hd : isBlank d = true)
    (t : Text) : isBreak c (stretches (d :: t)) = true := by
  obtain ⟨u, us, hstretches⟩ := List.exists_cons_of_ne_nil (stretches_ne_nil t)
  rw [stretches_cons_blank hd, hstretches]
  simp [isBreak, consHead, hc, hd]

/-- **A text is cut behind a terminator that stands before white space,** and what follows changes
nothing about the stretches up to there. -/
theorem exists_stretches_append_break (hc : isTerminator c = true) (hd : isBlank d = true)
    (s t : Text) : ∃ front, front ≠ [] ∧ (s ++ [c]).stretches = front ++ [[]] ∧
      (s ++ c :: d :: t).stretches = front ++ stretches (d :: t) := by
  induction s with
  | nil =>
    have hend : isBreak c [[]] = true := by simp [isBreak, hc]
    refine ⟨[[c]], by simp, ?_, ?_⟩
    · show stretches [c] = _
      rw [stretches_cons, stretches, List.foldr_nil, hend]
      rfl
    · show stretches (c :: d :: t) = _
      rw [stretches_cons, isBreak_stretches_cons_blank hc hd]
      rfl
  | cons e s ih =>
    obtain ⟨front, hne, hshort, hlong⟩ := ih
    obtain ⟨u, us, rfl⟩ := List.exists_cons_of_ne_nil hne
    -- whether `e` is a break is seen from the first stretch behind it, which is the same in both
    have hsame : isBreak e (u :: us ++ [[]]) = isBreak e (u :: us ++ stretches (d :: t)) :=
      isBreak_congr e rfl
    rw [List.cons_append, List.cons_append, stretches_cons, stretches_cons, hshort, hlong, ← hsame]
    by_cases hbreak : isBreak e (u :: us ++ [[]]) = true
    · exact ⟨[e] :: u :: us, by simp, by rw [if_pos hbreak]; rfl, by rw [if_pos hbreak]; rfl⟩
    · exact ⟨(e :: u) :: us, by simp, by rw [if_neg hbreak]; rfl, by rw [if_neg hbreak]; rfl⟩

/-- The sentences before and behind such a break are those of the two texts. -/
theorem sentences_append_break (hc : isTerminator c = true) (hd : isBlank d = true) (s t : Text) :
    sentences (s ++ c :: d :: t) = sentences (s ++ [c]) ++ sentences (d :: t) := by
  obtain ⟨front, -, hshort, hlong⟩ := exists_stretches_append_break hc hd s t
  have hnone : List.filter (·.any isAlphanumeric) (List.map trim [[]]) = [] := by decide
  rw [sentences, sentences, sentences, hshort, hlong, List.map_append, List.map_append,
    List.filter_append, List.filter_append, hnone, List.append_nil]

/-- White space in front of a text changes none of its sentences. -/
theorem sentences_blank_append (hw : ∀ c ∈ w, isBlank c = true) (t : Text) :
    (w ++ t).sentences = t.sentences := by
  induction w with
  | nil => rfl
  | cons d w ih =>
    obtain ⟨hd, hw⟩ := List.forall_mem_cons.mp hw
    obtain ⟨u, us, hstretches⟩ := List.exists_cons_of_ne_nil (stretches_ne_nil (w ++ t))
    have htrim : trim (d :: u) = trim u := by
      rw [trim, trimStart, List.dropWhile_cons_of_pos hd]
      rfl
    rw [← ih hw, List.cons_append, sentences, stretches_cons_blank hd, sentences, hstretches,
      consHead, List.map_cons, List.map_cons, htrim]

/-! ## Closed sentences -/

/-- A text that ends with a terminator. -/
def IsClosed (t : Text) : Prop :=
  ∃ s c, t = s ++ [c] ∧ isTerminator c = true

/-- A closed text is closed when it is trimmed. -/
theorem IsClosed.trim (h : t.IsClosed) : t.trim.IsClosed := by
  obtain ⟨s, c, rfl, hc⟩ := h
  have hmark : isBlank c = false := by
    by_contra hblank
    rw [isTerminator_eq_false_of_isBlank (by simpa using hblank)] at hc
    cases hc
  have hstart : trimStart (s ++ [c]) = trimStart s ++ [c] := by
    rw [trimStart, trimStart, List.dropWhile_append]
    split
    · rename_i hempty
      rw [List.isEmpty_iff.mp hempty, List.dropWhile_cons_of_neg (by simp [hmark])]
      rfl
    · rfl
  refine ⟨trimStart s, c, ?_, hc⟩
  rw [Text.trim, hstart, trimEnd_eq, List.rdropWhile_concat_neg isBlank _ c (by simp [hmark])]

/-- Every stretch that another follows is closed. -/
theorem isClosed_of_mem_dropLast_stretches (h : u ∈ t.stretches.dropLast) : u.IsClosed := by
  induction t generalizing u with
  | nil => cases h
  | cons c t ih =>
    rw [stretches_cons] at h
    obtain ⟨v, vs, hstretches⟩ := List.exists_cons_of_ne_nil (stretches_ne_nil t)
    split at h
    · rename_i hbreak
      rw [List.dropLast_cons_of_ne_nil (stretches_ne_nil t)] at h
      rcases List.mem_cons.mp h with rfl | h
      · exact ⟨[], c, rfl, (Bool.and_eq_true_iff.mp hbreak).1⟩
      · exact ih h
    · rw [hstretches, consHead] at h
      rw [hstretches] at ih
      cases vs with
      | nil => cases h
      | cons v' vs =>
        rw [List.dropLast_cons_cons, List.mem_cons] at h
        rw [List.dropLast_cons_cons] at ih
        rcases h with rfl | h
        · obtain ⟨s, e, rfl, he⟩ := ih List.mem_cons_self
          exact ⟨c :: s, e, rfl, he⟩
        · exact ih (List.mem_cons_of_mem _ h)

/-- What is kept of a list has its last entry at the end, if it is kept. -/
theorem mem_dropLast_of_mem_dropLast_filter {α : Type} {p : α → Bool} {xs : List α} {x : α}
    (h : x ∈ (xs.filter p).dropLast) : x ∈ xs.dropLast := by
  induction xs with
  | nil => cases h
  | cons y xs ih =>
    cases xs with
    | nil =>
      rw [List.filter_cons] at h
      split at h <;> cases h
    | cons z zs =>
      rw [List.dropLast_cons_cons]
      rw [List.filter_cons] at h
      split at h
      · by_cases hnone : (z :: zs).filter p = []
        · rw [hnone] at h
          cases h
        · rw [List.dropLast_cons_of_ne_nil hnone] at h
          rcases List.mem_cons.mp h with rfl | h
          · exact List.mem_cons_self
          · exact List.mem_cons_of_mem y (ih h)
      · exact List.mem_cons_of_mem y (ih h)

/-- Every sentence that another follows is closed. -/
theorem isClosed_of_mem_dropLast_sentences (h : u ∈ t.sentences.dropLast) : u.IsClosed := by
  have hmem : u ∈ (t.stretches.map Text.trim).dropLast := mem_dropLast_of_mem_dropLast_filter h
  rw [← List.map_dropLast] at hmem
  obtain ⟨v, hv, rfl⟩ := List.mem_map.mp hmem
  exact (isClosed_of_mem_dropLast_stretches hv).trim

/-! ## Joining -/

/-- **Sentences that are joined by white space are cut apart again.** -/
theorem sentences_intercalate {ss : List Text} (hone : ∀ s ∈ ss, s.sentences = [s])
    (hclosed : ∀ s ∈ ss.dropLast, s.IsClosed) (hne : w ≠ []) (hw : ∀ c ∈ w, isBlank c = true) :
    sentences (List.intercalate w ss) = ss := by
  induction ss with
  | nil => rfl
  | cons s ss ih =>
    obtain ⟨hs, hrest⟩ := List.forall_mem_cons.mp hone
    cases ss with
    | nil => rw [List.intercalate_singleton, hs]
    | cons s' ss =>
      rw [List.dropLast_cons_cons] at hclosed
      obtain ⟨⟨s₀, c, rfl, hc⟩, hothers⟩ := List.forall_mem_cons.mp hclosed
      obtain ⟨d, w', rfl⟩ := List.exists_cons_of_ne_nil hne
      have hd : isBlank d = true := hw d List.mem_cons_self
      calc sentences (List.intercalate (d :: w') ((s₀ ++ [c]) :: s' :: ss))
          = sentences (s₀ ++ c :: d :: (w' ++ List.intercalate (d :: w') (s' :: ss))) := by
            rw [List.intercalate_cons_cons]
            simp
        _ = sentences (s₀ ++ [c]) ++
              sentences (d :: w' ++ List.intercalate (d :: w') (s' :: ss)) :=
            sentences_append_break hc hd _ _
        _ = (s₀ ++ [c]) :: s' :: ss := by
            rw [hs, sentences_blank_append hw, ih hrest hothers]
            rfl

/-! ## Letters and digits -/

/-- **No letter and no digit is lost.** Those of the sentences, in order, are those of the text. -/
theorem filter_flatten_sentences (t : Text) :
    t.sentences.flatten.filter isAlphanumeric = t.filter isAlphanumeric := by
  have htrim (s : Text) : s.trim.filter isAlphanumeric = s.filter isAlphanumeric := by
    refine apply_trim (f := List.filter isAlphanumeric) (fun c t hc => ?_) (fun c t hc => ?_) s
    · simp [isAlphanumeric_eq_false_of_isBlank hc]
    · simp [isAlphanumeric_eq_false_of_isBlank hc]
  have hdropped : ∀ s ∈ t.stretches.map trim, s.any isAlphanumeric = false →
      s.filter isAlphanumeric = [] := by
    intro s _ hs
    simpa using hs
  calc t.sentences.flatten.filter isAlphanumeric
      = t.sentences.flatMap (List.filter isAlphanumeric) := by
        rw [List.filter_flatten, List.flatMap_def]
    _ = (t.stretches.map trim).flatMap (List.filter isAlphanumeric) := flatMap_filter hdropped
    _ = t.stretches.flatMap fun s => s.trim.filter isAlphanumeric := List.flatMap_map _ _ _
    _ = t.stretches.flatMap (List.filter isAlphanumeric) := by simp only [htrim]
    _ = t.filter isAlphanumeric := by
        refine flatMap_stretches (fun s c t _ => ?_) t
        rw [← List.filter_append, List.append_assoc, List.singleton_append]

/-- **Cutting into sentences loses nothing and is stable.** Every sentence of a text is trimmed, has
a letter or a digit and is its own only sentence; the letters and digits of the sentences, one after
the other, are those of the text; and sentences that are joined by any white space are the sentences
of what they are joined to. -/
theorem sentences_lossless (t : Text) :
    (∀ s ∈ t.sentences, s.trim = s ∧ s.any isAlphanumeric = true ∧ s.sentences = [s]) ∧
      t.sentences.flatten.filter isAlphanumeric = t.filter isAlphanumeric ∧
      ∀ w : Text, w ≠ [] → w.isBlankText = true →
        sentences (List.intercalate w t.sentences) = t.sentences := by
  refine ⟨fun s hs => ?_, filter_flatten_sentences t, fun w hne hw => ?_⟩
  · obtain ⟨hmem, hany⟩ := List.mem_filter.mp hs
    obtain ⟨u, -, rfl⟩ := List.mem_map.mp hmem
    exact ⟨trim_trim u, hany, sentences_of_mem hs⟩
  · have hblank : ∀ c ∈ w, isBlank c = true := List.all_eq_true.mp hw
    exact sentences_intercalate (fun s hs => sentences_of_mem hs)
      (fun s hs => isClosed_of_mem_dropLast_sentences hs) hne hblank

/-- A number with a point in it, marks on their own, and an end without a terminator. -/
def remarks : Text := "  It is 3.14.  ?! Is it?! \t Well... so long".toList

/-- Line breaks are as good as spaces, and a point between digits ends nothing. -/
theorem sentences_lossless_remarks :
    remarks.sentences = ["It is 3.14.".toList, "Is it?!".toList, "Well...".toList,
        "so long".toList] ∧
      sentences (List.intercalate "\n\n".toList remarks.sentences) = remarks.sentences ∧
      Text.sentences "so long".toList = ["so long".toList] := by
  have hcut : remarks.sentences = ["It is 3.14.".toList, "Is it?!".toList, "Well...".toList,
      "so long".toList] := by decide +kernel
  obtain ⟨hstable, -, hjoined⟩ := sentences_lossless remarks
  refine ⟨hcut, hjoined _ (by decide) (by decide), ?_⟩
  exact (hstable _ (by rw [hcut]; simp)).2.2

end Text

end Colloquy
