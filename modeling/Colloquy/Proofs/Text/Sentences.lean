import Colloquy.Proofs.Text.Words
import Colloquy.Text.Sentence
import Mathlib.Data.List.DropRight

/-!
# The sentences of a sentence

A sentence that was cut out of a text is not cut again: it is its own only sentence. Inside of it no
terminator stands before white space, and trimming it brings none there, for what is trimmed away is
white space, and a terminator before that would have ended the sentence.

* `Text.isTrimmed_trim`, `Text.trim_trim` — what was trimmed has no white space at its ends, and is
  not trimmed any further.
* `Text.apply_trim`, `Text.words_trim` — what does not depend on trimming.
* `Text.Whole` — texts of a single stretch.
* `Text.Whole.trim` — they stay so when they are trimmed.
* `Text.flatMap_stretches` — what comes apart behind every terminator is told of the stretches.
* `Text.sentences_of_mem` — a sentence is its only sentence.
-/

namespace Colloquy

open Unicode

namespace Text

/-! ## Trimming -/

theorem trimEnd_eq (t : Text) : t.trimEnd = t.rdropWhile isBlank := rfl

theorem trimStart_eq_self_of_head {t : Text} (h : ∀ c ∈ t.head?, isBlank c = false) :
    t.trimStart = t := by
  cases t with
  | nil => rfl
  | cons c cs => exact List.dropWhile_cons_of_neg (by simp [h c rfl])

theorem isBlank_head_trimStart {t : Text} : ∀ c ∈ t.trimStart.head?, isBlank c = false := by
  intro c hc
  have hnot := List.head?_dropWhile_not isBlank t
  rw [trimStart] at hc
  rw [hc] at hnot
  exact hnot

/-- A text that neither begins nor ends with white space. -/
def IsTrimmed (t : Text) : Prop :=
  (∀ c ∈ t.head?, isBlank c = false) ∧ ∀ c ∈ t.getLast?, isBlank c = false

theorem isTrimmed_trim (t : Text) : t.trim.IsTrimmed := by
  constructor
  · intro c hc
    refine isBlank_head_trimStart (t := t) c ?_
    obtain ⟨rest, hrest⟩ : t.trim <+: t.trimStart := List.rdropWhile_prefix isBlank _
    rw [← hrest, List.head?_append, hc]
    rfl
  · intro c hc
    obtain ⟨hne, rfl⟩ := List.mem_getLast?_eq_getLast hc
    have hlast := List.rdropWhile_last_not isBlank t.trimStart hne
    exact eq_false_of_ne_true hlast

/-- Trimming takes nothing more away the second time. -/
@[simp] theorem trim_trim (t : Text) : t.trim.trim = t.trim := by
  have hstart : t.trim.trimStart = t.trim := trimStart_eq_self_of_head t.isTrimmed_trim.1
  rw [trim, hstart, trim, trimEnd_eq, trimEnd_eq, List.rdropWhile_idempotent]

theorem trim_sublist (t : Text) : t.trim.Sublist t :=
  (List.rdropWhile_prefix isBlank t.trimStart).sublist.trans
    (List.dropWhile_suffix isBlank).sublist

/-- What does not depend on white space at either end of a text does not depend on trimming. -/
theorem apply_trim {β : Type} {f : Text → β}
    (hcons : ∀ c t, isBlank c = true → f (c :: t) = f t)
    (hconcat : ∀ c t, isBlank c = true → f (t ++ [c]) = f t) (t : Text) : f t.trim = f t := by
  have hstart : t.takeWhile isBlank ++ t.trimStart = t := List.takeWhile_append_dropWhile
  have hend : t.trim ++ t.trimStart.rtakeWhile isBlank = t.trimStart :=
    List.rdropWhile_append_rtakeWhile
  calc f t.trim
      = f (t.takeWhile isBlank ++ t.trim ++ t.trimStart.rtakeWhile isBlank) :=
        (apply_between_blanks hcons hconcat (fun _ hc => List.mem_takeWhile_imp hc)
          (fun _ hc => List.mem_rtakeWhile_imp hc) t.trim).symm
    _ = f t := by rw [List.append_assoc, hend, hstart]

/-- Trimming takes no word away. -/
theorem words_trim (t : Text) : t.trim.words = t.words :=
  apply_trim (fun _ t hc => words_cons_blank hc t) (fun _ t hc => words_concat_blank hc t) t

/-! ## Texts of a single stretch -/

theorem stretches_cons (c : Char) (t : Text) :
    stretches (c :: t) = if isBreak c t.stretches then [c] :: t.stretches
      else consHead c t.stretches := rfl

theorem isCutting_stretches :
    IsCutting stretches (fun c t => isBreak c t.stretches) fun c => [c] :=
  ⟨rfl, stretches_cons⟩

theorem stretches_ne_nil (t : Text) : t.stretches ≠ [] :=
  isCutting_stretches.ne_nil t

/-- Whether there is a break depends on the first stretch that follows. -/
theorem isBreak_congr (c : Char) {ts ts' : List Text} (h : ts.head? = ts'.head?) :
    isBreak c ts = isBreak c ts' := by
  rw [isBreak, isBreak, h]

/-- A text that is a single stretch. If a terminator ends it, nothing follows. -/
def Whole (t : Text) : Prop :=
  t.stretches = [t] ∨ t.stretches = [t, []]

namespace Whole

variable {t : Text} {c : Char}

theorem nil : Whole [] := .inl rfl

theorem head? (h : t.Whole) : t.stretches.head? = some t := by
  rcases h with h | h <;> rw [h] <;> rfl

/-- A character in front of a text is no break of it unless it stands alone. -/
theorem isBreak_eq (h : Whole (c :: t)) (ht : t ≠ []) : isBreak c t.stretches = false := by
  by_contra hbreak
  rw [Bool.not_eq_false] at hbreak
  have hhead := h.head?
  rw [stretches_cons, if_pos hbreak] at hhead
  simp at hhead
  exact ht hhead

theorem tail (h : Whole (c :: t)) : t.Whole := by
  by_cases ht : t = []
  · rw [ht]
    exact nil
  obtain ⟨u, us, hstretches⟩ := List.exists_cons_of_ne_nil (stretches_ne_nil t)
  have hbreak : isBreak c t.stretches = false := h.isBreak_eq ht
  rw [Whole, stretches_cons, hbreak, hstretches] at h
  simp only [Bool.false_eq_true, if_false, consHead, List.cons.injEq] at h
  rw [Whole, hstretches]
  simpa using h

theorem cons (h : t.Whole) (hc : isBreak c t.stretches = false) : Whole (c :: t) := by
  rw [Whole, stretches_cons, hc]
  rcases h with h | h <;> rw [h]
  · exact .inl rfl
  · exact .inr rfl

/-- White space at the end of a text ends no stretch of it. -/
theorem stretches_of_concat (hb : isBlank c = true) (h : Whole (t ++ [c])) :
    stretches t = [t] := by
  induction t with
  | nil => rfl
  | cons d t ih =>
    have hrest : stretches t = [t] := ih h.tail
    have hbreak : isBreak d [t ++ [c]] = false := by
      rw [← h.isBreak_eq (by simp)]
      exact isBreak_congr d h.tail.head?.symm
    have hnone : isBreak d [t] = false := by
      cases t with
      | nil => simpa [isBreak, hb] using hbreak
      | cons e t => exact hbreak
    rw [stretches_cons, hrest, hnone]
    rfl

theorem trimStart (h : t.Whole) : t.trimStart.Whole := by
  induction t with
  | nil => exact nil
  | cons c t ih =>
    rw [Text.trimStart, List.dropWhile_cons]
    split
    · exact ih h.tail
    · exact h

theorem trimEnd (h : t.Whole) : t.trimEnd.Whole := by
  rw [trimEnd_eq]
  induction t using List.reverseRecOn with
  | nil => exact nil
  | append_singleton t c ih =>
    rw [List.rdropWhile_concat]
    split
    · rename_i hblank
      exact ih (.inl (h.stretches_of_concat hblank))
    · exact h

theorem trim (h : t.Whole) : t.trim.Whole :=
  h.trimStart.trimEnd

end Whole

/-- Every stretch of a text is a single stretch. -/
theorem whole_of_mem_stretches {t u : Text} (h : u ∈ t.stretches) : u.Whole := by
  induction t generalizing u with
  | nil =>
    obtain rfl := List.mem_singleton.mp h
    exact Whole.nil
  | cons c t ih =>
    rw [stretches_cons] at h
    split at h
    · rcases List.mem_cons.mp h with rfl | h
      · by_cases hc : isBreak c [[]]
        · exact .inr (by rw [stretches_cons, stretches, List.foldr_nil, if_pos hc])
        · exact .inl (by rw [stretches_cons, stretches, List.foldr_nil, if_neg hc]; rfl)
      · exact ih h
    · rename_i hbreak
      obtain ⟨v, vs, hstretches⟩ := List.exists_cons_of_ne_nil (stretches_ne_nil t)
      rw [hstretches] at h hbreak
      rcases List.mem_cons.mp h with rfl | h
      · have hv : v.Whole := ih (by simp [hstretches])
        refine hv.cons ?_
        have hhead : v.stretches.head? = (v :: vs).head? := hv.head?
        rw [isBreak_congr c hhead]
        simpa using hbreak
      · exact ih (by simp [hstretches, h])

/-! ## What is told stretch by stretch -/

/-- What comes apart behind every terminator is told of the stretches. -/
theorem flatMap_stretches {β : Type} {f : Text → List β}
    (hf : ∀ s c t, isTerminator c = true → f (s ++ c :: t) = f (s ++ [c]) ++ f t) (t : Text) :
    t.stretches.flatMap f = f t :=
  isCutting_stretches.flatMap_eq
    (fun s c t hbreak => hf s c t (Bool.and_eq_true_iff.mp hbreak).1) t

/-! ## Sentences -/

/-- A sentence is its own only sentence. -/
theorem sentences_of_mem {t s : Text} (h : s ∈ t.sentences) : s.sentences = [s] := by
  obtain ⟨hmem, hany⟩ := List.mem_filter.mp h
  obtain ⟨u, hu, rfl⟩ := List.mem_map.mp hmem
  rcases (whole_of_mem_stretches hu).trim with hwhole | hwhole
  · rw [sentences, hwhole, List.map_singleton, trim_trim]
    simp only [List.filter_singleton, hany, cond_true]
  · rw [sentences, hwhole, List.map_cons, List.map_singleton, trim_trim]
    simp only [List.filter_cons, hany, if_true]
    rfl

end Text

end Colloquy
