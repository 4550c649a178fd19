import Colloquy.Proofs.Phrasebook.Passages
import Colloquy.Proofs.Text.Sentences
import Colloquy.Text.Shape

/-!
# The first word of a text

The shape of a sentence is for the first word of a text. Words end at white space, but what is
written in this shape ends at a space: where other white space ends the first word, the text runs on
up to the first space, and what it runs on with is put in lower case.

* `Text.firstWord`, `Text.runOn`, `Text.fromSpace` — a trimmed text is taken apart.
* `Text.asSentence_eq` — what the shape of a sentence makes of the three parts.
* `Text.head?_words_asSentence`, `Text.head?_words_asTitle` — the first word is capitalised in both
  shapes.
* `Text.asSentence_eq_capitalizeFirst_iff` — when nothing else is changed.
-/

namespace Colloquy

open Unicode

namespace Text

/-! ## The first word and what follows -/

/-- The first word of a text. -/
def firstWord (t : Text) : Text :=
  t.trim.takeWhile (!isBlank ·)

/-- What follows the first word, from the white space on that ends it. -/
def afterFirstWord (t : Text) : Text :=
  t.trim.dropWhile (!isBlank ·)

/-- Trimmed, with the first word capitalised and the rest as it is. -/
def capitalizeFirst (t : Text) : Text :=
  capitalize t.firstWord ++ t.afterFirstWord

/-- What stands between the first white space of a trimmed text and its first space. There is
nothing between them where the first white space is a space. -/
def runOn (t : Text) : Text :=
  t.afterFirstWord.takeWhile (· ≠ ' ')

/-- What follows, from the first space on. -/
def fromSpace (t : Text) : Text :=
  t.afterFirstWord.dropWhile (· ≠ ' ')

theorem runOn_append_fromSpace (t : Text) : t.runOn ++ t.fromSpace = t.afterFirstWord :=
  List.takeWhile_append_dropWhile

theorem firstWord_append (t : Text) : t.firstWord ++ t.afterFirstWord = t.trim :=
  List.takeWhile_append_dropWhile

theorem isBlank_of_mem_firstWord {t : Text} : ∀ c ∈ t.firstWord, isBlank c = false := by
  intro c hc
  simpa using List.mem_takeWhile_imp hc

theorem isBlank_head?_afterFirstWord {t : Text} :
    ∀ c ∈ t.afterFirstWord.head?, isBlank c = true := by
  intro c hc
  have hnot := List.head?_dropWhile_not (fun c => !isBlank c) t.trim
  rw [afterFirstWord] at hc
  rw [hc] at hnot
  simpa using hnot

/-- A text without a first word is blank. -/
theorem trim_eq_nil_of_firstWord_eq_nil {t : Text} (h : t.firstWord = []) : t.trim = [] := by
  cases htrim : t.trim with
  | nil => rfl
  | cons c cs =>
    have hc : isBlank c = false := t.isTrimmed_trim.1 c (by rw [htrim]; rfl)
    rw [firstWord, htrim, List.takeWhile_cons_of_pos (by rw [hc]; rfl)] at h
    cases h

theorem afterFirstWord_eq_nil {t : Text} (h : t.firstWord = []) : t.afterFirstWord = [] := by
  rw [afterFirstWord, trim_eq_nil_of_firstWord_eq_nil h]
  rfl

theorem ne_space_of_mem_firstWord {t : Text} :
    ∀ c ∈ t.firstWord, decide (c ≠ ' ') = true := by
  intro c hc
  rw [decide_eq_true_eq]
  rintro rfl
  exact absurd (isBlank_of_mem_firstWord ' ' hc) (by decide)

/-- Up to the first space stand the first word and what it runs on with. -/
theorem takeWhile_trim (t : Text) : t.trim.takeWhile (· ≠ ' ') = t.firstWord ++ t.runOn := by
  rw [← firstWord_append, List.takeWhile_append_of_pos ne_space_of_mem_firstWord, runOn]

theorem dropWhile_trim (t : Text) : t.trim.dropWhile (· ≠ ' ') = t.fromSpace := by
  rw [← firstWord_append, List.dropWhile_append_of_pos ne_space_of_mem_firstWord, fromSpace]

/-! ## Capitalised words -/

theorem capitalize_append {w : Text} (hw : w ≠ []) (s : Text) :
    capitalize (w ++ s) = capitalize w ++ s.flatMap toLower := by
  obtain ⟨c, cs, rfl⟩ := List.exists_cons_of_ne_nil hw
  rw [List.cons_append, capitalize, capitalize, List.flatMap_append, List.append_assoc]

theorem capitalize_ne_nil {w : Text} (hw : w ≠ []) : capitalize w ≠ [] := by
  obtain ⟨c, cs, rfl⟩ := List.exists_cons_of_ne_nil hw
  simp [capitalize, toUpper_ne_nil]

theorem isBlank_of_mem_capitalize {w : Text} (hw : ∀ c ∈ w, isBlank c = false) :
    ∀ d ∈ capitalize w, isBlank d = false := by
  intro d hd
  cases w with
  | nil => cases hd
  | cons c cs =>
    obtain ⟨hc, hcs⟩ := List.forall_mem_cons.mp hw
    rcases List.mem_append.mp hd with hd | hd
    · exact isBlank_eq_false_of_mem_toUpper hc hd
    · obtain ⟨e, he, hd⟩ := List.mem_flatMap.mp hd
      exact isBlank_eq_false_of_mem_toLower (hcs e he) hd

/-- White space stays as it is. -/
theorem toLower_eq_self_of_isBlank {c : Char} (h : isBlank c = true) : toLower c = [c] := by
  have hletter := isAlphanumeric_eq_false_of_isBlank h
  rw [isAlphanumeric, Bool.or_eq_false_iff] at hletter
  exact toLower_eq_self_of_not_letter hletter.1

/-! ## The shape of a sentence -/

/-- The first word is capitalised, what it runs on with is put in lower case, and the rest stays as
it is. -/
theorem asSentence_eq (t : Text) :
    t.asSentence = capitalize t.firstWord ++ (t.runOn.flatMap toLower ++ t.fromSpace) := by
  have hspan : t.asSentence = capitalize (t.firstWord ++ t.runOn) ++ t.fromSpace := by
    rw [← takeWhile_trim, ← dropWhile_trim, asSentence, List.span_eq_takeWhile_dropWhile]
  rw [hspan]
  by_cases hword : t.firstWord = []
  · rw [hword, runOn, afterFirstWord_eq_nil hword]
    rfl
  · rw [capitalize_append hword, List.append_assoc]

/-- What follows the first word begins with white space also when it is put in lower case. -/
theorem isBlank_head?_lowered (t : Text) :
    ∀ c ∈ (t.runOn.flatMap toLower ++ t.fromSpace).head?, isBlank c = true := by
  have hhead := t.isBlank_head?_afterFirstWord
  rw [← runOn_append_fromSpace] at hhead
  cases hrun : t.runOn with
  | nil => simpa [hrun] using hhead
  | cons d ds =>
    have hd : isBlank d = true := hhead d (by rw [hrun]; rfl)
    intro c hc
    rw [List.flatMap_cons, toLower_eq_self_of_isBlank hd] at hc
    obtain rfl := Option.some.inj hc
    exact hd

/-- A word with white space behind it, or with nothing, is the first word. -/
theorem head?_words_append {w s : Text} (hne : w ≠ []) (hw : ∀ c ∈ w, isBlank c = false)
    (hs : ∀ c ∈ s.head?, isBlank c = true) : (w ++ s).words.head? = some w := by
  cases s with
  | nil => rw [List.append_nil, words_eq_singleton hne hw]; rfl
  | cons d s => rw [words_append_blank (hs d rfl), words_eq_singleton hne hw]; rfl

/-- The first word of a text is the first of its words. -/
theorem head?_words (t : Text) :
    t.words.head? = if t.firstWord = [] then none else some t.firstWord := by
  rw [← words_trim]
  split
  · rename_i hword
    rw [trim_eq_nil_of_firstWord_eq_nil hword]
    rfl
  · rename_i hword
    rw [← firstWord_append]
    exact head?_words_append hword isBlank_of_mem_firstWord isBlank_head?_afterFirstWord

/-- In the shape of a sentence the first word is capitalised. -/
theorem head?_words_asSentence (t : Text) :
    t.asSentence.words.head? = t.words.head?.map capitalize := by
  rw [head?_words t, asSentence_eq]
  split
  · rename_i hword
    rw [hword, runOn, fromSpace, afterFirstWord_eq_nil hword]
    rfl
  · rename_i hword
    exact head?_words_append (capitalize_ne_nil hword)
      (isBlank_of_mem_capitalize isBlank_of_mem_firstWord) t.isBlank_head?_lowered

/-- So it is where every word is capitalised. -/
theorem head?_words_asTitle (t : Text) :
    t.asTitle.words.head? = t.words.head?.map capitalize := by
  have hwords : t.asTitle.words = t.words.map capitalize := by
    refine words_unwords (fun w hw => ?_) (fun w hw => ?_)
    · obtain ⟨v, hv, rfl⟩ := List.mem_map.mp hw
      exact capitalize_ne_nil (ne_nil_of_mem_words hv)
    · obtain ⟨v, hv, rfl⟩ := List.mem_map.mp hw
      exact isBlank_of_mem_capitalize (isBlank_of_mem_words hv)
  rw [hwords, List.head?_map]

/-- **Nothing but the first word is changed when what it runs on with has no capitals.** For every
text, the shape of a sentence is the trimmed text with its first word capitalised exactly when no
character between the first white space and the first space is put in lower case; otherwise these
characters are, and all others stay as they are. The first word is that of the text with every word
capitalised, whatever white space ends it. -/
theorem asSentence_eq_capitalizeFirst_iff (t : Text) :
    (Shape.sentence.apply t = t.capitalizeFirst ↔ ∀ c ∈ t.runOn, toLower c = [c]) ∧
      t.trim = t.firstWord ++ (t.runOn ++ t.fromSpace) ∧
      Shape.sentence.apply t =
        capitalize t.firstWord ++ (t.runOn.flatMap toLower ++ t.fromSpace) ∧
      (Shape.sentence.apply t).words.head? = (Shape.formal.apply t).words.head? := by
  have hshape : Shape.sentence.apply t =
      capitalize t.firstWord ++ (t.runOn.flatMap toLower ++ t.fromSpace) := t.asSentence_eq
  have hlonger : ∀ c ∈ t.runOn, [c].length ≤ (toLower c).length :=
    fun c _ => List.length_pos_iff.mpr (toLower_ne_nil c)
  refine ⟨?_, ?_, hshape, ?_⟩
  · rw [hshape, capitalizeFirst, ← runOn_append_fromSpace, List.append_cancel_left_eq,
      List.append_cancel_right_eq]
    have hsame := Phrasebook.flatMap_eq_flatMap_iff hlonger
    rwa [List.flatMap_singleton'] at hsame
  · rw [runOn_append_fromSpace, firstWord_append]
  · exact (head?_words_asSentence t).trans (head?_words_asTitle t).symm

/-- A tab ends the first word, but the text runs on up to the first space. -/
theorem asSentence_tabbed :
    Shape.sentence.apply "hello\tBOB and EVE".toList = "Hello\tbob and EVE".toList ∧
      capitalizeFirst "hello\tBOB and EVE".toList = "Hello\tBOB and EVE".toList ∧
      Shape.sentence.apply "hello\tBOB and EVE".toList ≠
        capitalizeFirst "hello\tBOB and EVE".toList :=
  ⟨rfl, rfl, by decide⟩

end Text

end Colloquy
