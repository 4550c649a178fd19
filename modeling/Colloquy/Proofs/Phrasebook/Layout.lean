import Colloquy.Proofs.Phrasebook.Recasting
import Colloquy.Proofs.Phrasebook.Segmenting
import Colloquy.Proofs.Text.Collapsing

/-!
# White space and reading

How a text is laid out has no influence on what it is read as. A text is written anew before it is
cut into words, so white space may be covered by a phrase, kept between words, or stand beside
punctuation; wherever it is, it may be collapsed.

* `Phrasebook.collapse_rewrite_collapse` — a text may be collapsed before it is written anew.
* `Phrasebook.read_unwords_words` — a text is read like its words.
* `Phrasebook.read_eq_of_words_eq` — texts of the same words are read alike.
-/

namespace Colloquy

open Unicode

namespace Phrasebook

variable {t : Text}

/-! ## Writing anew -/

/-- Texts that collapse to the same may be taken for each other. -/
theorem likeness_collapse (b : Phrasebook) : b.Likeness fun s t => s.collapse = t.collapse where
  nil := rfl
  append := Text.collapse_append_congr
  inCaseOf := by
    intro m m' e _ hm
    rw [← Text.inCaseOf_collapse m, hm, Text.inCaseOf_collapse]

/-- A run may be collapsed: a word stays as it is, and what stands between words stays so. -/
theorem alike_collapse (b : Phrasebook) {r : Run} (hr : r ∈ t.runs) :
    b.Alike (fun s t => s.collapse = t.collapse) Text.collapse r := by
  have hself (hword : r.isWord = true) : r.chars.collapse = r.chars :=
    Text.collapse_eq_self ((Text.isCutInto_runs t).isBlank_eq_false hr hword)
  exact {
    chars := (Text.collapse_collapse r.chars).symm
    isBlankText_eq := Text.isBlankText_collapse r.chars
    lower_eq := fun hword => by rw [hself hword]
    alone := fun hword => by rw [hself hword] }

/-- **A text may be collapsed before it is written anew.** -/
theorem collapse_rewrite_collapse (b : Phrasebook) (t : Text) :
    (b.rewrite t.collapse).collapse = (b.rewrite t).collapse := by
  rw [rewrite, rewrite, Text.runs_collapse]
  exact (rewriteRuns_recast b.likeness_collapse fun r hr => b.alike_collapse hr).symm

/-! ## Reading -/

theorem read_collapse (b : Phrasebook) (t : Text) : b.read t.collapse = b.read t := by
  rw [read, read, ← Text.words_collapse, collapse_rewrite_collapse, Text.words_collapse]

/-- **A text is read like its words.** -/
theorem read_unwords_words (b : Phrasebook) (t : Text) :
    b.read (Text.unwords t.words) = b.read t := by
  obtain ⟨s, e, hs, he, hcollapse⟩ := Text.exists_collapse_eq t
  rw [← read_collapse b t, hcollapse]
  symm
  refine Text.apply_between_blanks (fun c t hc => ?_) (fun c t hc => ?_) hs he
    (Text.unwords t.words)
  · exact read_cons_of_not_word (isWordChar_eq_false_of_isBlank hc) t
  · exact read_concat_of_not_word (isWordChar_eq_false_of_isBlank hc) t

/-- **Texts of the same words are read alike.** By any phrasebook, two texts that differ in their
white space alone are read as the same words, written in the same way, and so is the text in which
single spaces stand between the words. -/
theorem read_eq_of_words_eq (b : Phrasebook) {x y : Text} (h : x.words = y.words) :
    b.read x = b.read y ∧ b.read x = b.read (Text.unwords x.words) := by
  refine ⟨?_, (read_unwords_words b x).symm⟩
  rw [← read_unwords_words b x, h, read_unwords_words]

/-- A phrase of three words, and what is written for its last word on its own. -/
def smallTalk : Phrasebook :=
  afterInserts [("how are you".toList, "how goes it".toList), ("you".toList, "me".toList)]

/-- The phrase is replaced across tabs and line ends, white space before a mark is not read, and the
letter case of what is covered counts as it does in a single line. -/
theorem read_eq_of_words_eq_smallTalk :
    Text.words "\tSo How\n\tare  you ?\n".toList = Text.words "So How are you ?".toList ∧
      smallTalk.read "\tSo How\n\tare  you ?\n".toList =
        ["So", "How", "Goes", "It"].map fun w => Word.ofText w.toList := by
  have hwords : Text.words "\tSo How\n\tare  you ?\n".toList =
      Text.words "So How are you ?".toList := by decide
  refine ⟨hwords, ?_⟩
  rw [(read_eq_of_words_eq smallTalk hwords).1]
  decide +kernel

end Phrasebook

end Colloquy
