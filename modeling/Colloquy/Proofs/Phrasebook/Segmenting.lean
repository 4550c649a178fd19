import Colloquy.Phrasebook.Reading
import Colloquy.Proofs.Phrasebook.Scanning
import Colloquy.Proofs.Phrasebook.Seams
import Colloquy.Proofs.Text.Sentences

/-!
# Reading sentence by sentence

A text that is cut into sentences before it is read is read like the text as a whole. A sentence
ends with a mark, and no phrase goes on over one; what is trimmed off a sentence is white space; and
what is dropped between sentences has no letter and no digit, so it is read as no word, unless a
phrase makes words out of apostrophes alone.

* `Phrasebook.read_eq` — a text is written anew and then cut into words of letters and digits.
* `Phrasebook.read_trim`, `Phrasebook.flatMap_read_stretches` — neither trimming nor cutting behind
  terminators changes what is read.
* `Phrasebook.read_eq_nil_of_no_alphanumeric` — a fragment is read as no word.
* `Phrasebook.flatten_readSentences` — the sentences are read like the whole.
-/

namespace Colloquy

open Unicode

/-! ## Characters between words -/

theorem isAlphanumeric_eq_false_of_not_word {c : Char} (h : isWordChar c = false) :
    isAlphanumeric c = false :=
  (Bool.or_eq_false_iff.mp h).1

theorem isWordChar_eq_false_of_isBlank {c : Char} (h : isBlank c = true) :
    isWordChar c = false := by
  cases hc : isWordChar c with
  | false => rfl
  | true =>
    rw [isBlank_eq_false_of_isWordChar hc] at h
    cases h

/-- A terminator is a mark: neither in a word nor white space. -/
theorem Text.mark_of_isTerminator {c : Char} (h : Text.isTerminator c = true) :
    isWordChar c = false ∧ isBlank c = false := by
  simp only [Text.isTerminator, Bool.or_eq_true, decide_eq_true_eq] at h
  rcases h with (rfl | rfl) | rfl <;> decide

/-! ## The words of a text -/

namespace Text

@[simp] theorem toWords_nil : toWords [] = [] := rfl

theorem toWords_append_sign {c : Char} (hc : isAlphanumeric c = false) (s t : Text) :
    toWords (s ++ c :: t) = s.toWords ++ t.toWords := by
  rw [toWords, pieces_append_sign (by rw [hc]; rfl), List.map_append]
  rfl

theorem toWords_cons_sign {c : Char} (hc : isAlphanumeric c = false) (t : Text) :
    toWords (c :: t) = t.toWords :=
  toWords_append_sign hc [] t

/-- A text without letters and digits has no words. -/
theorem toWords_eq_nil {t : Text} (h : t.any isAlphanumeric = false) : t.toWords = [] := by
  induction t with
  | nil => rfl
  | cons c t ih =>
    rw [List.any_cons, Bool.or_eq_false_iff] at h
    rw [toWords_cons_sign h.1, ih h.2]

end Text

/-! ## Reading -/

namespace Phrasebook

variable {b : Phrasebook} {c : Char} {s t : Text}

/-- A text is written anew and then cut into words of letters and digits. -/
theorem read_eq (b : Phrasebook) (t : Text) : b.read t = (b.rewrite t).toWords := by
  refine Text.flatMap_pieces (fun s d t hd => ?_) rfl (b.rewrite t)
  have hword := isWordChar_eq_false_of_isBlank hd
  exact Text.toWords_append_sign (isAlphanumeric_eq_false_of_not_word hword) s t

theorem read_cons_of_not_word (hc : isWordChar c = false) (t : Text) :
    b.read (c :: t) = b.read t := by
  have hsign := isAlphanumeric_eq_false_of_not_word hc
  rw [read_eq, read_eq, rewrite_cons_of_not_word hc, Text.toWords_cons_sign hsign]

theorem read_concat_of_not_word (hc : isWordChar c = false) (s : Text) :
    b.read (s ++ [c]) = b.read s := by
  have hsign := isAlphanumeric_eq_false_of_not_word hc
  rw [read_eq, read_eq, rewrite_concat_of_not_word hc, Text.toWords_append_sign hsign,
    Text.toWords_nil, List.append_nil]

/-- What is before and behind a mark is read each on its own. -/
theorem read_append_mark (hc : isWordChar c = false) (hblank : isBlank c = false) (s t : Text) :
    b.read (s ++ c :: t) = b.read s ++ b.read t := by
  have hsign := isAlphanumeric_eq_false_of_not_word hc
  rw [read_eq, read_eq, read_eq, rewrite_append_mark hc hblank, Text.toWords_append_sign hsign]

/-- White space at its ends changes nothing about what a text is read as. -/
theorem read_trim (b : Phrasebook) (t : Text) : b.read t.trim = b.read t :=
  Text.apply_trim (fun _ t hc => read_cons_of_not_word (isWordChar_eq_false_of_isBlank hc) t)
    (fun _ t hc => read_concat_of_not_word (isWordChar_eq_false_of_isBlank hc) t) t

/-! ## Cutting behind terminators -/

/-- No phrase is replaced across the end of a sentence. -/
theorem flatMap_rewrite_stretches (b : Phrasebook) (t : Text) :
    t.stretches.flatMap b.rewrite = b.rewrite t := by
  refine Text.flatMap_stretches (fun s c t hc => ?_) t
  obtain ⟨hword, hblank⟩ := Text.mark_of_isTerminator hc
  rw [rewrite_append_mark hword hblank, rewrite_concat_of_not_word hword, List.append_assoc]
  rfl

theorem flatMap_read_stretches (b : Phrasebook) (t : Text) :
    t.stretches.flatMap b.read = b.read t := by
  refine Text.flatMap_stretches (fun s c t hc => ?_) t
  obtain ⟨hword, hblank⟩ := Text.mark_of_isTerminator hc
  rw [read_append_mark hword hblank, read_concat_of_not_word hword]

/-- The text that a phrase covers in a text has no terminator. -/
theorem isTerminator_eq_false_of_covered {r : Run} {rs : List Run} {hit : Hit}
    (hruns : r :: rs <:+ t.runs) (hword : r.isWord = true) (h : b.hitAt? r.chars rs = some hit) :
    ∀ c ∈ hit.covered, Text.isTerminator c = false := by
  have hkind : ∀ s ∈ r :: rs, s.isWord = true → ∀ c ∈ s.chars, isWordChar c = true := by
    intro s hs hisWord c hc
    rw [(Text.isCutInto_runs t).kind s (hruns.subset hs) c hc, hisWord]
  obtain ⟨more, ws, htakes⟩ := exists_takes_of_hitAt? h
  intro c hc
  cases hend : Text.isTerminator c with
  | false => rfl
  | true =>
    obtain ⟨hnot, hblank⟩ := Text.mark_of_isTerminator hend
    have hbetween : ∀ s ∈ more, ∀ d ∈ s.chars, isWordChar d = true ∨ isBlank d = true :=
      htakes.goesOn.forall_chars fun s hs =>
        hkind s (List.mem_cons_of_mem _ (htakes.begins.subset hs))
    rw [htakes.covered_eq, List.mem_append, List.mem_flatMap] at hc
    rcases hc with hc | ⟨s, hs, hc⟩
    · rw [hkind r List.mem_cons_self hword c hc] at hnot
      cases hnot
    · rcases hbetween s hs c hc with hc | hc
      · rw [hc] at hnot
        cases hnot
      · rw [hc] at hblank
        cases hblank

/-! ## Fragments -/

/-- In every phrase there is a letter or a digit. -/
def IsSpoken (b : Phrasebook) : Prop :=
  ∀ k ∈ b.entries.keys, k.any isAlphanumeric = true

instance (b : Phrasebook) : Decidable b.IsSpoken :=
  inferInstanceAs (Decidable (∀ k ∈ b.entries.keys, k.any isAlphanumeric = true))

theorem IsSpoken.find?_eq_none (hspoken : b.IsSpoken) {k : Text}
    (hk : ∀ c ∈ k, isAlphanumeric c = false) : b.entries.find? k = none := by
  cases hfind : b.entries.find? k with
  | none => rfl
  | some v =>
    have hmem : k ∈ b.entries.keys :=
      List.mem_map.mpr ⟨(k, v), Dict.find?_eq_some_iff.mp hfind, rfl⟩
    obtain ⟨c, hc, hletter⟩ := List.any_eq_true.mp (hspoken k hmem)
    rw [hk c hc] at hletter
    cases hletter

theorem lower_eq_self_of_apostrophes (h : ∀ c ∈ t, c = '\'') : t.lower = t := by
  refine Text.lower_eq_self fun c hc => ?_
  rw [h c hc]
  decide

/-- At a word of apostrophes no phrase begins. -/
theorem IsSpoken.hitAt?_eq_none (hspoken : b.IsSpoken) {word : Text} {rs : List Run}
    (hword : ∀ c ∈ word, c = '\'') (hrs : ∀ r ∈ rs, r.isWord = true → ∀ c ∈ r.chars, c = '\'') :
    b.hitAt? word rs = none := by
  cases hhit : b.hitAt? word rs with
  | none => rfl
  | some hit =>
    obtain ⟨more, ws, htakes⟩ := exists_takes_of_hitAt? hhit
    have hws : ∀ w ∈ ws, ∀ c ∈ w, c = '\'' := by
      refine htakes.goesOn.forall_words fun r hr hisWord => ?_
      have hchars := hrs r (htakes.begins.subset hr) hisWord
      rw [lower_eq_self_of_apostrophes hchars]
      exact hchars
    have hnone : b.entries.find? (word.lower ++ ws.flatMap (' ' :: ·)) = none := by
      refine hspoken.find?_eq_none fun c hc => ?_
      rw [lower_eq_self_of_apostrophes hword, List.mem_append, List.mem_flatMap] at hc
      rcases hc with hc | ⟨w, hw, hc⟩
      · rw [hword c hc]
        decide
      · rcases List.mem_cons.mp hc with rfl | hc
        · decide
        · rw [hws w hw c hc]
          decide
    have hfind := htakes.find
    rw [hnone] at hfind
    cases hfind

/-- Nor does it begin with a phrase before an apostrophe. -/
theorem IsSpoken.headReplaced?_eq_none (hspoken : b.IsSpoken) {word : Text}
    (hword : ∀ c ∈ word, c = '\'') : b.headReplaced? word = none := by
  refine Option.eq_none_iff_forall_not_mem.mpr fun out hsome => ?_
  obtain ⟨head, tail, v, ⟨rfl, -⟩, hentry, -⟩ := headReplaced?_eq_some_iff.mp hsome
  have hhead : ∀ c ∈ head, c = '\'' := fun c hc => hword c (List.mem_append_left _ hc)
  have hnone : b.entries.find? head.lower = none := by
    refine hspoken.find?_eq_none fun c hc => ?_
    rw [lower_eq_self_of_apostrophes hhead] at hc
    rw [hhead c hc]
    decide
  rw [Dict.find?_eq_some_iff.mpr hentry] at hnone
  cases hnone

/-- Runs whose words are apostrophes are kept. -/
theorem IsSpoken.rewriteRuns_eq (hspoken : b.IsSpoken) {rs : List Run}
    (hrs : ∀ r ∈ rs, r.isWord = true → ∀ c ∈ r.chars, c = '\'') :
    b.rewriteRuns rs = rs.flatMap Run.chars := by
  refine rewriteRuns_eq_flatMap_chars fun r rest hsuffix hword => ?_
  obtain ⟨hr, hrest⟩ := List.forall_mem_cons.mp fun s hs => hrs s (hsuffix.subset hs)
  exact ⟨hspoken.hitAt?_eq_none (hr hword) hrest, hspoken.headReplaced?_eq_none (hr hword)⟩

/-- A text without letters and digits is kept, so it is read as no word. -/
theorem IsSpoken.read_eq_nil (hspoken : b.IsSpoken) (ht : t.any isAlphanumeric = false) :
    b.read t = [] := by
  have hcut := Text.isCutInto_runs t
  have hplain : ∀ c ∈ t, isAlphanumeric c = false := by
    intro c hc
    simpa using List.any_eq_false.mp ht c hc
  have hrewrite : b.rewrite t = t := by
    rw [rewrite, hspoken.rewriteRuns_eq fun r hr hword c hc => ?_, hcut.join]
    have hmem : c ∈ t := hcut.mem_of_mem_chars hr hc
    have hkind : isWordChar c = true := by rw [hcut.kind r hr c hc, hword]
    simpa [isWordChar, hplain c hmem] using hkind
  rw [read_eq, hrewrite, Text.toWords_eq_nil ht]

/-! ## Sentences -/

/-- What is dropped between the sentences of a text has neither a letter nor a digit. -/
theorem any_eq_false_of_not_mem_sentences (hs : s ∈ t.stretches.map Text.trim)
    (hdropped : s ∉ t.sentences) : s.any isAlphanumeric = false := by
  cases hany : s.any isAlphanumeric with
  | false => rfl
  | true => exact absurd (List.mem_filter.mpr ⟨hs, hany⟩) hdropped

/-- **The sentences of a text are read like the whole text.** By a phrasebook that has a letter or a
digit in every phrase, the words of the sentences, one sentence after the other, are the words of
the text. No phrase covers a terminator, so the text is written anew stretch by stretch, and what is
dropped between the sentences is read as no word. -/
theorem flatten_readSentences (hspoken : b.IsSpoken) (t : Text) :
    (b.readSentences t).flatten = b.read t ∧
      (∀ r rs hit, r :: rs <:+ t.runs → r.isWord = true → b.hitAt? r.chars rs = some hit →
        ∀ c ∈ hit.covered, Text.isTerminator c = false) ∧
      t.stretches.flatMap b.rewrite = b.rewrite t ∧
      ∀ s ∈ t.stretches.map Text.trim, s ∉ t.sentences → b.read s = [] := by
  refine ⟨?_, ?_, flatMap_rewrite_stretches b t, ?_⟩
  · have hdropped : ∀ s ∈ t.stretches.map Text.trim, s.any isAlphanumeric = false →
        b.read s = [] := fun s _ hs => hspoken.read_eq_nil hs
    calc (b.readSentences t).flatten
        = (t.sentences.map b.read).flatten := List.flatten_filter_ne_nil
      _ = t.sentences.flatMap b.read := List.flatMap_def.symm
      _ = (t.stretches.map Text.trim).flatMap b.read := Text.flatMap_filter hdropped
      _ = t.stretches.flatMap fun s => b.read s.trim := List.flatMap_map _ _ _
      _ = t.stretches.flatMap b.read := by simp only [read_trim]
      _ = b.read t := flatMap_read_stretches b t
  · intro r rs hit hruns hword hhit
    exact isTerminator_eq_false_of_covered hruns hword hhit
  · intro s hs hdropped
    exact hspoken.read_eq_nil (any_eq_false_of_not_mem_sentences hs hdropped)

/-- A phrase that would go on over the end of a sentence if it were not for the mark, and what is
written for its second word on its own. -/
def courtesy : Phrasebook :=
  afterInserts [("thank you".toList, "thanks".toList), ("you".toList, "thou".toList)]

/-- Three sentences, and a fragment that is dropped. -/
def farewell : Text := "Thank. You too! '' ! Thank you.".toList

/-- The phrase is read where no mark stands in between, and the fragment is not read. -/
theorem flatten_readSentences_farewell :
    courtesy.IsSpoken ∧ farewell.sentences.length = 3 ∧
      courtesy.rewrite farewell = "Thank. Thou too! '' ! Thanks.".toList ∧
      (courtesy.readSentences farewell).flatten = courtesy.read farewell ∧
      courtesy.read "'' !".toList = [] := by
  have hspoken : courtesy.IsSpoken := by decide +kernel
  obtain ⟨hwhole, -, -, hdropped⟩ := flatten_readSentences hspoken farewell
  refine ⟨hspoken, by decide +kernel, by decide +kernel, hwhole, ?_⟩
  exact hdropped _ (by decide +kernel) (by decide +kernel)

end Phrasebook

end Colloquy
