import Colloquy.Proofs.Phrasebook.Phrases
import Colloquy.Proofs.Phrasebook.Scanning
import Colloquy.Proofs.Text.Sentences

/-!
# Phrases that are put in

A phrase is put in if it has words and these are made of letters, digits and apostrophes. This is
looked at when the phrase is in lower case already, which makes a difference for a single letter:
the dot of `İ` becomes a character of its own in lower case, which is in no word.

A phrase that was put in is found as itself, whatever else there is: its own words are looked up as
a whole before any of its beginnings.

* `isWordChar_toLower_iff`, `Text.all_lower_isWordChar_iff` — what stays in words in lower case.
* `Text.IsWorded.exists_goesOn` — the runs of a text of words go on with its words.
* `Phrasebook.rewrite_trim_of_insert` — a phrase that was put in is found.
* `Phrasebook.insert_outcome` — what comes of putting in a phrase.
-/

namespace Colloquy

open Unicode

/-! ## Words in lower case -/

/-- What a character becomes in lower case is in a word if the character is, but for `İ`. -/
theorem isWordChar_toLower_iff {c : Char} :
    (toLower c).all isWordChar = true ↔ isWordChar c = true ∧ c ≠ 'İ' := by
  cases hletter : isAlphabetic c with
  | false =>
    have hplain : c ≠ 'İ' := by
      rintro rfl
      revert hletter
      decide +kernel
    simp [toLower_eq_self_of_not_letter hletter, hplain]
  | true =>
    have hword : isWordChar c = true := by simp [isWordChar, isAlphanumeric, hletter]
    constructor
    · intro hall
      refine ⟨hword, ?_⟩
      rintro rfl
      revert hall
      decide +kernel
    · rintro ⟨-, hplain⟩
      have hall := List.all_eq_true.mp ((all_toLower_iff hletter).mpr hplain)
      exact List.all_eq_true.mpr fun d hd => Bool.or_eq_true_iff.mpr (.inl (hall d hd))

namespace Text

/-- A sigma is in a word, wherever it stands. -/
theorem isWordChar_lowerSigma (before after : Text) :
    isWordChar (lowerSigma before after) = true := by
  rw [lowerSigma]
  split <;> decide +kernel

theorem all_lowerAfter_isWordChar_iff {before t : Text} :
    (lowerAfter before t).all isWordChar = true ↔ ∀ c ∈ t, isWordChar c = true ∧ c ≠ 'İ' := by
  induction t generalizing before with
  | nil => simp [lowerAfter]
  | cons c t ih =>
    rw [lowerAfter, List.all_append, Bool.and_eq_true, ih, List.forall_mem_cons]
    refine and_congr_left' ?_
    split
    · rename_i hsigma
      have hcapital : isWordChar 'Σ' = true ∧ 'Σ' ≠ 'İ' := by decide +kernel
      simp only [hsigma, List.all_cons, List.all_nil, isWordChar_lowerSigma, Bool.and_true,
        true_iff]
      exact hcapital
    · exact isWordChar_toLower_iff

/-- A text in lower case is made of word characters if the text is, but for `İ`. -/
theorem all_lower_isWordChar_iff {t : Text} :
    t.lower.all isWordChar = true ↔ ∀ c ∈ t, isWordChar c = true ∧ c ≠ 'İ' :=
  all_lowerAfter_isWordChar_iff

/-! ## Texts of words -/

/-- A text of words and white space, with no white space at its end. -/
structure IsWorded (t : Text) : Prop where
  chars : ∀ c ∈ t, isBlank c = true ∨ isWordChar c = true
  last : ∀ c ∈ t.getLast?, isBlank c = false

theorem IsWorded.of_append {s t : Text} (h : IsWorded (s ++ t)) : t.IsWorded where
  chars c hc := h.chars c (List.mem_append_right s hc)
  last c hc := h.last c (by rw [List.getLast?_append, hc]; rfl)

/-- In a text of words, white space is the only thing between them. -/
theorem IsWorded.isBlank_of_not_word {t : Text} {rs : List Run} {g : Run} (ht : t.IsWorded)
    (h : t.IsCutInto rs) (hg : g ∈ rs) (hnot : g.isWord = false) :
    ∀ c ∈ g.chars, isBlank c = true := by
  intro c hc
  refine (ht.chars c (h.mem_of_mem_chars hg hc)).resolve_right ?_
  rw [h.kind g hg c hc, hnot]
  exact Bool.false_ne_true

/-- Behind a word of a text of words nothing follows, or white space and another word. -/
theorem IsWorded.follows {t : Text} {r : Run} {rs : List Run} (ht : t.IsWorded)
    (h : t.IsCutInto (r :: rs)) (hword : r.isWord = true) :
    rs = [] ∨ ∃ g s rest, rs = g :: s :: rest ∧ g.isWord = false ∧ s.isWord = true ∧
      ∀ c ∈ g.chars, isBlank c = true := by
  match rs with
  | [] => exact .inl rfl
  | g :: rest =>
    obtain ⟨hnext, hchain⟩ := List.isChain_cons.mp h.alternate
    have hnot : g.isWord = false := by
      have hother := hnext g rfl
      rw [hword] at hother
      exact eq_false_of_ne_true hother.symm
    have hmem : g ∈ r :: g :: rest := List.mem_cons_of_mem r List.mem_cons_self
    have hgap := ht.isBlank_of_not_word h hmem hnot
    match rest with
    | [] =>
      -- the white space would be at the end of the text
      have hne : g.chars ≠ [] := h.chars_ne_nil g hmem
      have hend : t.getLast? = some (g.chars.getLast hne) := by
        rw [← h.join, List.flatMap_cons, List.flatMap_singleton, List.getLast?_append,
          List.getLast?_eq_some_getLast hne]
        rfl
      have hmark := ht.last _ hend
      rw [hgap _ (List.getLast_mem hne)] at hmark
      cases hmark
    | s :: rest =>
      have hsword : s.isWord = true := by
        have hother := (List.isChain_cons.mp hchain).1 s rfl
        rw [hnot] at hother
        exact eq_true_of_ne_false hother.symm
      exact .inr ⟨g, s, rest, rfl, hnot, hsword, hgap⟩

/-- The runs after the first word of a text of words go on with its other words. -/
theorem IsWorded.exists_goesOn {t : Text} {r : Run} {rs : List Run} (ht : t.IsWorded)
    (h : t.IsCutInto (r :: rs)) (hword : r.isWord = true) :
    ∃ ws, t.words = r.chars :: ws ∧ GoesOn rs (ws.map lower) := by
  obtain ⟨hne, hnes⟩ := List.forall_mem_cons.mp h.chars_ne_nil
  have hr : ∀ c ∈ r.chars, isBlank c = false := fun c hc =>
    isBlank_eq_false_of_isWordChar (by rw [h.kind r List.mem_cons_self c hc, hword])
  rcases ht.follows h hword with rfl | ⟨g, s, rest, rfl, hnot, hsword, hgap⟩
  · refine ⟨[], ?_, .stop⟩
    rw [← h.join, List.flatMap_singleton, words_eq_singleton hne hr]
  · have hbehind := h.tail.tail
    generalize hrest : (s :: rest).flatMap Run.chars = behind at hbehind
    have hwhole : t = r.chars ++ (g.chars ++ behind) := by
      rw [← h.join, List.flatMap_cons, List.flatMap_cons, hrest]
    rw [hwhole] at ht
    obtain ⟨ws, hws, hgoes⟩ := ht.of_append.of_append.exists_goesOn hbehind hsword
    refine ⟨s.chars :: ws, ?_, .next ?_ hsword hgoes⟩
    · rw [hwhole, words_append_gap hne hr (hnes g List.mem_cons_self) hgap, hws]
    · rw [Run.isGap, hnot, isBlankText]
      exact List.all_eq_true.mpr hgap
  termination_by rs.length

end Text

namespace Phrasebook

variable {b b' : Phrasebook} {phrase replacement : Text}

/-! ## Putting in a phrase -/

/-- The words of a phrase are made of word characters in lower case if its characters are, but for
`İ`. -/
theorem all_phraseWords_iff : (phraseWords phrase).all (·.all isWordChar) = true ↔
    ∀ c ∈ phrase, isBlank c = false → isWordChar c = true ∧ c ≠ 'İ' := by
  rw [phraseWords, List.all_map, List.all_eq_true]
  simp only [Function.comp_apply, Text.all_lower_isWordChar_iff]
  constructor
  · intro h c hc hblank
    obtain ⟨w, hw, hcw⟩ := Text.mem_words_iff.mpr ⟨hc, hblank⟩
    exact h w hw c hcw
  · intro h w hw c hcw
    obtain ⟨hc, hblank⟩ := Text.mem_words_iff.mp ⟨w, hw, hcw⟩
    exact h c hc hblank

theorem phraseWords_eq_nil_iff : phraseWords phrase = [] ↔ phrase.isBlankText = true := by
  rw [phraseWords, List.map_eq_nil_iff, Text.words_eq_nil_iff]

theorem phraseWords_ne_nil (h : phrase.isBlankText = false) : phraseWords phrase ≠ [] := by
  rw [Ne, phraseWords_eq_nil_iff, h]
  exact Bool.false_ne_true

/-- White space alone is no phrase. -/
theorem insert_eq_noWord_iff :
    b.insert phrase replacement = .error .noWord ↔ phrase.isBlankText = true := by
  rw [← phraseWords_eq_nil_iff, insert]
  by_cases hnil : phraseWords phrase = []
  · simp only [hnil, if_true]
  · simp only [hnil, if_false, iff_false]
    split <;> simp

/-- A phrase is refused for a character that is in no word in lower case. -/
theorem insert_eq_notWords_iff : b.insert phrase replacement = .error (.notWords phrase) ↔
    ∃ c ∈ phrase, isBlank c = false ∧ (isWordChar c = false ∨ c = 'İ') := by
  have hall : (∃ c ∈ phrase, isBlank c = false ∧ (isWordChar c = false ∨ c = 'İ')) ↔
      ¬ (phraseWords phrase).all (·.all isWordChar) = true := by
    rw [all_phraseWords_iff]
    push Not
    refine exists_congr fun c => and_congr_right fun _ => and_congr_right fun _ => ?_
    rw [← Bool.not_eq_true, ← imp_iff_not_or]
  rw [hall, insert]
  by_cases hnil : phraseWords phrase = []
  · simp [hnil]
  · simp only [hnil, if_false]
    split <;> simp [*]

/-- Every other phrase is put in. -/
theorem exists_insert_eq_ok_iff : (∃ b', b.insert phrase replacement = .ok b') ↔
    phrase.isBlankText = false ∧
      ∀ c ∈ phrase, isBlank c = false → isWordChar c = true ∧ c ≠ 'İ' := by
  rw [← all_phraseWords_iff, ← Bool.not_eq_true, ← phraseWords_eq_nil_iff, insert]
  by_cases hnil : phraseWords phrase = []
  · simp [hnil]
  · simp only [hnil, if_false]
    split <;> simp [*]

/-- The first run of a trimmed text of words is a word. -/
theorem exists_runs_trim_eq (hsome : phrase.isBlankText = false) (hworded : phrase.trim.IsWorded) :
    ∃ r rs, phrase.trim.runs = r :: rs ∧ r.isWord = true := by
  have hcut := Text.isCutInto_runs phrase.trim
  cases hruns : phrase.trim.runs with
  | nil =>
    -- a text without runs has no words
    rw [hruns] at hcut
    have hnone : phrase.words = [] := by
      rw [← Text.words_trim, ← hcut.join]
      rfl
    rw [Text.words_eq_nil_iff.mp hnone] at hsome
    cases hsome
  | cons r rs =>
    refine ⟨r, rs, rfl, ?_⟩
    rw [hruns] at hcut
    obtain ⟨c, cs, hchars⟩ := List.exists_cons_of_ne_nil (hcut.chars_ne_nil r List.mem_cons_self)
    have htext : phrase.trim = c :: (cs ++ rs.flatMap Run.chars) := by
      rw [← hcut.join, List.flatMap_cons, hchars]
      rfl
    have hblank : isBlank c = false := (Text.isTrimmed_trim phrase).1 c (by rw [htext]; rfl)
    have hword : isWordChar c = true := by
      refine (hworded.chars c (by rw [htext]; exact List.mem_cons_self)).resolve_left ?_
      rw [hblank]
      exact Bool.false_ne_true
    rw [← hcut.kind r List.mem_cons_self c (by rw [hchars]; exact List.mem_cons_self), hword]

/-- A phrase that was put in is found as itself, whatever else the phrasebook has. -/
theorem rewrite_trim_of_insert (hsome : phrase.isBlankText = false)
    (hchars : ∀ c ∈ phrase, isBlank c = false → isWordChar c = true)
    (hok : b.insert phrase replacement = .ok b') :
    b'.rewrite phrase.trim = Text.inCaseOf phrase.trim replacement.trim.lower := by
  obtain ⟨hentries, hlongest⟩ := insert_eq_ok hok
  have hworded : phrase.trim.IsWorded := by
    refine ⟨fun c hc => ?_, (Text.isTrimmed_trim phrase).2⟩
    cases hblank : isBlank c with
    | true => exact .inl rfl
    | false => exact .inr (hchars c (phrase.trim_sublist.subset hc) hblank)
  obtain ⟨r, rs, hruns, hword⟩ := exists_runs_trim_eq hsome hworded
  have hcut := Text.isCutInto_runs phrase.trim
  rw [hruns] at hcut
  obtain ⟨ws, hws, hgoes⟩ := hworded.exists_goesOn hcut hword
  have hphrase : phraseWords phrase = r.chars.lower :: ws.map Text.lower := by
    rw [phraseWords, ← Text.words_trim, hws]
    rfl
  have hfind : b'.entries.find? (r.chars.lower ++ (ws.map Text.lower).flatMap (' ' :: ·)) =
      some replacement.trim.lower := by
    rw [hentries, Dict.find?_insert, hphrase, Text.unwords_cons, if_pos rfl]
  have hroom : (ws.map Text.lower).length ≤ b'.longest - 1 := by
    rw [hlongest, hphrase, List.length_cons]
    omega
  rw [rewrite, hruns, rewriteRuns_cons_of_hit hword (hitAt?_of_whole hgoes hroom hfind),
    List.drop_length, rewriteRuns_nil, List.append_nil]
  exact congrArg (Text.inCaseOf · replacement.trim.lower) hcut.join

/-- **Which phrases are put in, and that they are found.** White space alone is no phrase, and a
phrase is refused for a character that is in no word, or for an `İ`, which is in words but leaves
them in lower case. Every other phrase is put in, and a text that is nothing but the phrase, as it
was put in, is replaced as a whole by what was put in with it. -/
theorem insert_outcome (b : Phrasebook) (phrase replacement : Text) :
    (b.insert phrase replacement = .error .noWord ↔ phrase.isBlankText = true) ∧
      (b.insert phrase replacement = .error (.notWords phrase) ↔
        ∃ c ∈ phrase, isBlank c = false ∧ (isWordChar c = false ∨ c = 'İ')) ∧
      ((∃ b', b.insert phrase replacement = .ok b') ↔ phrase.isBlankText = false ∧
        ∀ c ∈ phrase, isBlank c = false → isWordChar c = true ∧ c ≠ 'İ') ∧
      ∀ b', b.insert phrase replacement = .ok b' →
        b'.entries.find? (Text.unwords (phraseWords phrase)) = some replacement.trim.lower ∧
          b'.rewrite phrase.trim = Text.inCaseOf phrase.trim replacement.trim.lower := by
  refine ⟨insert_eq_noWord_iff, insert_eq_notWords_iff, exists_insert_eq_ok_iff, ?_⟩
  intro b' hok
  obtain ⟨hsome, hchars⟩ := exists_insert_eq_ok_iff.mp ⟨b', hok⟩
  refine ⟨?_, rewrite_trim_of_insert hsome (fun c hc hblank => (hchars c hc hblank).1) hok⟩
  rw [(insert_eq_ok hok).1, Dict.find?_insert, if_pos rfl]

/-- The first word of a phrase, and all of one, are phrases themselves. -/
def hail : Phrasebook :=
  afterInserts [("ça".toList, "that".toList), ("va".toList, "goes".toList)]

/-- A phrase is found with the white space and the capitals that it was written with. -/
theorem insert_outcome_hail :
    ∃ b, hail.insert "  Ça \t va ".toList "hello there".toList = .ok b ∧
      b.rewrite "Ça \t va".toList = "Hello There".toList := by
  have hsome : Text.isBlankText "  Ça \t va ".toList = false := by decide
  have hall : "  Ça \t va ".toList.all (fun c => isBlank c || isWordChar c && c ≠ 'İ') = true := by
    decide +kernel
  have hchars : ∀ c ∈ "  Ça \t va ".toList,
      isBlank c = false → isWordChar c = true ∧ c ≠ 'İ' := by
    intro c hc hblank
    simpa [hblank] using List.all_eq_true.mp hall c hc
  obtain ⟨-, -, haccepted, hfound⟩ :=
    insert_outcome hail "  Ça \t va ".toList "hello there".toList
  obtain ⟨b, hb⟩ := haccepted.mpr ⟨hsome, hchars⟩
  have hcase : Text.inCaseOf (Text.trim "  Ça \t va ".toList)
      (Text.trim "hello there".toList).lower = "Hello There".toList := by decide +kernel
  have hrewrite := (hfound b hb).2
  rw [hcase] at hrewrite
  exact ⟨b, hb, hrewrite⟩

/-- A letter that makes a word is refused, for the dot that it has in lower case is in no word. -/
theorem insert_dotted_capital_refused :
    "İ".toList.all isWordChar = true ∧ Text.runs "İ".toList = [⟨"İ".toList, true⟩] ∧
      (∅ : Phrasebook).insert "İ".toList "i".toList = .error (.notWords "İ".toList) := by
  decide +kernel

end Phrasebook

end Colloquy
