import Colloquy.Document.Phrasebook
import Colloquy.Proofs.Phrasebook.Admission

/-!
# Phrasebooks that are written and read again

What is kept of a phrase and of its replacement is what putting them in makes of them, and putting
them in once more changes neither. So a phrasebook, however it came about, is read again from the
document that is written for it, with the same phrases and the same bound on how many words a phrase
has.

* `Text.IsPhrase`, `Phrasebook.InOrder` — how phrases, replacements and the bound are kept.
* `Phrasebook.inOrder_afterInserts` — they are kept so by all that is put in.
* `Phrasebook.exists_insertAll_eq_ok` — phrases that are kept are put in again as they are.
* `Phrasebook.afterInserts_survives` — every phrasebook that was made by putting in phrases is in
  order and is read again.
-/

namespace Colloquy

open Unicode

/-! ## Dictionaries that are filled from their entries -/

namespace Dict

variable {β : Type}

/-- What is found after several values were put in under different texts. -/
theorem find?_foldl_insert {es : List (Text × β)} (hes : es.Pairwise fun a b => a.1 < b.1)
    (d : Dict β) (k : Text) : (es.foldl (fun d e => d.insert e.1 e.2) d).find? k =
      (valueIn? k es).or (d.find? k) := by
  induction es generalizing d with
  | nil => rfl
  | cons e es ih =>
    obtain ⟨j, w⟩ := e
    obtain ⟨hj, hes⟩ := List.pairwise_cons.mp hes
    rw [List.foldl_cons, ih hes, find?_insert, valueIn?]
    by_cases hk : k = j
    · subst hk
      simp [valueIn?_eq_none_of_lt hj]
    · simp [hk]

/-- A dictionary is made of its entries. -/
theorem ofList_entries (d : Dict β) : ofList d.entries = d := by
  refine ext_find? fun k => ?_
  rw [ofList, find?_foldl_insert d.sorted, find?_empty, Option.or_none]
  rfl

end Dict

/-! ## Replacements -/

namespace Text

variable {t : Text}

theorem IsTrimmed.trim_eq (h : t.IsTrimmed) : t.trim = t := by
  rw [trim, trimStart_eq_self_of_head h.1, trimEnd_eq, List.rdropWhile_eq_self_iff]
  intro hne
  have hlast := h.2 _ (List.getLast?_eq_some_getLast hne)
  simp [hlast]

/-- A character gives way to some others, and to no white space unless it is white space. -/
theorem exists_lowerAfter_cons (before : Text) (c : Char) (cs : Text) :
    ∃ small, lowerAfter before (c :: cs) = small ++ lowerAfter (c :: before) cs ∧ small ≠ [] ∧
      (isBlank c = false → ∀ d ∈ small, isBlank d = false) := by
  refine ⟨if c = 'Σ' then [lowerSigma before cs] else toLower c, rfl, ?_, fun hc => ?_⟩
  · split
    · simp
    · exact toLower_ne_nil c
  · split
    · rw [lowerSigma]
      split <;> simp <;> decide
    · exact fun d hd => isBlank_eq_false_of_mem_toLower hc hd

theorem isBlank_head?_lowerAfter (before : Text) (h : ∀ c ∈ t.head?, isBlank c = false) :
    ∀ d ∈ (lowerAfter before t).head?, isBlank d = false := by
  cases t with
  | nil => simp [lowerAfter]
  | cons c cs =>
    obtain ⟨small, heq, hne, hsmall⟩ := exists_lowerAfter_cons before c cs
    obtain ⟨e, es, rfl⟩ := List.exists_cons_of_ne_nil hne
    have he := hsmall (h c rfl) e List.mem_cons_self
    simpa [heq] using he

theorem isBlank_getLast?_lowerAfter (before : Text) (h : ∀ c ∈ t.getLast?, isBlank c = false) :
    ∀ d ∈ (lowerAfter before t).getLast?, isBlank d = false := by
  induction t generalizing before with
  | nil => simp [lowerAfter]
  | cons c cs ih =>
    obtain ⟨small, heq, -, hsmall⟩ := exists_lowerAfter_cons before c cs
    intro d hd
    cases cs with
    | nil =>
      rw [heq, lowerAfter, List.append_nil] at hd
      exact hsmall (h c rfl) d (List.mem_of_mem_getLast? hd)
    | cons c' cs =>
      -- the last character comes from the characters behind the first
      obtain ⟨small', heq', hne', -⟩ := exists_lowerAfter_cons (c :: before) c' cs
      have hne : lowerAfter (c :: before) (c' :: cs) ≠ [] := by simp [heq', hne']
      rw [heq, List.getLast?_append_of_ne_nil _ hne] at hd
      exact ih (c :: before) (by simpa using h) d hd

/-- What is kept as a replacement is kept as it is when it is put in again. -/
theorem trim_lower_trim_lower (t : Text) : t.trim.lower.trim.lower = t.trim.lower := by
  have htrimmed : t.trim.lower.IsTrimmed :=
    ⟨isBlank_head?_lowerAfter [] t.isTrimmed_trim.1,
      isBlank_getLast?_lowerAfter [] t.isTrimmed_trim.2⟩
  rw [htrimmed.trim_eq, lower_lower]

/-! ## Phrases -/

/-- A phrase as it is kept: words in lower case, made of letters, digits and apostrophes, with
single spaces between them. -/
structure IsPhrase (k : Text) : Prop where
  spaced : unwords k.words = k
  worded : k.words ≠ []
  word : ∀ w ∈ k.words, w ≠ [] ∧ w.lower = w ∧ ∀ c ∈ w, isWordChar c = true

end Text

namespace Phrasebook

variable {b b' : Phrasebook} {k v phrase replacement : Text}

/-- What is kept for a phrase that is put in. -/
theorem isPhrase_unwords_phraseWords (hok : b.insert phrase replacement = .ok b') :
    (Text.unwords (phraseWords phrase)).IsPhrase := by
  obtain ⟨hsome, hchars⟩ := exists_insert_eq_ok_iff.mp ⟨b', hok⟩
  have hwords := words_unwords_phraseWords phrase
  refine ⟨by rw [hwords], by rw [hwords]; exact phraseWords_ne_nil hsome, ?_⟩
  rw [hwords]
  intro w hw
  have hall : w.all isWordChar = true :=
    List.all_eq_true.mp (all_phraseWords_iff.mpr hchars) w hw
  obtain ⟨u, hu, rfl⟩ := List.mem_map.mp hw
  exact ⟨Text.lower_ne_nil (Text.ne_nil_of_mem_words hu), Text.lower_lower u,
    List.all_eq_true.mp hall⟩

/-- A phrase that is put in as it is kept is kept as it is. -/
theorem insert_of_isPhrase (hk : k.IsPhrase) (hv : v.trim.lower = v) (b : Phrasebook) :
    b.insert k v = .ok ⟨b.entries.insert k v, max b.longest k.words.length⟩ := by
  have hwords : phraseWords k = k.words := by
    have hself : ∀ w ∈ k.words, w.lower = id w := fun w hw => (hk.word w hw).2.1
    rw [phraseWords, List.map_congr_left hself, List.map_id]
  have hall : k.words.all (·.all isWordChar) = true := by
    simp only [List.all_eq_true]
    exact fun w hw => (hk.word w hw).2.2
  simp only [insert, hwords, hk.worded, hall, hk.spaced, hv, if_true, if_false]

/-! ## Phrasebooks in order -/

/-- The number of words in the longest phrase, none if there is no phrase. -/
def mostWords (d : Dict Text) : Nat :=
  (d.keys.map fun k => k.words.length).foldr max 0

/-- How the phrases, the replacements and the bound are kept. -/
structure InOrder (b : Phrasebook) : Prop where
  phrase : ∀ e ∈ b.entries.entries, e.1.IsPhrase
  replacement : ∀ e ∈ b.entries.entries, e.2.trim.lower = e.2
  longest_eq : b.longest = mostWords b.entries

/-- One more phrase may be the longest; if it stood there, nothing changes. -/
theorem mostWords_insert (d : Dict Text) (k v : Text) :
    mostWords (d.insert k v) = max (mostWords d) k.words.length := by
  have hentries (es : List (Text × Text)) :
      (((Dict.insertEntry k v es).map Prod.fst).map fun k => k.words.length).foldr max 0 =
        max (((es.map Prod.fst).map fun k => k.words.length).foldr max 0) k.words.length := by
    induction es with
    | nil => simp [Dict.insertEntry]
    | cons e es ih =>
      obtain ⟨j, w⟩ := e
      rw [Dict.insertEntry]
      split
      · simp [Nat.max_comm]
      · split
        · rename_i heq
          subst heq
          simp only [List.map_cons, List.foldr_cons]
          omega
        · simp only [List.map_cons, List.foldr_cons] at ih ⊢
          omega
  exact hentries d.entries

theorem InOrder.empty : InOrder ∅ :=
  ⟨fun _ h => (nomatch h), fun _ h => (nomatch h), rfl⟩

/-- One more phrase is kept like the others. -/
theorem InOrder.insert (h : b.InOrder) (hok : b.insert phrase replacement = .ok b') :
    b'.InOrder := by
  obtain ⟨hentries, hlongest⟩ := insert_eq_ok hok
  have hmem : ∀ e ∈ b'.entries.entries,
      e = (Text.unwords (phraseWords phrase), replacement.trim.lower) ∨
        e ∈ b.entries.entries := by
    intro e he
    rw [hentries] at he
    exact Dict.mem_insertEntry he
  constructor
  · intro e he
    rcases hmem e he with rfl | he
    · exact isPhrase_unwords_phraseWords hok
    · exact h.phrase e he
  · intro e he
    rcases hmem e he with rfl | he
    · exact Text.trim_lower_trim_lower replacement
    · exact h.replacement e he
  · rw [hlongest, hentries, mostWords_insert, words_unwords_phraseWords, h.longest_eq]

theorem InOrder.tryInsert (h : b.InOrder) (phrase replacement : Text) :
    (b.tryInsert phrase replacement).InOrder := by
  rw [Phrasebook.tryInsert]
  split
  · rename_i hok
    exact h.insert hok
  · exact h

/-- **Whatever is put in, everything is in order.** -/
theorem inOrder_afterInserts (pairs : List (Text × Text)) : (afterInserts pairs).InOrder :=
  List.foldlRecOn pairs _ InOrder.empty fun _ h p _ => h.tryInsert p.1 p.2

/-! ## Reading again -/

/-- Phrases and replacements that are kept are put in again as they are. -/
theorem exists_insertAll_eq_ok {es : List (Text × Text)}
    (hes : ∀ e ∈ es, e.1.IsPhrase ∧ e.2.trim.lower = e.2) (b : Phrasebook) :
    ∃ b', b.insertAll es = .ok b' ∧
      b'.entries = es.foldl (fun d e => d.insert e.1 e.2) b.entries := by
  induction es generalizing b with
  | nil => exact ⟨b, rfl, rfl⟩
  | cons e es ih =>
    obtain ⟨⟨hk, hv⟩, hes⟩ := List.forall_mem_cons.mp hes
    have hfirst := insert_of_isPhrase hk hv b
    obtain ⟨b', hok, hentries⟩ := ih hes ⟨b.entries.insert e.1 e.2, max b.longest e.1.words.length⟩
    refine ⟨b', ?_, hentries⟩
    rw [insertAll, List.foldlM_cons, hfirst]
    exact hok

/-- A phrasebook in order is made of its entries. -/
theorem InOrder.ofList_entries (h : b.InOrder) : ofList b.entries.entries = .ok b := by
  obtain ⟨b', hok, hentries⟩ :=
    exists_insertAll_eq_ok (fun e he => ⟨h.phrase e he, h.replacement e he⟩) ∅
  have hsame : b'.entries = b.entries := by
    rw [hentries]
    exact Dict.ofList_entries b.entries
  have horder : b'.InOrder := by
    rw [← afterInserts_eq_of_ofList hok]
    exact inOrder_afterInserts _
  have hlongest : b'.longest = b.longest := by
    rw [horder.longest_eq, h.longest_eq, hsame]
  rw [ofList, hok, Phrasebook.ext hsame hlongest]

/-- The document of a phrasebook has its entries. -/
theorem asTextPairs?_toJson (b : Phrasebook) : b.toJson.asTextPairs? = some b.entries.entries := by
  rw [toJson, Json.asTextPairs?]
  induction b.entries.entries with
  | nil => rfl
  | cons e es ih =>
    rw [List.map_cons, List.mapM_cons, ih]
    rfl

/-- **A phrasebook in order is read again from what is written for it.** -/
theorem InOrder.ofJson?_toJson (h : b.InOrder) : ofJson? b.toJson = some b := by
  rw [ofJson?, asTextPairs?_toJson]
  show (ofList (Dict.ofList b.entries.entries).entries).toOption = some b
  rw [Dict.ofList_entries, h.ofList_entries]
  rfl

/-- A phrase that is refused might as well not have been put in. -/
theorem afterInserts_of_error {pairs : List (Text × Text)} {e : PhraseError}
    (h : (afterInserts pairs).insert phrase replacement = .error e) (rest : List (Text × Text)) :
    afterInserts (pairs ++ (phrase, replacement) :: rest) = afterInserts (pairs ++ rest) := by
  have hstays : (afterInserts pairs).tryInsert phrase replacement = afterInserts pairs := by
    rw [tryInsert, h]
  rw [afterInserts, List.foldl_append, List.foldl_cons, afterInserts, List.foldl_append]
  exact congrArg (rest.foldl _) hstays

/-- **Phrasebooks survive being written and read.** After any phrases were put in, some of which may
have been refused, every phrase is kept as words in lower case with single spaces between them, and
the bound on look-ups is the number of words in the longest phrase; a phrase that is refused changes
nothing, now or later; and the phrasebook is the one that is made of its entries in their order, and
the one that is read from the document that is written for it. -/
theorem afterInserts_survives (pairs : List (Text × Text)) :
    let b := afterInserts pairs
    (∀ k ∈ b.entries.keys, k.IsPhrase) ∧ b.longest = mostWords b.entries ∧
      (∀ phrase replacement e, b.insert phrase replacement = .error e → ∀ rest,
        afterInserts (pairs ++ (phrase, replacement) :: rest) = afterInserts (pairs ++ rest)) ∧
      ofList b.entries.entries = .ok b ∧ ofJson? b.toJson = some b := by
  intro b
  have horder : b.InOrder := inOrder_afterInserts pairs
  refine ⟨fun k hk => ?_, horder.longest_eq, ?_, horder.ofList_entries, horder.ofJson?_toJson⟩
  · obtain ⟨e, he, rfl⟩ := List.mem_map.mp hk
    exact horder.phrase e he
  · intro phrase replacement e herror rest
    exact afterInserts_of_error herror rest

/-- Two phrases that are one and the same in lower case, and one that is refused. -/
def rewordings : List (Text × Text) :=
  [(" With\tYOU ".toList, "with me".toList), ("a-b".toList, "c".toList),
    ("with you".toList, " With ΜΑΣ!".toList), ("I".toList, "you".toList)]

/-- The later of the two counts, both leave a phrase of two words, and nothing is left of the one
that is refused. -/
theorem afterInserts_survives_rewordings :
    (afterInserts rewordings).entries.entries =
        [("i".toList, "you".toList), ("with you".toList, "with μας!".toList)] ∧
      (afterInserts rewordings).longest = 2 ∧
      ofJson? (afterInserts rewordings).toJson = some (afterInserts rewordings) ∧
      afterInserts (rewordings ++ [(" ".toList, "c".toList), ("me".toList, "you".toList)]) =
        afterInserts (rewordings ++ [("me".toList, "you".toList)]) := by
  obtain ⟨-, -, hrefused, -, hread⟩ := afterInserts_survives rewordings
  have hblank : (afterInserts rewordings).insert " ".toList "c".toList = .error .noWord :=
    insert_eq_noWord_iff.mpr (by decide)
  exact ⟨by decide +kernel, by decide +kernel, hread, hrefused _ _ _ hblank _⟩

end Phrasebook

end Colloquy
