import Colloquy.Phrasebook.Rewrite
import Colloquy.Proofs.Text.Words
import Colloquy.Proofs.Unicode.Smalls

/-!
# The phrases of a phrasebook

A phrase is kept as words with single spaces, so it can be told from its words, and no phrase has
more words than a look-up reaches. This holds of every phrasebook that is made by putting in
phrases, in whatever order, and whether some of them are refused or not.

* `Phrasebook.Kept` — how phrases are kept.
* `Phrasebook.insert_eq_ok` — what is put in with a phrase.
* `Phrasebook.kept_afterInserts` — they are kept so by all that is put in.
-/

namespace Colloquy

open Unicode

/-- White space is in no word. -/
theorem isBlank_eq_false_of_isWordChar {c : Char} (h : isWordChar c = true) :
    isBlank c = false := by
  rw [isWordChar, Bool.or_eq_true, decide_eq_true_iff] at h
  rcases h with h | rfl
  · exact isBlank_eq_false_of_not_reserved (not_reserved_of_isAlphanumeric h)
  · decide

namespace Phrasebook

variable {b b' : Phrasebook} {phrase replacement : Text}

/-- The words of a phrase are words of what is kept for it. -/
theorem words_unwords_phraseWords (phrase : Text) :
    (Text.unwords (phraseWords phrase)).words = phraseWords phrase := by
  refine Text.words_unwords (fun w hw => ?_) (fun w hw => ?_)
  · obtain ⟨v, hv, rfl⟩ := List.mem_map.mp hw
    exact Text.lower_ne_nil (Text.ne_nil_of_mem_words hv)
  · obtain ⟨v, hv, rfl⟩ := List.mem_map.mp hw
    exact Text.isBlank_eq_false_of_mem_lower (Text.isBlank_of_mem_words hv)

/-- What is put in with a phrase, if it is not refused. -/
theorem insert_eq_ok (h : b.insert phrase replacement = .ok b') :
    b'.entries = b.entries.insert (Text.unwords (phraseWords phrase)) replacement.trim.lower ∧
      b'.longest = max b.longest (phraseWords phrase).length := by
  rw [insert] at h
  split at h
  · cases h
  · split at h
    · cases h
      exact ⟨rfl, rfl⟩
    · cases h

/-- How phrases are kept: with single spaces, and with no more words than a look-up reaches. -/
structure Kept (b : Phrasebook) : Prop where
  spaced : ∀ e ∈ b.entries.entries, Text.unwords e.1.words = e.1
  reached : ∀ e ∈ b.entries.entries, e.1.words.length ≤ b.longest

theorem Kept.empty : Kept ∅ :=
  ⟨fun _ h => (nomatch h), fun _ h => (nomatch h)⟩

/-- One more phrase is kept like the others. -/
theorem Kept.insert (h : b.Kept) (hok : b.insert phrase replacement = .ok b') : b'.Kept := by
  obtain ⟨hentries, hlongest⟩ := insert_eq_ok hok
  have hmem : ∀ e ∈ b'.entries.entries,
      e = (Text.unwords (phraseWords phrase), replacement.trim.lower) ∨
        e ∈ b.entries.entries := by
    intro e he
    rw [hentries] at he
    exact Dict.mem_insertEntry he
  constructor
  · intro e he
    rcases hmem e he with rfl | he
    · rw [words_unwords_phraseWords]
    · exact h.spaced e he
  · intro e he
    rw [hlongest]
    rcases hmem e he with rfl | he
    · rw [words_unwords_phraseWords]
      exact Nat.le_max_right _ _
    · exact Nat.le_trans (h.reached e he) (Nat.le_max_left _ _)

/-- One phrase more, unless it is refused. -/
def tryInsert (b : Phrasebook) (phrase replacement : Text) : Phrasebook :=
  match b.insert phrase replacement with
  | .ok b' => b'
  | .error _ => b

/-- The phrasebook after phrases were put in one after the other. A phrase that is refused leaves
everything as it is. -/
def afterInserts (pairs : List (Text × Text)) : Phrasebook :=
  pairs.foldl (fun b p => b.tryInsert p.1 p.2) ∅

theorem Kept.tryInsert (h : b.Kept) (phrase replacement : Text) :
    (b.tryInsert phrase replacement).Kept := by
  rw [Phrasebook.tryInsert]
  split
  · rename_i hok
    exact h.insert hok
  · exact h

theorem kept_afterInserts (pairs : List (Text × Text)) : (afterInserts pairs).Kept :=
  List.foldlRecOn pairs _ Kept.empty fun _ h p _ => h.tryInsert p.1 p.2

/-- If no phrase is refused, the phrasebook is the one of the phrases. -/
theorem afterInserts_eq_of_ofList {pairs : List (Text × Text)} (h : ofList pairs = .ok b) :
    afterInserts pairs = b := by
  rw [ofList, insertAll] at h
  rw [afterInserts]
  generalize (∅ : Phrasebook) = start at h ⊢
  induction pairs generalizing start with
  | nil =>
    cases h
    rfl
  | cons p pairs ih =>
    rw [List.foldlM_cons] at h
    rw [List.foldl_cons, tryInsert]
    cases hp : start.insert p.1 p.2 with
    | error e =>
      rw [hp] at h
      cases h
    | ok next =>
      rw [hp] at h
      exact ih next h

end Phrasebook

end Colloquy
