import Colloquy.Document.Pattern
import Colloquy.Proofs.Text.Words
import Colloquy.Proofs.Unicode.Capitals
import Mathlib.Data.List.Forall2

/-!
# Patterns that are written and read again

A word of a pattern is looked at before it is put in upper case, and in upper case it is written.
The two agree on which slot they stand for, but not always on whether they stand for one at all: the
capitals of some letters have marks that are no letters, and a word with such a mark is not read.

* `Slot.isLegible` — whether a slot can be read in what is written for it.
* `Slot.ofWord?_text` — what is written for a slot writes this slot, or none.
* `Pattern.read_text` — what becomes of a pattern that is written and read again.
* `Pattern.read_text_eq_ok_iff` — the patterns that are read again as they were.
-/

namespace Colloquy

open Unicode

namespace Slot

variable {w : Text} {s : Slot}

/-- Whether a slot can be read in what is written for it: its word has nothing but letters and
digits in it. -/
def isLegible : Slot → Bool
  | .word form => form.all isAlphanumeric
  | .botName | .oneOrMore | .zeroOrMore => true

/-- A word of letters and digits stands for itself, and no other word does. -/
theorem ofWord?_cases (h : ofWord? w = some s) :
    (w.all isAlphanumeric = true ∧ s = .word w.upper) ∨
      (w.all isAlphanumeric = false ∧ (s = .botName ∨ s = .oneOrMore ∨ s = .zeroOrMore)) := by
  unfold ofWord? at h
  split at h
  · rename_i hw
    refine .inr ⟨?_, .inr (.inl (Option.some.inj h).symm)⟩
    rcases hw with rfl | rfl <;> decide +kernel
  · split at h
    · rename_i hw
      refine .inr ⟨?_, .inr (.inr (Option.some.inj h).symm)⟩
      rcases hw with rfl | rfl <;> decide +kernel
    · split at h
      · rename_i hw
        refine .inr ⟨?_, .inl (Option.some.inj h).symm⟩
        rw [hw]
        decide +kernel
      · split at h
        · rename_i hw
          exact .inl ⟨hw, (Option.some.inj h).symm⟩
        · cases h

/-- A word without signs stands for itself if it stands for anything. -/
theorem ofWord?_of_not_reserved (h : ∀ c ∈ w, c.toNat ∉ reservedPoints) :
    ofWord? w = if w.all isAlphanumeric then some (.word w.upper) else none := by
  have hsign : ∀ c : Char, c.toNat ∈ reservedPoints → ∀ v : Text, c ∈ v → w ≠ v := by
    rintro c hc v hv rfl
    exact h c hv hc
  have hstar := hsign '*' (by decide) ['*'] (by decide)
  have hline := hsign '_' (by decide)
  have hcaret := hsign '^' (by decide) ['^'] (by decide)
  have hhash := hsign '#' (by decide) ['#'] (by decide)
  simp only [ofWord?, hstar, hline ['_'] (by decide), hcaret, hhash,
    hline botNameText (by decide), or_self, if_false]

theorem not_reserved_of_mem_upper (h : w.all isAlphanumeric = true) :
    ∀ c ∈ w.upper, c.toNat ∉ reservedPoints := by
  intro d hd
  obtain ⟨c, hc, hd⟩ := List.mem_flatMap.mp hd
  exact not_reserved_of_mem_toUpper (List.all_eq_true.mp h c hc) hd

/-- What is written for a slot is a word. -/
theorem text_ne_nil (h : ofWord? w = some s) (hw : w ≠ []) : s.text ≠ [] := by
  obtain ⟨-, rfl⟩ | ⟨-, rfl | rfl | rfl⟩ := ofWord?_cases h
  · exact Text.upper_ne_nil hw
  · decide
  · decide
  · decide

theorem isBlank_of_mem_text (h : ofWord? w = some s) : ∀ c ∈ s.text, isBlank c = false := by
  have hsigns : ∀ t ∈ [botNameText, ['*'], ['^']], (t.all fun c => !isBlank c) = true := by
    decide +kernel
  have hsign : ∀ t ∈ [botNameText, ['*'], ['^']], ∀ c ∈ t, isBlank c = false := by
    simpa only [List.all_eq_true, Bool.not_eq_true'] using hsigns
  obtain ⟨hall, rfl⟩ | ⟨-, rfl | rfl | rfl⟩ := ofWord?_cases h
  · exact fun c hc => isBlank_eq_false_of_not_reserved (not_reserved_of_mem_upper hall c hc)
  · exact hsign botNameText (by simp)
  · exact hsign ['*'] (by simp)
  · exact hsign ['^'] (by simp)

/-- **What is written for a slot writes this slot, or none.** -/
theorem ofWord?_text (h : ofWord? w = some s) :
    ofWord? s.text = if s.isLegible then some s else none := by
  obtain ⟨hall, rfl⟩ | ⟨-, rfl | rfl | rfl⟩ := ofWord?_cases h
  · rw [text, isLegible, ofWord?_of_not_reserved (not_reserved_of_mem_upper hall),
      Text.upper_upper]
  · rfl
  · rfl
  · rfl

theorem isLegible_iff (h : ofWord? w = some s) :
    s.isLegible = true ↔ (w.all isAlphanumeric = true → ∀ c ∈ w, c.toNat ∉ markedPoints) := by
  obtain ⟨hall, rfl⟩ | ⟨hall, rfl | rfl | rfl⟩ := ofWord?_cases h
  · rw [isLegible, Text.all_upper_iff hall]
    simp [hall]
  · simp [isLegible, hall]
  · simp [isLegible, hall]
  · simp [isLegible, hall]

end Slot

namespace Pattern

variable {t : Text} {p : Pattern}

/-- The slots that some words of a text write. -/
def readWords (t : Text) (ws : List Text) : Except Unreadable Pattern :=
  ws.mapM fun w =>
    match Slot.ofWord? w with
    | some s => .ok s
    | none => .error ⟨t, w⟩

theorem read_eq (t : Text) : read t = readWords t t.words := rfl

theorem readWords_cons_of_none {w : Text} (h : Slot.ofWord? w = none) (t : Text) (ws : List Text) :
    readWords t (w :: ws) = .error ⟨t, w⟩ := by
  simp [readWords, h, bind, Except.bind]

theorem readWords_cons_of_some {w : Text} {s : Slot} (h : Slot.ofWord? w = some s) (t : Text)
    (ws : List Text) : readWords t (w :: ws) = (readWords t ws).map (s :: ·) := by
  simp only [readWords, List.mapM_cons, h, bind, Except.bind]
  split <;> rename_i hws <;> rw [hws] <;> rfl

/-- Each word of a text that is read writes a slot. -/
theorem forall₂_of_readWords {ws : List Text} (h : readWords t ws = .ok p) :
    List.Forall₂ (fun w s => Slot.ofWord? w = some s) ws p := by
  induction ws generalizing p with
  | nil =>
    obtain rfl : [] = p := Except.ok.inj h
    exact .nil
  | cons w ws ih =>
    cases hw : Slot.ofWord? w with
    | none =>
      rw [readWords_cons_of_none hw] at h
      cases h
    | some s =>
      rw [readWords_cons_of_some hw] at h
      cases hrest : readWords t ws with
      | error e =>
        rw [hrest] at h
        cases h
      | ok q =>
        rw [hrest] at h
        obtain rfl : s :: q = p := Except.ok.inj h
        exact .cons hw (ih hrest)

/-- Slots are read one after the other, up to the first that is not legible. -/
theorem readWords_map_text (t : Text) {p : Pattern}
    (h : ∀ s ∈ p, ∃ w, Slot.ofWord? w = some s) :
    readWords t (p.map Slot.text) =
      match p.find? (!·.isLegible) with
      | none => .ok p
      | some s => .error ⟨t, s.text⟩ := by
  induction p with
  | nil => rfl
  | cons s p ih =>
    obtain ⟨⟨w, hw⟩, hp⟩ := List.forall_mem_cons.mp h
    have hs := Slot.ofWord?_text hw
    rw [List.map_cons]
    cases hlegible : s.isLegible with
    | false =>
      rw [hlegible] at hs
      rw [readWords_cons_of_none hs, List.find?_cons_of_pos (by simp [hlegible])]
    | true =>
      rw [hlegible] at hs
      rw [readWords_cons_of_some hs, List.find?_cons_of_neg (by simp [hlegible]), ih hp]
      split <;> rfl

/-- A slot of a pattern that was read is written by a word of the text. -/
theorem exists_mem_words (h : read t = .ok p) {s : Slot} (hs : s ∈ p) :
    ∃ w ∈ t.words, Slot.ofWord? w = some s := by
  have hslots := forall₂_of_readWords h
  obtain ⟨i, hi, rfl⟩ := List.getElem_of_mem hs
  have hi' : i < t.words.length := hslots.length_eq ▸ hi
  exact ⟨t.words[i], List.getElem_mem hi', hslots.get hi' hi⟩

/-- **What becomes of a pattern that is written and read again.** It is the same pattern, unless one
of its words is not legible; then the first such word is reported. -/
theorem read_text (h : read t = .ok p) :
    read p.text =
      match p.find? (!·.isLegible) with
      | none => .ok p
      | some s => .error ⟨p.text, s.text⟩ := by
  have hwritten : ∀ s ∈ p, ∃ w, Slot.ofWord? w = some s := by
    intro s hs
    obtain ⟨w, -, hwrites⟩ := exists_mem_words h hs
    exact ⟨w, hwrites⟩
  have hwords : p.text.words = p.map Slot.text := by
    refine Text.words_unwords (fun v hv => ?_) (fun v hv => ?_)
    · obtain ⟨s, hs, rfl⟩ := List.mem_map.mp hv
      obtain ⟨w, hw, hwrites⟩ := exists_mem_words h hs
      exact Slot.text_ne_nil hwrites (Text.ne_nil_of_mem_words hw)
    · obtain ⟨s, hs, rfl⟩ := List.mem_map.mp hv
      obtain ⟨w, -, hwrites⟩ := exists_mem_words h hs
      exact Slot.isBlank_of_mem_text hwrites
  rw [read_eq, hwords, readWords_map_text p.text hwritten]

/-- The words of a pattern that was read are legible unless a word of the text that stands for
itself has a marked letter. -/
theorem forall_isLegible_iff (h : read t = .ok p) :
    (∀ s ∈ p, s.isLegible = true) ↔
      ∀ w ∈ t.words, w.all isAlphanumeric = true → ∀ c ∈ w, c.toNat ∉ markedPoints := by
  have hslots := forall₂_of_readWords h
  constructor
  · intro hlegible w hw
    obtain ⟨i, hi, rfl⟩ := List.getElem_of_mem hw
    have hi' : i < p.length := hslots.length_eq ▸ hi
    exact (Slot.isLegible_iff (hslots.get hi hi')).mp (hlegible _ (List.getElem_mem hi'))
  · intro hwords s hs
    obtain ⟨w, hw, hwrites⟩ := exists_mem_words h hs
    exact (Slot.isLegible_iff hwrites).mpr (hwords w hw)

/-- **The patterns that are read again as they were.** A pattern that was read is read again from
what is written for it, in a text or in a document, unless a word that stands for itself has one of
the letters with a marked capital. Then a word of the pattern has a mark that is no letter or digit,
and what is written is refused with this word. -/
theorem read_text_eq_ok_iff (h : read t = .ok p) :
    (read p.text = .ok p ↔
        ∀ w ∈ t.words, w.all isAlphanumeric = true → ∀ c ∈ w, c.toNat ∉ markedPoints) ∧
      (ofJson? p.toJson = some p ↔
        ∀ w ∈ t.words, w.all isAlphanumeric = true → ∀ c ∈ w, c.toNat ∉ markedPoints) ∧
      (read p.text ≠ .ok p → ∃ form, .word form ∈ p ∧ form.all isAlphanumeric = false ∧
        read p.text = .error ⟨p.text, form⟩ ∧ ofJson? p.toJson = none) := by
  have hjson : ofJson? p.toJson = (read p.text).toOption := rfl
  rw [hjson, ← forall_isLegible_iff h, read_text h]
  cases hfind : p.find? (!·.isLegible) with
  | none =>
    have hlegible : ∀ s ∈ p, s.isLegible = true := by simpa using hfind
    simpa [Except.toOption] using hlegible
  | some s =>
    have hs : s ∈ p := List.mem_of_find?_eq_some hfind
    have hnot : s.isLegible = false := by simpa using List.find?_some hfind
    have hsome : ¬ ∀ s ∈ p, s.isLegible = true := fun hall => by simp [hall s hs] at hnot
    refine ⟨by simp [hsome], by simp [hsome, Except.toOption], fun _ => ?_⟩
    cases s with
    | word form => exact ⟨form, hs, hnot, rfl, rfl⟩
    | botName => cases hnot
    | oneOrMore => cases hnot
    | zeroOrMore => cases hnot

/-- The pattern of what is liked. -/
def liking : Pattern := [.word ['I'], .word ['L', 'I', 'K', 'E'], .oneOrMore]

/-- `i like *` is read again as it was. -/
theorem read_text_liking :
    read "i like *".toList = .ok liking ∧ read liking.text = .ok liking := by
  have hread : read "i like *".toList = .ok liking := by decide +kernel
  have hplain : ((Text.words "i like *".toList).all fun w =>
      w.all fun c => !markedPoints.contains c.toNat) = true := by decide +kernel
  refine ⟨hread, (read_text_eq_ok_iff hread).1.mpr fun w hw _ c hc => ?_⟩
  simpa using List.all_eq_true.mp (List.all_eq_true.mp hplain w hw) c hc

/-- The capital of `ǰ` has a mark, and `ǰ` is not read again. -/
theorem read_text_markedJ :
    read [Char.ofNat 0x1F0] = .ok [.word ['J', Char.ofNat 0x30C]] ∧
      read (text [.word ['J', Char.ofNat 0x30C]]) =
        .error ⟨['J', Char.ofNat 0x30C], ['J', Char.ofNat 0x30C]⟩ := by
  decide +kernel

end Pattern

end Colloquy
