import Colloquy.Text.Basic

/-!
# Words that are written out

What stands between two signs of a class is told from what is written around it, so words that are
written with single spaces between them are the words of what is written.

* `Text.splitWhere_append_cons` — a part is cut off at the first sign of the class.
* `Text.words_unwords`, `Text.words_unwords_words` — words that are written out are read again.
* `Text.IsCutting.flatMap_eq`, `Text.flatMap_pieces` — what comes apart where a text is cut is told
  of its parts.
* `Text.unwords_splitWhere_space` — a text is put together again from its parts.
* `Text.apply_between_blanks` — white space at the ends is left out of what does not depend on it.
* `Text.flatten_words`, `Text.words_eq_nil_iff` — all that is no white space is in a word.
-/

namespace Colloquy

open Unicode

namespace Text

/-- A text without signs of the class is one part. -/
theorem splitWhere_eq_singleton {p : Char → Bool} {t : Text} (h : ∀ c ∈ t, p c = false) :
    t.splitWhere p = [t] := by
  induction t with
  | nil => rfl
  | cons c cs ih =>
    obtain ⟨hc, hcs⟩ := List.forall_mem_cons.mp h
    rw [splitWhere_cons, hc, ih hcs]
    rfl

/-- At a sign of the class the parts before it end and those after it begin. -/
theorem splitWhere_append_sign {p : Char → Bool} {d : Char} (hd : p d = true) (s t : Text) :
    (s ++ d :: t).splitWhere p = s.splitWhere p ++ t.splitWhere p := by
  induction s with
  | nil => rw [List.nil_append, splitWhere_cons, if_pos hd]; rfl
  | cons c cs ih =>
    rw [List.cons_append, splitWhere_cons, splitWhere_cons, ih]
    obtain ⟨first, rest, hparts⟩ := List.exists_cons_of_ne_nil (splitWhere_ne_nil p cs)
    rw [hparts]
    split <;> rfl

/-- A part ends at the first sign of the class. -/
theorem splitWhere_append_cons {p : Char → Bool} {s : Text} (hs : ∀ c ∈ s, p c = false) {d : Char}
    (hd : p d = true) (t : Text) : (s ++ d :: t).splitWhere p = s :: t.splitWhere p := by
  rw [splitWhere_append_sign hd, splitWhere_eq_singleton hs]
  rfl

theorem pieces_append_sign {p : Char → Bool} {d : Char} (hd : p d = true) (s t : Text) :
    (s ++ d :: t).pieces p = s.pieces p ++ t.pieces p := by
  rw [pieces, splitWhere_append_sign hd, List.filter_append]
  rfl

/-- A part has no sign of the class. -/
theorem not_of_mem_splitWhere {p : Char → Bool} {t part : Text} (h : part ∈ t.splitWhere p) :
    ∀ c ∈ part, p c = false := by
  induction t generalizing part with
  | nil =>
    obtain rfl := List.mem_singleton.mp h
    simp
  | cons c cs ih =>
    rw [splitWhere_cons] at h
    split at h
    · rcases List.mem_cons.mp h with rfl | h
      · simp
      · exact ih h
    · rename_i hc
      obtain ⟨first, rest, hparts⟩ := List.exists_cons_of_ne_nil (splitWhere_ne_nil p cs)
      rw [hparts, consHead] at h
      rw [hparts] at ih
      rcases List.mem_cons.mp h with rfl | h
      · exact List.forall_mem_cons.mpr ⟨by simpa using hc, ih List.mem_cons_self⟩
      · exact ih (List.mem_cons_of_mem _ h)

theorem isBlank_of_mem_words {t w : Text} (h : w ∈ t.words) : ∀ c ∈ w, isBlank c = false :=
  not_of_mem_splitWhere (List.mem_filter.mp h).1

theorem unwords_cons_cons (w w' : Text) (ws : List Text) :
    unwords (w :: w' :: ws) = w ++ ' ' :: unwords (w' :: ws) := by
  simp [unwords, List.intercalate]

/-- The words after the first stand behind a space each. -/
theorem unwords_cons (w : Text) (ws : List Text) :
    unwords (w :: ws) = w ++ ws.flatMap (' ' :: ·) := by
  induction ws generalizing w with
  | nil => simp [unwords]
  | cons w' ws ih =>
    rw [unwords_cons_cons, ih, List.flatMap_cons]
    rfl

/-- **Words that are written out are read again.** -/
theorem words_unwords {ws : List Text} (hne : ∀ w ∈ ws, w ≠ [])
    (hblank : ∀ w ∈ ws, ∀ c ∈ w, isBlank c = false) : (unwords ws).words = ws := by
  induction ws with
  | nil => rfl
  | cons w ws ih =>
    obtain ⟨hw, hws⟩ := List.forall_mem_cons.mp hne
    obtain ⟨hwb, hwsb⟩ := List.forall_mem_cons.mp hblank
    cases ws with
    | nil =>
      have hparts : (unwords [w]).splitWhere isBlank = [w] := by
        simpa [unwords] using splitWhere_eq_singleton hwb
      simp [words, pieces, hparts, hw]
    | cons w' ws =>
      have hrest := ih hws hwsb
      rw [words, pieces, unwords_cons_cons, splitWhere_append_cons hwb rfl,
        List.filter_cons_of_pos (by simpa using hw)]
      exact congrArg (w :: ·) hrest

/-- Writing out the words of a text drops its white space and keeps its words. -/
theorem words_unwords_words (t : Text) : (unwords t.words).words = t.words := by
  refine words_unwords (fun w hw => ?_) (fun w hw => ?_)
  · exact ne_nil_of_mem_words hw
  · exact isBlank_of_mem_words hw

/-! ## What is told part by part -/

/-- What gives nothing may be left out. -/
theorem flatMap_filter {α β : Type} {q : α → Bool} {f : α → List β} {xs : List α}
    (h : ∀ x ∈ xs, q x = false → f x = []) : (xs.filter q).flatMap f = xs.flatMap f := by
  induction xs with
  | nil => rfl
  | cons x xs ih =>
    obtain ⟨hx, hxs⟩ := List.forall_mem_cons.mp h
    rw [List.filter_cons, List.flatMap_cons, ← ih hxs]
    split
    · rfl
    · rename_i hq
      rw [hx (by simpa using hq)]
      rfl

section
variable {β : Type} {f : Text → List β}

/-- A way to cut texts from their ends: a character ends a part of which `last` is kept, or it is
put in front of the first part. -/
structure IsCutting (cut : Text → List Text) (ends : Char → Text → Bool) (last : Char → Text) :
    Prop where
  nil : cut [] = [[]]
  cons : ∀ c t, cut (c :: t) = if ends c t then last c :: cut t else consHead c (cut t)

namespace IsCutting

variable {cut : Text → List Text} {ends : Char → Text → Bool} {last : Char → Text}

theorem ne_nil (h : IsCutting cut ends last) (t : Text) : cut t ≠ [] := by
  cases t with
  | nil => simp [h.nil]
  | cons c t =>
    rw [h.cons]
    split
    · simp
    · exact consHead_ne_nil c _

/-- The parts of a text that stands behind another: the first of them goes on from it. -/
theorem append_eq (h : IsCutting cut ends last)
    (hf : ∀ s c t, ends c t = true → f (s ++ c :: t) = f (s ++ last c) ++ f t) (s : Text)
    {t first : Text} {rest : List Text} (ht : cut t = first :: rest) :
    f (s ++ t) = f (s ++ first) ++ rest.flatMap f := by
  induction t generalizing s first rest with
  | nil =>
    rw [h.nil] at ht
    obtain ⟨rfl, rfl⟩ := List.cons.inj ht
    simp
  | cons c t ih =>
    obtain ⟨next, others, hparts⟩ := List.exists_cons_of_ne_nil (h.ne_nil t)
    rw [h.cons, hparts] at ht
    split at ht
    · rename_i hends
      obtain ⟨rfl, rfl⟩ := List.cons.inj ht
      have hrest := ih [] hparts
      rw [List.nil_append, List.nil_append] at hrest
      rw [hf s c t hends, hrest, List.flatMap_cons]
    · obtain ⟨rfl, rfl⟩ := List.cons.inj ht
      simpa using ih (s ++ [c]) hparts

/-- **What comes apart where a text is cut is told of its parts.** -/
theorem flatMap_eq (h : IsCutting cut ends last)
    (hf : ∀ s c t, ends c t = true → f (s ++ c :: t) = f (s ++ last c) ++ f t) (t : Text) :
    (cut t).flatMap f = f t := by
  obtain ⟨first, rest, hparts⟩ := List.exists_cons_of_ne_nil (h.ne_nil t)
  rw [hparts, List.flatMap_cons]
  simpa using (h.append_eq hf [] hparts).symm

end IsCutting

theorem isCutting_splitWhere (p : Char → Bool) :
    IsCutting (splitWhere p) (fun c _ => p c) fun _ => [] :=
  ⟨splitWhere_nil p, splitWhere_cons p⟩

/-- What comes apart at the signs of a class is told of the pieces between them. -/
theorem flatMap_pieces {p : Char → Bool}
    (hf : ∀ s d t, p d = true → f (s ++ d :: t) = f s ++ f t) (hnil : f [] = []) (t : Text) :
    (t.pieces p).flatMap f = f t := by
  have hwhole : (t.splitWhere p).flatMap f = f t := by
    refine (isCutting_splitWhere p).flatMap_eq (fun s d t hd => ?_) t
    rw [List.append_nil, hf s d t hd]
  rw [← hwhole, pieces]
  refine flatMap_filter fun part _ hempty => ?_
  rw [show part = [] by simpa using hempty, hnil]

end

/-! ## The characters of the parts -/

theorem mem_of_mem_splitWhere {p : Char → Bool} {t part : Text} (h : part ∈ t.splitWhere p) :
    ∀ c ∈ part, c ∈ t := by
  intro c hc
  have hwhole : (t.splitWhere p).flatMap (List.filter (!p ·)) = t.filter (!p ·) := by
    refine (isCutting_splitWhere p).flatMap_eq (fun s d t hd => ?_) t
    rw [List.append_nil, List.filter_append, List.filter_cons_of_neg (by simp [hd])]
  have hkept : c ∈ part.filter (!p ·) :=
    List.mem_filter.mpr ⟨hc, by rw [not_of_mem_splitWhere h c hc]; rfl⟩
  have hmem : c ∈ t.filter (!p ·) := by
    rw [← hwhole]
    exact List.mem_flatMap.mpr ⟨part, h, hkept⟩
  exact (List.mem_filter.mp hmem).1

/-- The parts between single spaces, written out, are the text. -/
theorem unwords_splitWhere_space (t : Text) : unwords (t.splitWhere (· = ' ')) = t := by
  induction t with
  | nil => rfl
  | cons c t ih =>
    obtain ⟨first, rest, hparts⟩ := List.exists_cons_of_ne_nil (splitWhere_ne_nil (· = ' ') t)
    rw [hparts] at ih
    rw [splitWhere_cons, hparts]
    split
    · rename_i hc
      obtain rfl : c = ' ' := by simpa using hc
      rw [unwords_cons_cons, ih]
      rfl
    · rw [unwords_cons] at ih
      rw [consHead, unwords_cons, List.cons_append, ih]

/-! ## White space at the ends -/

/-- What does not depend on white space at either end of a text is told of the text between. -/
theorem apply_between_blanks {β : Type} {f : Text → β}
    (hcons : ∀ c t, isBlank c = true → f (c :: t) = f t)
    (hconcat : ∀ c t, isBlank c = true → f (t ++ [c]) = f t) {s e : Text}
    (hs : ∀ c ∈ s, isBlank c = true) (he : ∀ c ∈ e, isBlank c = true) (t : Text) :
    f (s ++ t ++ e) = f t := by
  have hstart (u : Text) : f (s ++ u) = f u := by
    induction s with
    | nil => rfl
    | cons c s ih =>
      obtain ⟨hc, hs⟩ := List.forall_mem_cons.mp hs
      rw [List.cons_append, hcons c _ hc, ih hs]
  have hend (u : Text) : f (u ++ e) = f u := by
    induction e generalizing u with
    | nil => rw [List.append_nil]
    | cons c e ih =>
      obtain ⟨hc, he⟩ := List.forall_mem_cons.mp he
      rw [List.append_cons, ih he, hconcat c u hc]
  rw [hend, hstart]

/-! ## The characters of the words -/

theorem words_append_blank {d : Char} (hd : isBlank d = true) (s t : Text) :
    (s ++ d :: t).words = s.words ++ t.words :=
  pieces_append_sign hd s t

theorem words_cons_blank {d : Char} (hd : isBlank d = true) (t : Text) :
    words (d :: t) = t.words :=
  words_append_blank hd [] t

theorem words_concat_blank {d : Char} (hd : isBlank d = true) (t : Text) :
    words (t ++ [d]) = t.words := by
  rw [words_append_blank hd]
  exact List.append_nil _

/-- White space in front of a text belongs to no word. -/
theorem words_blank_append {s : Text} (hs : ∀ c ∈ s, isBlank c = true) (t : Text) :
    (s ++ t).words = t.words := by
  induction s with
  | nil => rfl
  | cons c s ih =>
    obtain ⟨hc, hs⟩ := List.forall_mem_cons.mp hs
    rw [List.cons_append, words_cons_blank hc, ih hs]

/-- A text without white space is one word. -/
theorem words_eq_singleton {w : Text} (hne : w ≠ []) (hw : ∀ c ∈ w, isBlank c = false) :
    w.words = [w] := by
  rw [words, pieces, splitWhere_eq_singleton hw]
  simp [hne]

/-- A word ends where white space begins. -/
theorem words_append_gap {w g : Text} (hne : w ≠ []) (hw : ∀ c ∈ w, isBlank c = false)
    (hgne : g ≠ []) (hg : ∀ c ∈ g, isBlank c = true) (t : Text) :
    (w ++ (g ++ t)).words = w :: t.words := by
  obtain ⟨d, ds, rfl⟩ := List.exists_cons_of_ne_nil hgne
  obtain ⟨hd, hds⟩ := List.forall_mem_cons.mp hg
  rw [List.cons_append, words_append_blank hd, words_eq_singleton hne hw, words_blank_append hds]
  rfl

/-- The characters of the words of a text are its characters that are no white space. -/
theorem flatten_words (t : Text) : t.words.flatten = t.filter (!isBlank ·) := by
  have hself : ∀ w ∈ t.words, w.filter (!isBlank ·) = w := by
    intro w hw
    refine List.filter_eq_self.mpr fun c hc => ?_
    rw [isBlank_of_mem_words hw c hc]
    rfl
  have hwhole : t.words.flatMap (List.filter (!isBlank ·)) = t.filter (!isBlank ·) := by
    refine flatMap_pieces (fun s d t hd => ?_) rfl t
    rw [List.filter_append, List.filter_cons_of_neg (by simp [hd])]
  rw [← hwhole, List.flatMap_def, List.map_congr_left hself, List.map_id']

theorem mem_words_iff {t : Text} {c : Char} :
    (∃ w ∈ t.words, c ∈ w) ↔ c ∈ t ∧ isBlank c = false := by
  rw [← List.mem_flatten, flatten_words, List.mem_filter, Bool.not_eq_true']

/-- A text has no words if there is nothing but white space in it, and only then. -/
theorem words_eq_nil_iff {t : Text} : t.words = [] ↔ t.isBlankText = true := by
  have hflat : t.words = [] ↔ t.words.flatten = [] := by
    constructor
    · intro h
      rw [h]
      rfl
    · intro h
      refine List.eq_nil_iff_forall_not_mem.mpr fun w hw => ?_
      exact ne_nil_of_mem_words hw (List.flatten_eq_nil_iff.mp h w hw)
  rw [hflat, flatten_words, List.filter_eq_nil_iff, isBlankText, List.all_eq_true]
  simp

end Text

end Colloquy
