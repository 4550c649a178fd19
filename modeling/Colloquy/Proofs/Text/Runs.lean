import Colloquy.Phrasebook.Rewrite
import Mathlib.Data.List.Chain

/-!
# The runs of a text

A text is cut into runs in one way only, if no run is to be empty, the characters of a run are to be
of one kind, and those of its neighbours of the other.

* `Text.IsCutInto` — what it is to cut a text into runs.
* `Text.IsCutInto.map` — runs may be changed one by one.
* `Text.isCutInto_iff` — the runs of a text are the only ones that it is cut into.
* `Run.foldr_cons_append` — a text before some runs changes none of them but the first.
-/

namespace Colloquy

namespace Run

/-! ## A text before some runs -/

theorem cons_ne_nil (c : Char) (rs : List Run) : cons c rs ≠ [] := by
  cases rs with
  | nil => simp [cons]
  | cons r rs =>
    rw [cons]
    split <;> simp

/-- A character joins the first run at most. -/
theorem cons_append {rs : List Run} (hne : rs ≠ []) (c : Char) (ss : List Run) :
    cons c (rs ++ ss) = cons c rs ++ ss := by
  obtain ⟨r, rs, rfl⟩ := List.exists_cons_of_ne_nil hne
  rw [List.cons_append, cons, cons]
  split <;> rfl

/-- A text before some runs changes none of them but the first. -/
theorem foldr_cons_append {rs : List Run} (hne : rs ≠ []) (t : Text) (ss : List Run) :
    t.foldr cons (rs ++ ss) = t.foldr cons rs ++ ss := by
  induction t with
  | nil => rfl
  | cons c t ih =>
    have hsome : t.foldr cons rs ≠ [] := by
      cases t with
      | nil => exact hne
      | cons d t => exact cons_ne_nil d _
    rw [List.foldr_cons, List.foldr_cons, ih, cons_append hsome]

/-- A character before a run of its kind joins it. -/
theorem cons_of_eq {c : Char} {r : Run} (h : r.isWord = isWordChar c) (rs : List Run) :
    cons c (r :: rs) = ⟨c :: r.chars, r.isWord⟩ :: rs := by
  rw [cons, if_pos h]

/-- A character before a run of the other kind is a run of its own. -/
theorem cons_of_ne {c : Char} {rs : List Run} (h : ∀ r ∈ rs.head?, r.isWord ≠ isWordChar c) :
    cons c rs = ⟨[c], isWordChar c⟩ :: rs := by
  cases rs with
  | nil => rfl
  | cons r rs =>
    rw [cons, if_neg (h r rfl)]

/-- The characters of a run, before runs that do not begin with its kind, are the run. -/
theorem foldr_cons_chars {r : Run} {rs : List Run} (hne : r.chars ≠ [])
    (hkind : ∀ c ∈ r.chars, isWordChar c = r.isWord)
    (hnext : ∀ s ∈ rs.head?, r.isWord ≠ s.isWord) : r.chars.foldr cons rs = r :: rs := by
  obtain ⟨chars, isWord⟩ := r
  induction chars with
  | nil => exact absurd rfl hne
  | cons c cs ih =>
    obtain ⟨hc, hcs⟩ := List.forall_mem_cons.mp hkind
    simp only at hc hcs hnext
    subst hc
    by_cases hempty : cs = []
    · subst hempty
      exact cons_of_ne fun s hs => (hnext s hs).symm
    · have hrest : cs.foldr cons rs = ⟨cs, isWordChar c⟩ :: rs := ih hempty hcs hnext
      show cons c (cs.foldr cons rs) = _
      rw [hrest, cons_of_eq rfl]

/-- A run with its characters changed. -/
def recast (f : Text → Text) (r : Run) : Run :=
  ⟨f r.chars, r.isWord⟩

/-- A run that can stand in the place of another. -/
structure StandsFor (s r : Run) : Prop where
  isWord_eq : s.isWord = r.isWord
  chars_ne_nil : s.chars ≠ []
  kind : ∀ c ∈ s.chars, isWordChar c = s.isWord

end Run

/-! ## Cutting a text into runs -/

namespace Text

/-- The runs are the text, and they are as long as they can be: none is empty, the characters of
each are of one kind, and those of its neighbours are of the other. -/
structure IsCutInto (t : Text) (rs : List Run) : Prop where
  join : rs.flatMap Run.chars = t
  chars_ne_nil : ∀ r ∈ rs, r.chars ≠ []
  kind : ∀ r ∈ rs, ∀ c ∈ r.chars, isWordChar c = r.isWord
  alternate : rs.IsChain fun r s => r.isWord ≠ s.isWord

theorem runs_append (s t : Text) : (s ++ t).runs = s.foldr Run.cons t.runs :=
  List.foldr_append

namespace IsCutInto

variable {t : Text} {rs : List Run}

theorem tail {r : Run} (h : t.IsCutInto (r :: rs)) : Text.IsCutInto (rs.flatMap Run.chars) rs where
  join := rfl
  chars_ne_nil := (List.forall_mem_cons.mp h.chars_ne_nil).2
  kind := (List.forall_mem_cons.mp h.kind).2
  alternate := h.alternate.tail

theorem mem_of_mem_chars (h : t.IsCutInto rs) {r : Run} (hr : r ∈ rs) {c : Char}
    (hc : c ∈ r.chars) : c ∈ t := by
  rw [← h.join]
  exact List.mem_flatMap.mpr ⟨r, hr, hc⟩

/-- A character more is cut by putting it before the runs. -/
theorem cons (h : t.IsCutInto rs) (c : Char) : Text.IsCutInto (c :: t) (Run.cons c rs) := by
  by_cases hjoin : ∀ r ∈ rs.head?, r.isWord ≠ isWordChar c
  · rw [Run.cons_of_ne hjoin]
    exact {
      join := by rw [List.flatMap_cons, h.join]; rfl
      chars_ne_nil := List.forall_mem_cons.mpr ⟨by simp, h.chars_ne_nil⟩
      kind := List.forall_mem_cons.mpr ⟨by simp, h.kind⟩
      alternate := List.isChain_cons.mpr ⟨fun r hr => (hjoin r hr).symm, h.alternate⟩ }
  · cases rs with
    | nil => simp at hjoin
    | cons r rs =>
      have hsame : r.isWord = isWordChar c := by simpa using hjoin
      have hkind : ∀ d ∈ r.chars, isWordChar d = r.isWord := h.kind r List.mem_cons_self
      rw [Run.cons_of_eq hsame]
      exact {
        join := congrArg (c :: ·) h.join
        chars_ne_nil :=
          List.forall_mem_cons.mpr ⟨by simp, (List.forall_mem_cons.mp h.chars_ne_nil).2⟩
        kind := List.forall_mem_cons.mpr
          ⟨List.forall_mem_cons.mpr ⟨hsame.symm, hkind⟩, (List.forall_mem_cons.mp h.kind).2⟩
        alternate := List.isChain_cons.mpr (List.isChain_cons.mp h.alternate) }

/-- There is no other way to cut the text. -/
theorem eq_runs (h : t.IsCutInto rs) : rs = t.runs := by
  induction rs generalizing t with
  | nil =>
    obtain rfl := h.join
    rfl
  | cons r rs ih =>
    have hnext : ∀ s ∈ rs.head?, r.isWord ≠ s.isWord := (List.isChain_cons.mp h.alternate).1
    have hr : r.chars.foldr Run.cons rs = r :: rs :=
      Run.foldr_cons_chars (h.chars_ne_nil r List.mem_cons_self)
        (h.kind r List.mem_cons_self) hnext
    rw [← h.join, List.flatMap_cons, runs_append, ← ih h.tail, hr]

/-- Runs that are changed one by one are still the runs of a text. -/
theorem map (h : t.IsCutInto rs) {f : Run → Run} (hf : ∀ r ∈ rs, (f r).StandsFor r) :
    Text.IsCutInto ((rs.map f).flatMap Run.chars) (rs.map f) where
  join := rfl
  chars_ne_nil := List.forall_mem_map.mpr fun r hr => (hf r hr).chars_ne_nil
  kind := List.forall_mem_map.mpr fun r hr => (hf r hr).kind
  alternate := by
    have hsame : (rs.map f).map Run.isWord = rs.map Run.isWord := by
      rw [List.map_map]
      exact List.map_congr_left fun r hr => (hf r hr).isWord_eq
    have halternate : (rs.map Run.isWord).IsChain (· ≠ ·) :=
      (List.isChain_map Run.isWord).mpr h.alternate
    rw [← hsame] at halternate
    exact (List.isChain_map Run.isWord).mp halternate

end IsCutInto

theorem isCutInto_runs (t : Text) : t.IsCutInto t.runs := by
  induction t with
  | nil => exact ⟨rfl, by simp [runs], by simp [runs], .nil⟩
  | cons c t ih => exact ih.cons c

/-- **A text is cut into its runs and in no other way.** -/
theorem isCutInto_iff {t : Text} {rs : List Run} : t.IsCutInto rs ↔ rs = t.runs := by
  constructor
  · exact IsCutInto.eq_runs
  · rintro rfl
    exact isCutInto_runs t

/-- What holds of the characters of a text holds of those of its runs. -/
theorem forall_mem_of_mem_runs {t : Text} {p : Char → Prop} (h : ∀ c ∈ t, p c) {r : Run}
    (hr : r ∈ t.runs) : ∀ c ∈ r.chars, p c :=
  fun c hc => h c ((isCutInto_runs t).mem_of_mem_chars hr hc)

/-- A word is a single run. -/
theorem runs_eq_singleton {w : Text} (hne : w ≠ []) (hw : ∀ c ∈ w, isWordChar c = true) :
    w.runs = [⟨w, true⟩] := by
  have hcut : w.IsCutInto [⟨w, true⟩] :=
    ⟨by simp, by simpa using hne, by simpa using hw, .singleton _⟩
  exact hcut.eq_runs.symm

end Text

end Colloquy
