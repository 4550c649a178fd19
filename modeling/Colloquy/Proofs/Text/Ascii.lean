import Colloquy.Proofs.Text.Runs
import Colloquy.Proofs.Text.Words
import Colloquy.Proofs.Unicode.Smalls
import Mathlib.Data.List.TakeDrop
import Mathlib.Data.List.TakeWhile

/-!
# ASCII texts

In ASCII, letter case is a matter of single characters: a text keeps its length whatever case it is
written in, and from all its spellings the same capitals are made.

* `isPlain_of_lt` — what letter case makes of an ASCII character.
* `Text.IsAscii.upper_lower`, `Text.IsAscii.upper_capitalizeAll`, `Text.IsAscii.upper_inCaseOf` —
  the capitals of a text do not depend on the case in which it is written.
* `Text.IsAscii.map_upper_splitWhere` — they are cut where the text is cut.
* `Text.IsAscii.runs_lower` — a text is put in lower case run by run.
-/

namespace Colloquy

open Unicode

/-! ## ASCII characters -/

/-- In either case the character is a single ASCII character, which is in a word, white space or a
letter or digit if it is itself. -/
structure IsPlain (c : Char) : Prop where
  toLower_eq : toLower c = [c.toLower]
  toUpper_eq : toUpper c = [c.toUpper]
  toLower_lt : c.toLower.toNat < 128
  toUpper_lt : c.toUpper.toNat < 128
  toUpper_toLower : c.toLower.toUpper = c.toUpper
  toUpper_toUpper : c.toUpper.toUpper = c.toUpper
  isWordChar_toLower : isWordChar c.toLower = isWordChar c
  isBlank_toLower : isBlank c.toLower = isBlank c
  isAlphanumeric_toUpper : isAlphanumeric c.toUpper = isAlphanumeric c

theorem isPlain_of_lt {c : Char} (hc : c.toNat < 128) : IsPlain c := by
  have htable : ∀ n < 128, let d := Char.ofNat n
      toLower d = [d.toLower] ∧ toUpper d = [d.toUpper] ∧ d.toLower.toNat < 128 ∧
        d.toUpper.toNat < 128 ∧ d.toLower.toUpper = d.toUpper ∧
        d.toUpper.toUpper = d.toUpper ∧ isWordChar d.toLower = isWordChar d ∧
        isBlank d.toLower = isBlank d ∧ isAlphanumeric d.toUpper = isAlphanumeric d := by
    decide +kernel
  have hself := htable c.toNat hc
  rw [Char.ofNat_toNat] at hself
  obtain ⟨hlower, hupper, hlt, hlt', hback, htwice, hword, hblank, hletter⟩ := hself
  exact ⟨hlower, hupper, hlt, hlt', hback, htwice, hword, hblank, hletter⟩

/-- An apostrophe is no letter. -/
theorem toLower_eq_apostrophe_iff {c : Char} : c.toLower = '\'' ↔ c = '\'' := by
  unfold Char.toLower
  split
  · rename_i h
    have hlow : 65 ≤ c.val.toNat := h.1
    have hhigh : c.val.toNat ≤ 90 := h.2
    constructor
    · intro heq
      have hval : (c.val.toNat + 32) % 2 ^ 32 = 39 := congrArg (·.val.toNat) heq
      omega
    · rintro rfl
      exact absurd hlow (by decide)
  · rfl

namespace Text

/-- A text of ASCII characters alone. -/
def IsAscii (t : Text) : Prop :=
  ∀ c ∈ t, c.toNat < 128

instance (t : Text) : Decidable t.IsAscii :=
  decidable_of_iff (t.all fun c => c.toNat < 128) (by simp [IsAscii])

theorem isAscii_append {s t : Text} : (s ++ t).IsAscii ↔ s.IsAscii ∧ t.IsAscii :=
  List.forall_mem_append

theorem isAscii_unwords {ws : List Text} (h : ∀ w ∈ ws, IsAscii w) : (unwords ws).IsAscii := by
  cases ws with
  | nil => exact fun c hc => nomatch hc
  | cons w ws =>
    obtain ⟨hw, hws⟩ := List.forall_mem_cons.mp h
    rw [unwords_cons]
    refine isAscii_append.mpr ⟨hw, fun c hc => ?_⟩
    obtain ⟨v, hv, hc⟩ := List.mem_flatMap.mp hc
    rcases List.mem_cons.mp hc with rfl | hc
    · decide
    · exact hws v hv c hc

/-- Words are written in capitals one by one. -/
theorem upper_unwords (ws : List Text) : (unwords ws).upper = unwords (ws.map upper) := by
  cases ws with
  | nil => rfl
  | cons w ws =>
    rw [List.map_cons, unwords_cons, unwords_cons, upper_append, upper, upper, List.flatMap_assoc,
      List.flatMap_map]
    rfl

theorem upper_cons {c : Char} (hc : c.toNat < 128) (t : Text) :
    upper (c :: t) = c.toUpper :: t.upper := by
  rw [upper, List.flatMap_cons, (isPlain_of_lt hc).toUpper_eq]
  rfl

namespace IsAscii

variable {t : Text}

theorem lowerAfter_eq (h : t.IsAscii) (before : Text) :
    lowerAfter before t = t.map Char.toLower := by
  induction t generalizing before with
  | nil => rfl
  | cons c t ih =>
    obtain ⟨hc, ht⟩ := List.forall_mem_cons.mp h
    have hsigma : c ≠ 'Σ' := by
      rintro rfl
      exact absurd hc (by decide)
    rw [lowerAfter, if_neg hsigma, (isPlain_of_lt hc).toLower_eq, ih ht]
    rfl

/-! ## Small letters and capitals -/

theorem lower_eq (h : t.IsAscii) : t.lower = t.map Char.toLower :=
  h.lowerAfter_eq []

theorem upper_eq (h : t.IsAscii) : t.upper = t.map Char.toUpper := by
  induction t with
  | nil => rfl
  | cons c t ih =>
    obtain ⟨hc, ht⟩ := List.forall_mem_cons.mp h
    rw [upper_cons hc, ih ht, List.map_cons]

theorem lower (h : t.IsAscii) : t.lower.IsAscii := by
  rw [h.lower_eq]
  exact List.forall_mem_map.mpr fun c hc => (isPlain_of_lt (h c hc)).toLower_lt

theorem upper (h : t.IsAscii) : t.upper.IsAscii := by
  rw [h.upper_eq]
  exact List.forall_mem_map.mpr fun c hc => (isPlain_of_lt (h c hc)).toUpper_lt

/-- **Small letters have the capitals of the text.** -/
theorem upper_lower (h : t.IsAscii) : t.lower.upper = t.upper := by
  rw [h.lower.upper_eq, h.lower_eq, h.upper_eq, List.map_map]
  exact List.map_congr_left fun c hc => (isPlain_of_lt (h c hc)).toUpper_toLower

/-! ## Capitalised words -/

/-- In ASCII it is no matter where a character stands that is put in lower case. -/
theorem flatMap_toLower (h : t.IsAscii) : t.flatMap toLower = t.lower := by
  rw [h.lower_eq, List.flatMap_def,
    List.map_congr_left fun c hc => (isPlain_of_lt (h c hc)).toLower_eq, ← List.flatMap_def]
  exact List.map_eq_flatMap.symm

theorem capitalize_eq {c : Char} (h : IsAscii (c :: t)) :
    Text.capitalize (c :: t) = c.toUpper :: t.lower := by
  obtain ⟨hc, ht⟩ := List.forall_mem_cons.mp h
  rw [Text.capitalize, (isPlain_of_lt hc).toUpper_eq, flatMap_toLower ht]
  rfl

theorem capitalize (h : t.IsAscii) : t.capitalize.IsAscii := by
  cases t with
  | nil => exact h
  | cons c t =>
    obtain ⟨hc, ht⟩ := List.forall_mem_cons.mp h
    rw [h.capitalize_eq]
    exact List.forall_mem_cons.mpr ⟨(isPlain_of_lt hc).toUpper_lt, lower ht⟩

theorem upper_capitalize (h : t.IsAscii) : t.capitalize.upper = t.upper := by
  cases t with
  | nil => rfl
  | cons c t =>
    obtain ⟨hc, ht⟩ := List.forall_mem_cons.mp h
    have hplain := isPlain_of_lt hc
    rw [h.capitalize_eq, upper_cons hplain.toUpper_lt, upper_lower ht, upper_cons hc,
      hplain.toUpper_toUpper]

theorem of_mem_splitWhere (h : t.IsAscii) {p : Char → Bool} {part : Text}
    (hpart : part ∈ t.splitWhere p) : part.IsAscii :=
  fun c hc => h c (mem_of_mem_splitWhere hpart c hc)

theorem capitalizeAll (h : t.IsAscii) : t.capitalizeAll.IsAscii := by
  refine isAscii_unwords (List.forall_mem_map.mpr fun part hpart => ?_)
  exact (h.of_mem_splitWhere hpart).capitalize

/-- **So have capitalised words.** -/
theorem upper_capitalizeAll (h : t.IsAscii) : t.capitalizeAll.upper = t.upper := by
  have hparts : ((t.splitWhere (· = ' ')).map Text.capitalize).map Text.upper =
      (t.splitWhere (· = ' ')).map Text.upper := by
    rw [List.map_map]
    exact List.map_congr_left fun part hpart => (h.of_mem_splitWhere hpart).upper_capitalize
  rw [Text.capitalizeAll, upper_unwords, hparts, ← upper_unwords, unwords_splitWhere_space]

theorem inCaseOf (h : t.IsAscii) (m : Text) : (inCaseOf m t).IsAscii := by
  unfold Text.inCaseOf
  split
  · exact h.upper
  · split
    · exact h.capitalizeAll
    · exact h

/-- **So has a text in the letter case of any other.** -/
theorem upper_inCaseOf (h : t.IsAscii) (m : Text) : (Text.inCaseOf m t).upper = t.upper := by
  unfold Text.inCaseOf
  split
  · exact upper_upper t
  · split
    · exact h.upper_capitalizeAll
    · rfl

/-! ## Cutting -/

/-- **Capitals are cut where the text is cut.** -/
theorem map_upper_splitWhere (h : t.IsAscii) {p : Char → Bool}
    (hp : ∀ c ∈ t, p c.toUpper = p c) :
    (t.splitWhere p).map Text.upper = t.upper.splitWhere p := by
  induction t with
  | nil => rfl
  | cons c t ih =>
    obtain ⟨hc, ht⟩ := List.forall_mem_cons.mp h
    obtain ⟨hpc, hp⟩ := List.forall_mem_cons.mp hp
    obtain ⟨first, rest, hparts⟩ := List.exists_cons_of_ne_nil (splitWhere_ne_nil p t)
    rw [upper_cons hc, splitWhere_cons, splitWhere_cons, hpc, ← ih ht hp, hparts]
    split
    · rfl
    · rw [consHead, List.map_cons, upper_cons hc]
      rfl

/-- In lower case, too, what is before the first apostrophe is cut off. -/
theorem span_lower (h : t.IsAscii) :
    t.lower.span (· ≠ '\'') =
      (Text.lower (t.span (· ≠ '\'')).1, Text.lower (t.span (· ≠ '\'')).2) := by
  have hsame : (fun c => decide (c ≠ '\'')) ∘ Char.toLower = fun c => decide (c ≠ '\'') := by
    funext c
    simp [toLower_eq_apostrophe_iff]
  have hhead : IsAscii (t.takeWhile (· ≠ '\'')) :=
    fun c hc => h c ((List.takeWhile_prefix _).subset hc)
  have htail : IsAscii (t.dropWhile (· ≠ '\'')) :=
    fun c hc => h c ((List.dropWhile_suffix _).subset hc)
  rw [List.span_eq_takeWhile_dropWhile, List.span_eq_takeWhile_dropWhile, hhead.lower_eq,
    htail.lower_eq, h.lower_eq, List.takeWhile_map, List.dropWhile_map, hsame]

theorem isBlankText_lower (h : t.IsAscii) : t.lower.isBlankText = t.isBlankText := by
  rw [isBlankText, isBlankText, h.lower_eq, List.all_map, Bool.eq_iff_iff, List.all_eq_true,
    List.all_eq_true]
  refine forall₂_congr fun c hc => ?_
  rw [Function.comp_apply, (isPlain_of_lt (h c hc)).isBlank_toLower]

/-- **A text is put in lower case run by run.** -/
theorem runs_lower (h : t.IsAscii) : t.lower.runs = t.runs.map (Run.recast Text.lower) := by
  have hcut := isCutInto_runs t
  have hrun {r : Run} (hr : r ∈ t.runs) : IsAscii r.chars := forall_mem_of_mem_runs h hr
  have hjoin : (t.runs.map (Run.recast Text.lower)).flatMap Run.chars = t.lower := by
    calc (t.runs.map (Run.recast Text.lower)).flatMap Run.chars
        = t.runs.flatMap fun r => Text.lower r.chars := List.flatMap_map _ _ _
      _ = t.runs.flatMap fun r => r.chars.map Char.toLower := by
          rw [List.flatMap_def, List.map_congr_left fun r hr => (hrun hr).lower_eq,
            ← List.flatMap_def]
      _ = (t.runs.flatMap Run.chars).map Char.toLower := List.map_flatMap.symm
      _ = t.lower := by rw [hcut.join, h.lower_eq]
  rw [← hjoin]
  refine (hcut.map fun r hr => ?_).eq_runs.symm
  refine ⟨rfl, lower_ne_nil (hcut.chars_ne_nil r hr), fun c (hc : c ∈ Text.lower r.chars) => ?_⟩
  rw [(hrun hr).lower_eq] at hc
  obtain ⟨d, hd, rfl⟩ := List.mem_map.mp hc
  rw [(isPlain_of_lt (hrun hr d hd)).isWordChar_toLower]
  exact hcut.kind r hr d hd

end IsAscii

end Text

end Colloquy
