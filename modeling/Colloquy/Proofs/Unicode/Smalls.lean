import Colloquy.Proofs.Unicode.Capitals

/-!
# Small letters

Lower case makes no white space and leaves no character without a successor, so the words of a text
are still words in lower case.

* `Unicode.toLower_cases` — a character that is moved is moved to a small letter.
* `Unicode.isBlank_eq_false_of_mem_toLower`, `Text.isBlank_eq_false_of_mem_lower` — no white space
  comes about.
* `Text.lower_ne_nil` — something remains.
* `Unicode.toLower_of_mem_toLower`, `Text.lower_lower` — small letters stay in lower case.
-/

namespace Colloquy

namespace Unicode

/-! ## The lower-case mapping -/

/-- The points that the lower-case mapping moves others to. -/
def loweredPoints : List Nat :=
  imagePoints lowerExpansions lowerRuns

/-- The points that the lower-case mapping moves. -/
def loweringPoints : List Nat :=
  movedPoints lowerExpansions lowerRuns

/-- What the tables are read for, in one go. What others are moved to is not reserved, is made of
characters, and is not moved again. The points that are moved are letters, but no small ones, and
their single small letters are letters. No letter is both small and a capital, and all capitals are
low enough for this to be seen. -/
theorem small_tables :
    (mask reservedPoints &&& mask loweredPoints = 0 ∧
      mask loweredPoints &&& validPoints.maskBelow 0x110000 = mask loweredPoints ∧
      mask loweringPoints &&& mask loweredPoints = 0) ∧
    (mask loweringPoints &&& alphabetic.maskBelow 0x20000 = mask loweringPoints ∧
      mask loweringPoints &&& lowercase.maskBelow 0x20000 = 0 ∧
      mask (lowerRuns.flatMap CaseRun.images) &&& alphabetic.maskBelow 0x20000 =
        mask (lowerRuns.flatMap CaseRun.images)) ∧
    lowercase.maskBelow 0x20000 &&& uppercase.maskBelow 0x20000 = 0 ∧
      uppercase.length % 2 = 0 ∧ uppercase.all (· ≤ 0x20000) = true := by
  decide +kernel

theorem mask_loweredPoints : mask reservedPoints &&& mask loweredPoints = 0 ∧
    mask loweredPoints &&& validPoints.maskBelow 0x110000 = mask loweredPoints ∧
    mask loweringPoints &&& mask loweredPoints = 0 :=
  small_tables.1

theorem isValidChar_of_mem_loweredPoints : ∀ n ∈ loweredPoints, n.isValidChar :=
  isValidChar_of_mask mask_loweredPoints.2.1

/-- A character that is moved is moved to a small letter. -/
theorem toLower_cases (c : Char) :
    toLower c = [c] ∨ ∀ d ∈ toLower c, d.toNat ∈ loweredPoints :=
  mapped_cases isValidChar_of_mem_loweredPoints c rfl

theorem toLower_ne_nil (c : Char) : toLower c ≠ [] := by
  have hne : ∀ e ∈ lowerExpansions, e.2 ≠ [] := by decide
  unfold toLower
  split
  · rename_i ns hns
    simpa using hne _ (mem_of_expansion?_eq_some hns)
  · simp

/-- No character becomes white space. -/
theorem isBlank_eq_false_of_mem_toLower {c d : Char} (hc : isBlank c = false)
    (hd : d ∈ toLower c) : isBlank d = false := by
  rcases toLower_cases c with hself | hsmall
  · rw [hself, List.mem_singleton] at hd
    rwa [hd]
  · exact isBlank_eq_false_of_not_reserved
      (not_mem_of_mask mask_loweredPoints.1 (hsmall d hd))

/-! ## What lower case moves -/

theorem mask_loweringPoints :
    mask loweringPoints &&& alphabetic.maskBelow 0x20000 = mask loweringPoints ∧
    mask loweringPoints &&& lowercase.maskBelow 0x20000 = 0 ∧
    mask (lowerRuns.flatMap CaseRun.images) &&& alphabetic.maskBelow 0x20000 =
      mask (lowerRuns.flatMap CaseRun.images) :=
  small_tables.2.1

theorem toLower_eq_self {c : Char} (h : c.toNat ∉ loweringPoints) : toLower c = [c] :=
  mapped_eq_self h rfl

/-- Only letters are moved. -/
theorem toLower_eq_self_of_not_letter {c : Char} (h : isAlphabetic c = false) :
    toLower c = [c] := by
  refine toLower_eq_self fun hc => ?_
  have hletter := alphabetic.contains_of_mask mask_loweringPoints.1 hc
  rw [isAlphabetic, hletter] at h
  cases h

/-- Small letters stay. -/
theorem toLower_eq_self_of_isLowercase {c : Char} (h : isLowercase c = true) :
    toLower c = [c] := by
  refine toLower_eq_self fun hc => ?_
  have hbound := alphabetic.lt_of_mask mask_loweringPoints.1 hc
  have hnot := lowercase.not_contains_of_mask mask_loweringPoints.2.1 hc hbound
  rw [isLowercase, hnot] at h
  cases h

/-- A letter becomes letters, but for `İ`, whose dot becomes a character of its own. -/
theorem all_toLower_iff {c : Char} (hc : isAlphabetic c = true) :
    (toLower c).all isAlphanumeric = true ↔ c ≠ 'İ' := by
  unfold toLower
  split
  · rename_i ns hns
    have hdotted : (c.toNat, ns) = (0x130, [0x69, 0x307]) :=
      List.mem_singleton.mp (mem_of_expansion?_eq_some hns)
    obtain ⟨hpoint, rfl⟩ := Prod.mk.inj hdotted
    have hchar : c = 'İ' := Char.toNat_inj.mp hpoint
    simp only [hchar, ne_eq, not_true_eq_false, iff_false]
    decide
  · rename_i hnone
    have hplain : c ≠ 'İ' := by
      rintro rfl
      cases hnone
    have hletter : isAlphabetic (Char.ofNat (CaseRun.apply lowerRuns c.toNat)) = true := by
      rcases CaseRun.apply_cases lowerRuns c.toNat with hself | ⟨r, hr, himage⟩
      · rw [hself, Char.ofNat_toNat, hc]
      · have hmem := List.mem_flatMap.mpr ⟨r, hr, himage⟩
        have hlowered : _ ∈ loweredPoints := mem_imagePoints_of_run hr himage
        rw [isAlphabetic,
          toNat_ofNat_of_isValidChar (isValidChar_of_mem_loweredPoints _ hlowered)]
        exact alphabetic.contains_of_mask mask_loweringPoints.2.2 hmem
    simp [isAlphanumeric, hletter, hplain]

/-- **What lower case makes stays as it is in lower case.** -/
theorem toLower_of_mem_toLower {c d : Char} (h : d ∈ toLower c) : toLower d = [d] := by
  rcases toLower_cases c with hself | hsmall
  · rw [hself, List.mem_singleton] at h
    rw [h, hself]
  · exact toLower_eq_self (not_mem_of_mask mask_loweredPoints.2.2 (hsmall d h))

theorem mask_lowercase : lowercase.maskBelow 0x20000 &&& uppercase.maskBelow 0x20000 = 0 ∧
    uppercase.length % 2 = 0 ∧ uppercase.all (· ≤ 0x20000) = true :=
  small_tables.2.2

/-- No small letter is a capital. -/
theorem isUppercase_eq_false_of_isLowercase {c : Char} (h : isLowercase c = true) :
    isUppercase c = false := by
  cases hcapital : isUppercase c with
  | false => rfl
  | true =>
    have hbound : c.toNat < 0x20000 := Boundaries.lt_of_contains mask_lowercase.2.1
      (fun b hb => by simpa using List.all_eq_true.mp mask_lowercase.2.2 b hb) hcapital
    have hbit : (lowercase.maskBelow 0x20000 &&& uppercase.maskBelow 0x20000).testBit c.toNat =
        true := by
      rw [isLowercase] at h
      rw [isUppercase] at hcapital
      rw [Nat.testBit_and, Boundaries.testBit_maskBelow, Boundaries.testBit_maskBelow, h,
        hcapital, decide_eq_true hbound]
      rfl
    rw [mask_lowercase.1, Nat.zero_testBit] at hbit
    cases hbit

end Unicode

namespace Text

open Unicode

/-! ## Texts in lower case -/

/-- What a single character becomes in lower case: a capital sigma becomes one of two letters. -/
theorem mem_lowerAfter {before t : Text} {d : Char} (h : d ∈ lowerAfter before t) :
    d = 'ς' ∨ d = 'σ' ∨ ∃ c ∈ t, d ∈ toLower c := by
  induction t generalizing before with
  | nil => cases h
  | cons c cs ih =>
    rw [lowerAfter, List.mem_append] at h
    rcases h with h | h
    · split at h
      · rw [List.mem_singleton, lowerSigma] at h
        split at h
        · exact .inl h
        · exact .inr (.inl h)
      · exact .inr (.inr ⟨c, List.mem_cons_self, h⟩)
    · rcases ih h with h | h | ⟨c', hc', h⟩
      · exact .inl h
      · exact .inr (.inl h)
      · exact .inr (.inr ⟨c', List.mem_cons_of_mem _ hc', h⟩)

/-- **Lower case makes no white space.** -/
theorem isBlank_eq_false_of_mem_lower {t : Text} (ht : ∀ c ∈ t, isBlank c = false) :
    ∀ d ∈ t.lower, isBlank d = false := by
  intro d hd
  rcases mem_lowerAfter hd with rfl | rfl | ⟨c, hc, hd⟩
  · decide
  · decide
  · exact isBlank_eq_false_of_mem_toLower (ht c hc) hd

theorem lower_ne_nil {t : Text} (h : t ≠ []) : t.lower ≠ [] := by
  obtain ⟨c, cs, rfl⟩ := List.exists_cons_of_ne_nil h
  rw [lower, lowerAfter]
  split
  · simp
  · simp [toLower_ne_nil]

/-- Characters that are not moved are written as they are. -/
theorem lowerAfter_eq_self {before t : Text} (h : ∀ c ∈ t, c ≠ 'Σ' ∧ toLower c = [c]) :
    lowerAfter before t = t := by
  induction t generalizing before with
  | nil => rfl
  | cons c cs ih =>
    obtain ⟨⟨hsigma, hself⟩, hcs⟩ := List.forall_mem_cons.mp h
    rw [lowerAfter, if_neg hsigma, hself, ih hcs]
    rfl

/-- A text of characters that are not moved is in lower case. -/
theorem lower_eq_self {t : Text} (h : ∀ c ∈ t, c ≠ 'Σ' ∧ toLower c = [c]) : t.lower = t :=
  lowerAfter_eq_self h

/-- **A text in lower case is in lower case.** A sigma that was lowered is not looked at again,
wherever it stands. -/
@[simp] theorem lower_lower (t : Text) : t.lower.lower = t.lower := by
  refine lower_eq_self fun d hd => ?_
  have hself : toLower d = [d] := by
    rcases mem_lowerAfter hd with rfl | rfl | ⟨c, -, hd⟩
    · decide
    · decide
    · exact toLower_of_mem_toLower hd
  refine ⟨?_, hself⟩
  rintro rfl
  exact absurd hself (by decide)

end Text

end Colloquy
