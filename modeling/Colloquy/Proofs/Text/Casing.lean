import Colloquy.Proofs.Unicode.Smalls

/-!
# Taking over letter case

When a text that takes the place of another stays as it is stored, and when it is raised.

* `Text.isShouted_iff` — a shouted text has more than one letter and no small one.
* `Text.inCaseOf_of_no_capital` — where there is no capital, a text is raised or it stays.
* `Text.inCaseOf_of_small` — in the place of small letters it stays.
-/

namespace Colloquy

open Unicode

namespace Text

variable {m : Text}

/-- More than one letter, and no small one among them. -/
theorem isShouted_iff : m.isShouted = true ↔
    1 < (m.filter isAlphabetic).length ∧ ∀ c ∈ m, isAlphabetic c = true → isLowercase c = false := by
  simp only [isShouted, Bool.and_eq_true, decide_eq_true_eq, List.all_eq_true, List.mem_filter,
    Bool.not_eq_true', and_imp]

/-- A text without capitals is not capitalised. -/
theorem isCapitalized_eq_false (h : ∀ c ∈ m, isUppercase c = false) :
    m.isCapitalized = false := by
  rw [isCapitalized]
  cases hfirst : m.find? isAlphabetic with
  | none => rfl
  | some c => exact h c (List.mem_of_find?_eq_some hfirst)

/-- In the place of a text without capitals, a text is raised to capitals or stays as it is. -/
theorem inCaseOf_of_no_capital (h : ∀ c ∈ m, isUppercase c = false) (r : Text) :
    inCaseOf m r = if m.isShouted then r.upper else r := by
  rw [inCaseOf, isCapitalized_eq_false h]
  rfl

/-- In the place of small letters, a text stays as it is. -/
theorem inCaseOf_of_small (h : ∀ c ∈ m, isAlphabetic c = true → isLowercase c = true) (r : Text) :
    inCaseOf m r = r := by
  have hshouted : m.isShouted = false := by
    cases hshouted : m.isShouted with
    | false => rfl
    | true =>
      obtain ⟨hmany, hno⟩ := isShouted_iff.mp hshouted
      obtain ⟨c, hc⟩ := List.exists_mem_of_length_pos (Nat.zero_lt_of_lt hmany)
      obtain ⟨hmem, hletter⟩ := List.mem_filter.mp hc
      have hsmall := h c hmem hletter
      rw [hno c hmem hletter] at hsmall
      cases hsmall
  have hcapitalized : m.isCapitalized = false := by
    rw [isCapitalized]
    cases hfirst : m.find? isAlphabetic with
    | none => rfl
    | some c =>
      have hletter := List.find?_some hfirst
      exact isUppercase_eq_false_of_isLowercase
        (h c (List.mem_of_find?_eq_some hfirst) hletter)
  rw [inCaseOf, hshouted, hcapitalized]
  rfl

/-- Upper case makes no text shorter. -/
theorem length_le_length_upper (t : Text) : t.length ≤ t.upper.length := by
  induction t with
  | nil => exact Nat.le_refl _
  | cons c t ih =>
    have hc : 0 < (toUpper c).length := List.length_pos_iff.mpr (toUpper_ne_nil c)
    rw [upper, List.flatMap_cons, List.length_append, List.length_cons]
    rw [upper] at ih
    omega

/-- A text whose characters are not changed by lower case is in lower case. -/
theorem lower_eq_self_of_toLower {t : Text} (h : ∀ c ∈ t, toLower c = [c]) : t.lower = t := by
  refine lower_eq_self fun c hc => ⟨?_, h c hc⟩
  rintro rfl
  exact absurd (h 'Σ' hc) (by decide)

end Text

end Colloquy
