import Colloquy.Text.Casing

/-!
# Capitals

What a character becomes in upper case stays as it is in upper case, and no letter or digit becomes
white space or one of the signs of a pattern. Both are facts about tables, and they are told from
the sets of points that the tables move and that they move to.

* `mask`, `Boundaries.maskBelow` — a set of numbers, or a table of them, as the bits of one number.
* `mapped_cases` — a character stays, or a mapping moves it to characters of its table.
* `toUpper_cases` — a character that is moved is moved to a capital.
* `toUpper_of_mem_toUpper`, `Text.upper_upper` — capitals are their own capitals.
* `not_reserved_of_mem_toUpper` — no letter or digit becomes white space or a sign.
* `all_toUpper_iff`, `Text.all_upper_iff` — the letters with capitals that are no letters.
-/

namespace Colloquy

namespace Unicode

/-! ## Sets of numbers -/

/-- Numbers as the bits of one number, so that sets of many numbers are compared at once. -/
def mask (ns : List Nat) : Nat :=
  ns.foldr (fun n m => m ||| 1 <<< n) 0

theorem testBit_mask (ns : List Nat) (n : Nat) : (mask ns).testBit n = decide (n ∈ ns) := by
  induction ns with
  | nil => simp [mask]
  | cons m ns ih =>
    have hm : mask (m :: ns) = mask ns ||| 1 <<< m := rfl
    rw [hm, Nat.testBit_or, ih, Nat.one_shiftLeft, Nat.testBit_two_pow]
    simp [Bool.decide_or, Bool.or_comm, eq_comm]

/-- Sets with no bit in common have no number in common. -/
theorem not_mem_of_mask {ms ns : List Nat} (h : mask ms &&& mask ns = 0) {n : Nat} (hn : n ∈ ns) :
    n ∉ ms := by
  intro hm
  have hbit : (mask ms &&& mask ns).testBit n = true := by
    simp [Nat.testBit_and, testBit_mask, hm, hn]
  rw [h, Nat.zero_testBit] at hbit
  cases hbit

/-- The points between every second boundary and the next. -/
def Boundaries.points : Boundaries → List Nat
  | a :: b :: bs => List.range' a (b - a) ++ points bs
  | _ => []

theorem Boundaries.mem_points_of_contains {n : Nat} (bs : Boundaries)
    (heven : bs.length % 2 = 0) (h : contains bs n = true) : n ∈ points bs := by
  induction bs using points.induct with
  | case1 a b bs ih =>
    rw [contains_cons, contains_cons] at h
    rw [points, List.mem_append, List.mem_range'_1]
    simp only [Bool.and_eq_true, decide_eq_true_eq, Bool.not_eq_true', Bool.and_eq_false_iff,
      decide_eq_false_iff_not, Bool.not_eq_false'] at h
    rcases h with ⟨ha, hb | hrest⟩
    · exact .inl (by omega)
    · have hlen : bs.length % 2 = 0 := by
        simp only [List.length_cons] at heven
        omega
      exact .inr (ih hlen hrest)
  | case2 bs hbs =>
    cases bs with
    | nil => simp at h
    | cons a bs =>
      cases bs with
      | nil => simp at heven
      | cons b bs => exact absurd rfl (hbs a b bs)

/-- The numbers below a bound that lie between boundaries, as the bits of one number. -/
def Boundaries.maskBelow (bound : Nat) : Boundaries → Nat
  | [] => 0
  | b :: bs => (1 <<< bound - 1) <<< b &&& ((1 <<< bound - 1) ^^^ maskBelow bound bs)

theorem Boundaries.testBit_maskBelow (bound : Nat) (bs : Boundaries) (n : Nat) :
    (maskBelow bound bs).testBit n = (decide (n < bound) && contains bs n) := by
  induction bs with
  | nil => simp [maskBelow]
  | cons b bs ih =>
    have hlow (k : Nat) : (1 <<< bound - 1).testBit k = decide (k < bound) := by
      rw [Nat.one_shiftLeft, Nat.testBit_two_pow_sub_one]
    rw [maskBelow, Nat.testBit_and, Nat.testBit_shiftLeft, Nat.testBit_xor, hlow, hlow, ih,
      contains_cons]
    by_cases hn : n < bound
    · have hb : n - b < bound := by omega
      simp [hn, hb]
    · simp [hn]

/-- Numbers without a bit in common with those between boundaries are not between them. -/
theorem Boundaries.not_contains_of_mask {bound : Nat} (bs : Boundaries) {ns : List Nat}
    (h : mask ns &&& maskBelow bound bs = 0) {n : Nat} (hn : n ∈ ns) (hbound : n < bound) :
    contains bs n = false := by
  have hbit : (mask ns &&& maskBelow bound bs).testBit n = false := by
    rw [h, Nat.zero_testBit]
  rw [Nat.testBit_and, testBit_mask, testBit_maskBelow, decide_eq_true hn,
    decide_eq_true hbound] at hbit
  exact hbit

theorem Boundaries.contains_of_mask {bound : Nat} (bs : Boundaries) {ns : List Nat}
    (h : mask ns &&& maskBelow bound bs = mask ns) {n : Nat} (hn : n ∈ ns) :
    contains bs n = true := by
  have hbit : (mask ns &&& maskBelow bound bs).testBit n = true := by
    rw [h, testBit_mask, decide_eq_true hn]
  rw [Nat.testBit_and, testBit_maskBelow, Bool.and_eq_true, Bool.and_eq_true] at hbit
  exact hbit.2.2

/-- What lies between boundaries lies below a bound of them. -/
theorem Boundaries.lt_of_contains {bound n : Nat} {bs : Boundaries} (heven : bs.length % 2 = 0)
    (hle : ∀ b ∈ bs, b ≤ bound) (h : contains bs n = true) : n < bound := by
  have hmem := mem_points_of_contains bs heven h
  clear heven h
  induction bs using points.induct with
  | case1 a b bs ih =>
    obtain ⟨-, hrest⟩ := List.forall_mem_cons.mp hle
    obtain ⟨hb, hbs⟩ := List.forall_mem_cons.mp hrest
    rw [points, List.mem_append, List.mem_range'_1] at hmem
    rcases hmem with hmem | hmem
    · omega
    · exact ih hbs hmem
  | case2 bs hbs =>
    rw [points] at hmem
    · cases hmem
    · exact hbs

theorem Boundaries.lt_of_mask {bound : Nat} (bs : Boundaries) {ns : List Nat}
    (h : mask ns &&& maskBelow bound bs = mask ns) {n : Nat} (hn : n ∈ ns) : n < bound := by
  have hbit : (mask ns &&& maskBelow bound bs).testBit n = true := by
    rw [h, testBit_mask, decide_eq_true hn]
  rw [Nat.testBit_and, testBit_maskBelow, Bool.and_eq_true, Bool.and_eq_true] at hbit
  exact of_decide_eq_true hbit.2.1

/-! ## What a mapping moves -/

namespace CaseRun

/-- The points that a run moves. -/
def points (r : CaseRun) : List Nat :=
  (List.range ((r.last - r.first) / r.step + 1)).map fun k => r.first + k * r.step

/-- The points that a run moves them to. -/
def images (r : CaseRun) : List Nat :=
  (List.range ((r.last - r.first) / r.step + 1)).map fun k => r.image + k * r.step

/-- The place of a point in a run. -/
theorem exists_place {r : CaseRun} {n : Nat} (hfirst : r.first ≤ n) (hlast : n ≤ r.last)
    (hstep : (n - r.first) % r.step = 0) :
    ∃ k, k < (r.last - r.first) / r.step + 1 ∧ n = r.first + k * r.step := by
  have hk : (n - r.first) / r.step * r.step = n - r.first :=
    Nat.div_mul_cancel (Nat.dvd_of_mod_eq_zero hstep)
  have hle : (n - r.first) / r.step ≤ (r.last - r.first) / r.step :=
    Nat.div_le_div_right (by omega)
  exact ⟨(n - r.first) / r.step, by omega, by omega⟩

theorem apply_eq_self {rs : List CaseRun} {n : Nat} (h : ∀ r ∈ rs, n ∉ r.points) :
    apply rs n = n := by
  induction rs with
  | nil => rfl
  | cons r rs ih =>
    obtain ⟨hr, hrs⟩ := List.forall_mem_cons.mp h
    rw [apply]
    split
    · rfl
    · rename_i hfirst
      split
      · rename_i hin
        obtain ⟨k, hk, hn⟩ := exists_place (Nat.not_lt.mp hfirst) hin.1 hin.2
        exact absurd (List.mem_map.mpr ⟨k, List.mem_range.mpr hk, hn.symm⟩) hr
      · exact ih hrs

theorem apply_cases (rs : List CaseRun) (n : Nat) :
    apply rs n = n ∨ ∃ r ∈ rs, apply rs n ∈ r.images := by
  induction rs with
  | nil => exact .inl rfl
  | cons r rs ih =>
    rw [apply]
    split
    · exact .inl rfl
    · rename_i hfirst
      split
      · rename_i hin
        obtain ⟨k, hk, hn⟩ := exists_place (Nat.not_lt.mp hfirst) hin.1 hin.2
        exact .inr ⟨r, List.mem_cons_self, List.mem_map.mpr ⟨k, List.mem_range.mpr hk, by omega⟩⟩
      · exact ih.imp_right fun ⟨s, hs, himage⟩ => ⟨s, List.mem_cons_of_mem _ hs, himage⟩

end CaseRun

theorem mem_of_expansion?_eq_some {es : List (Nat × List Nat)} {n : Nat} {ns : List Nat}
    (h : expansion? es n = some ns) : (n, ns) ∈ es := by
  induction es with
  | nil => cases h
  | cons e es ih =>
    rw [expansion?] at h
    split at h
    · cases h
    · split at h
      · rename_i hn
        obtain rfl := Option.some.inj h
        exact hn ▸ List.mem_cons_self
      · exact List.mem_cons_of_mem _ (ih h)

theorem expansion?_eq_none {es : List (Nat × List Nat)} {n : Nat} (h : n ∉ es.map Prod.fst) :
    expansion? es n = none := by
  cases hn : expansion? es n with
  | none => rfl
  | some ns => exact absurd (List.mem_map_of_mem (mem_of_expansion?_eq_some hn)) h

/-! ## The characters of a mapping -/

/-- The points that a mapping, told by its expansions and its runs, moves. -/
def movedPoints (es : List (Nat × List Nat)) (rs : List CaseRun) : List Nat :=
  es.map Prod.fst ++ rs.flatMap CaseRun.points

/-- The points that it moves others to. -/
def imagePoints (es : List (Nat × List Nat)) (rs : List CaseRun) : List Nat :=
  es.flatMap Prod.snd ++ rs.flatMap CaseRun.images

theorem mem_imagePoints_of_expansion {es : List (Nat × List Nat)} {rs : List CaseRun} {m n : Nat}
    {ns : List Nat} (h : expansion? es m = some ns) (hn : n ∈ ns) : n ∈ imagePoints es rs :=
  List.mem_append_left _ (List.mem_flatMap.mpr ⟨(m, ns), mem_of_expansion?_eq_some h, hn⟩)

theorem mem_imagePoints_of_run {es : List (Nat × List Nat)} {rs : List CaseRun} {r : CaseRun}
    (hr : r ∈ rs) {n : Nat} (hn : n ∈ r.images) : n ∈ imagePoints es rs :=
  List.mem_append_right _ (List.mem_flatMap.mpr ⟨r, hr, hn⟩)

/-- The points that are characters. -/
def validPoints : Boundaries := [0, 0xD800, 0xE000, 0x110000]

theorem isValidChar_of_contains {n : Nat} (h : validPoints.contains n = true) :
    n.isValidChar := by
  have hrange : n < 0xD800 ∨ 0xE000 ≤ n ∧ n < 0x110000 := by
    simpa [validPoints, Boundaries.contains_cons] using h
  exact hrange.imp_right fun ⟨hlow, hhigh⟩ => ⟨Nat.lt_of_succ_le hlow, hhigh⟩

theorem isValidChar_of_mask {ns : List Nat}
    (h : mask ns &&& validPoints.maskBelow 0x110000 = mask ns) : ∀ n ∈ ns, n.isValidChar :=
  fun _ hn => isValidChar_of_contains (Boundaries.contains_of_mask validPoints h hn)

theorem toNat_ofNat_of_isValidChar {n : Nat} (h : n.isValidChar) : (Char.ofNat n).toNat = n := by
  rw [Char.ofNat, dif_pos h]
  rfl

/-- A character that the mapping does not move stays as it is. -/
theorem mapped_eq_self {es : List (Nat × List Nat)} {rs : List CaseRun} {c : Char}
    (h : c.toNat ∉ movedPoints es rs) {cs : List Char}
    (hcs : (match expansion? es c.toNat with
      | some ns => ns.map Char.ofNat
      | none => [Char.ofNat (CaseRun.apply rs c.toNat)]) = cs) : cs = [c] := by
  rw [movedPoints, List.mem_append, not_or] at h
  have hruns : CaseRun.apply rs c.toNat = c.toNat :=
    CaseRun.apply_eq_self fun r hr hin => h.2 (List.mem_flatMap.mpr ⟨r, hr, hin⟩)
  rw [← hcs, expansion?_eq_none h.1, hruns, Char.ofNat_toNat]

/-- A character stays as it is, or it becomes characters that the mapping moves others to. -/
theorem mapped_cases {es : List (Nat × List Nat)} {rs : List CaseRun}
    (hvalid : ∀ n ∈ imagePoints es rs, n.isValidChar) (c : Char) {cs : List Char}
    (h : (match expansion? es c.toNat with
      | some ns => ns.map Char.ofNat
      | none => [Char.ofNat (CaseRun.apply rs c.toNat)]) = cs) :
    cs = [c] ∨ ∀ d ∈ cs, d.toNat ∈ imagePoints es rs := by
  subst h
  split
  · rename_i ns hns
    refine .inr fun d hd => ?_
    obtain ⟨n, hn, rfl⟩ := List.mem_map.mp hd
    have himage : n ∈ imagePoints es rs := mem_imagePoints_of_expansion hns hn
    rwa [toNat_ofNat_of_isValidChar (hvalid n himage)]
  · rcases CaseRun.apply_cases rs c.toNat with hself | ⟨r, hr, himage⟩
    · rw [hself, Char.ofNat_toNat]
      exact .inl rfl
    · refine .inr fun d hd => ?_
      obtain rfl := List.mem_singleton.mp hd
      have himage : _ ∈ imagePoints es rs := mem_imagePoints_of_run hr himage
      rwa [toNat_ofNat_of_isValidChar (hvalid _ himage)]

/-! ## The upper-case mapping -/

/-- The points that the upper-case mapping moves. -/
def smallPoints : List Nat :=
  movedPoints upperExpansions upperRuns

/-- The points that it moves them to. -/
def capitalPoints : List Nat :=
  imagePoints upperExpansions upperRuns

/-- White space, and the signs that stand for a slot of a pattern. -/
def reservedPoints : List Nat :=
  whiteSpace.points ++ ['*', '_', '^', '#'].map Char.toNat

/-- The letters whose capitals have a mark that is neither a letter nor a digit. -/
def markedPoints : List Nat := [
  0x1F0, 0x390, 0x3B0, 0x1E96, 0x1E97, 0x1E98, 0x1E99, 0x1F50, 0x1F52, 0x1F54, 0x1F56, 0x1FB6,
  0x1FB7, 0x1FC6, 0x1FC7, 0x1FD2, 0x1FD3, 0x1FD6, 0x1FD7, 0x1FE2, 0x1FE3, 0x1FE4, 0x1FE6, 0x1FE7,
  0x1FF6, 0x1FF7]

/-- Letters and digits as the bits of one number. -/
def letterMask : Nat :=
  alphabetic.maskBelow 0x20000 ||| numeric.maskBelow 0x20000

/-- What the tables are read for, in one go. No capital has a capital, none is reserved, and all are
characters. What is reserved is neither a letter nor a digit, and single capitals are letters. Of
the letters that have several capitals, the marked ones are those with one that is no letter. -/
theorem capital_tables :
    (mask smallPoints &&& mask capitalPoints = 0 ∧
      mask reservedPoints &&& mask capitalPoints = 0 ∧
      mask capitalPoints &&& validPoints.maskBelow 0x110000 = mask capitalPoints) ∧
    (mask reservedPoints &&& alphabetic.maskBelow 0x4000 = 0 ∧
      mask reservedPoints &&& numeric.maskBelow 0x4000 = 0) ∧
    mask (upperRuns.flatMap CaseRun.images) &&& alphabetic.maskBelow 0x20000 =
      mask (upperRuns.flatMap CaseRun.images) ∧
    (∀ e ∈ upperExpansions, (∀ m ∈ e.2, m < 0x20000) ∧
      e.2.all letterMask.testBit = !markedPoints.contains e.1) ∧
    ∀ n ∈ markedPoints, (expansion? upperExpansions n).isSome = true := by
  decide +kernel

theorem mask_capitalPoints : mask smallPoints &&& mask capitalPoints = 0 ∧
    mask reservedPoints &&& mask capitalPoints = 0 ∧
    mask capitalPoints &&& validPoints.maskBelow 0x110000 = mask capitalPoints :=
  capital_tables.1

theorem isValidChar_of_mem_capitalPoints : ∀ n ∈ capitalPoints, n.isValidChar :=
  isValidChar_of_mask mask_capitalPoints.2.2

theorem not_alphanumeric_of_mem_reservedPoints :
    ∀ n ∈ reservedPoints, alphabetic.contains n = false ∧ numeric.contains n = false := by
  have hbound : ∀ n ∈ reservedPoints, n < 0x4000 := by decide
  have hmask := capital_tables.2.1
  intro n hn
  exact ⟨alphabetic.not_contains_of_mask hmask.1 hn (hbound n hn),
    numeric.not_contains_of_mask hmask.2 hn (hbound n hn)⟩

theorem toNat_ofNat_of_mem_capitalPoints {n : Nat} (h : n ∈ capitalPoints) :
    (Char.ofNat n).toNat = n :=
  toNat_ofNat_of_isValidChar (isValidChar_of_mem_capitalPoints n h)

/-- A character that is moved is moved to a capital. -/
theorem toUpper_cases (c : Char) :
    toUpper c = [c] ∨ ∀ d ∈ toUpper c, d.toNat ∈ capitalPoints :=
  mapped_cases isValidChar_of_mem_capitalPoints c rfl

theorem toUpper_eq_self {c : Char} (h : c.toNat ∉ smallPoints) : toUpper c = [c] :=
  mapped_eq_self h rfl

/-- **Capitals are their own capitals.** -/
theorem toUpper_of_mem_toUpper {c d : Char} (h : d ∈ toUpper c) : toUpper d = [d] := by
  rcases toUpper_cases c with hself | hcapital
  · rw [hself, List.mem_singleton] at h
    rw [h, hself]
  · exact toUpper_eq_self (not_mem_of_mask mask_capitalPoints.1 (hcapital d h))

theorem toUpper_ne_nil (c : Char) : toUpper c ≠ [] := by
  have hne : ∀ e ∈ upperExpansions, e.2 ≠ [] := by decide
  unfold toUpper
  split
  · rename_i ns hns
    simpa using hne _ (mem_of_expansion?_eq_some hns)
  · simp

/-! ## Letters and digits -/

theorem not_reserved_of_isAlphanumeric {c : Char} (h : isAlphanumeric c = true) :
    c.toNat ∉ reservedPoints := by
  intro hc
  obtain ⟨hletter, hdigit⟩ := not_alphanumeric_of_mem_reservedPoints c.toNat hc
  simp [isAlphanumeric, isAlphabetic, isNumeric, hletter, hdigit] at h

/-- **No letter or digit becomes white space or a sign.** -/
theorem not_reserved_of_mem_toUpper {c d : Char} (hc : isAlphanumeric c = true)
    (hd : d ∈ toUpper c) : d.toNat ∉ reservedPoints := by
  rcases toUpper_cases c with hself | hcapital
  · rw [hself, List.mem_singleton] at hd
    rw [hd]
    exact not_reserved_of_isAlphanumeric hc
  · exact not_mem_of_mask mask_capitalPoints.2.1 (hcapital d hd)

theorem isAlphanumeric_ofNat_of_mem_capitalPoints {n : Nat} (h : n ∈ capitalPoints) :
    isAlphanumeric (Char.ofNat n) = (alphabetic.contains n || numeric.contains n) := by
  rw [isAlphanumeric, isAlphabetic, isNumeric, toNat_ofNat_of_mem_capitalPoints h]

/-- A single capital is a letter. -/
theorem contains_of_mem_images {r : CaseRun} (hr : r ∈ upperRuns) {n : Nat} (hn : n ∈ r.images) :
    alphabetic.contains n = true :=
  alphabetic.contains_of_mask capital_tables.2.2.1 (List.mem_flatMap.mpr ⟨r, hr, hn⟩)

theorem testBit_letterMask {n : Nat} (h : n < 0x20000) :
    letterMask.testBit n = (alphabetic.contains n || numeric.contains n) := by
  rw [letterMask, Nat.testBit_or, Boundaries.testBit_maskBelow, Boundaries.testBit_maskBelow,
    decide_eq_true h, Bool.true_and, Bool.true_and]

/-- Of the letters that have several capitals, the marked ones have one that is no letter. -/
theorem all_expansion_iff {n : Nat} {ns : List Nat} (h : (n, ns) ∈ upperExpansions) :
    (ns.all fun m => alphabetic.contains m || numeric.contains m) = true ↔ n ∉ markedPoints := by
  obtain ⟨hbound, hmarked⟩ := capital_tables.2.2.2.1 _ h
  have hletters : (ns.all fun m => alphabetic.contains m || numeric.contains m) =
      ns.all letterMask.testBit := by
    rw [Bool.eq_iff_iff, List.all_eq_true, List.all_eq_true]
    refine forall₂_congr fun m hm => ?_
    rw [testBit_letterMask (hbound m hm)]
  rw [hletters, hmarked]
  simp

/-- **The capitals of a letter or digit are letters and digits, unless it is a marked one.** -/
theorem all_toUpper_iff {c : Char} (hc : isAlphanumeric c = true) :
    (toUpper c).all isAlphanumeric = true ↔ c.toNat ∉ markedPoints := by
  unfold toUpper
  split
  · rename_i ns hns
    have hmem := mem_of_expansion?_eq_some hns
    have hcapital : ∀ n ∈ ns, n ∈ capitalPoints := fun n hn =>
      mem_imagePoints_of_expansion hns hn
    rw [← all_expansion_iff hmem, List.all_map, List.all_eq_true, List.all_eq_true]
    refine forall_congr' fun n => imp_congr_right fun hn => ?_
    rw [Function.comp_apply, isAlphanumeric_ofNat_of_mem_capitalPoints (hcapital n hn)]
  · rename_i hnone
    have hplain : c.toNat ∉ markedPoints := by
      intro hmarked
      have hsome := capital_tables.2.2.2.2 c.toNat hmarked
      rw [hnone] at hsome
      cases hsome
    have hletter : isAlphanumeric (Char.ofNat (CaseRun.apply upperRuns c.toNat)) = true := by
      rcases CaseRun.apply_cases upperRuns c.toNat with hself | ⟨r, hr, himage⟩
      · rw [hself, Char.ofNat_toNat, hc]
      · have hcapital : _ ∈ capitalPoints := mem_imagePoints_of_run hr himage
        rw [isAlphanumeric_ofNat_of_mem_capitalPoints hcapital, contains_of_mem_images hr himage]
        rfl
    simp [hletter, hplain]

theorem isBlank_eq_false_of_not_reserved {c : Char} (h : c.toNat ∉ reservedPoints) :
    isBlank c = false := by
  cases hblank : isBlank c with
  | false => rfl
  | true => exact absurd (List.mem_append_left _ (whiteSpace.mem_points_of_contains rfl hblank)) h

/-- No character becomes white space. -/
theorem isBlank_eq_false_of_mem_toUpper {c d : Char} (hc : isBlank c = false)
    (hd : d ∈ toUpper c) : isBlank d = false := by
  rcases toUpper_cases c with hself | hcapital
  · rw [hself, List.mem_singleton] at hd
    rwa [hd]
  · exact isBlank_eq_false_of_not_reserved
      (not_mem_of_mask mask_capitalPoints.2.1 (hcapital d hd))

/-- White space is neither a letter nor a digit. -/
theorem isAlphanumeric_eq_false_of_isBlank {c : Char} (h : isBlank c = true) :
    isAlphanumeric c = false := by
  cases hletter : isAlphanumeric c with
  | false => rfl
  | true =>
    rw [isBlank_eq_false_of_not_reserved (not_reserved_of_isAlphanumeric hletter)] at h
    cases h

end Unicode

namespace Text

open Unicode

/-- A text in upper case is in upper case. -/
@[simp] theorem upper_upper (t : Text) : t.upper.upper = t.upper := by
  induction t with
  | nil => rfl
  | cons c cs ih =>
    have hself : (toUpper c).flatMap toUpper = toUpper c := by
      have hmem : ∀ d ∈ toUpper c, toUpper d = [d] := fun d hd => toUpper_of_mem_toUpper hd
      rw [List.flatMap_def, List.map_congr_left hmem, ← List.flatMap_def, List.flatMap_singleton']
    have hcons : upper (c :: cs) = toUpper c ++ upper cs := rfl
    rw [hcons, upper_append, ih]
    exact congrArg (· ++ upper cs) hself

theorem all_upper_iff {t : Text} (h : t.all isAlphanumeric = true) :
    t.upper.all isAlphanumeric = true ↔ ∀ c ∈ t, c.toNat ∉ markedPoints := by
  have hchars : t.upper.all isAlphanumeric = t.all fun c => (toUpper c).all isAlphanumeric :=
    List.all_flatMap
  rw [hchars, List.all_eq_true]
  exact forall₂_congr fun c hc => all_toUpper_iff (List.all_eq_true.mp h c hc)

theorem upper_ne_nil {t : Text} (h : t ≠ []) : t.upper ≠ [] := by
  obtain ⟨c, cs, rfl⟩ := List.exists_cons_of_ne_nil h
  simp [upper, toUpper_ne_nil]

end Text

end Colloquy
