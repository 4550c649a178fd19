import Colloquy.Proofs.Phrasebook.Phrases
import Colloquy.Proofs.Phrasebook.Scanning
import Colloquy.Proofs.Text.Casing

/-!
# Passages

What is written anew is a sequence of passages: some are kept from the text, others are put in
instead of a text. Which ones they are does not depend on letter case rules; those come in when a
replacement is adjusted to the text that it covers. So a text that is written anew can be compared
with the same text in which every replacement stands as it is stored.

Where a text has no capitals, a replacement should stay as it is stored. It is put into capitals
all the same if the text it covers has several letters and none of them is small, as in a script
without letter case.

* `Phrasebook.passages`, `Phrasebook.rewriteRuns_eq_flatMap_passages` — what is written, passage by
  passage.
* `Phrasebook.flatMap_source_passages` — the passages cover the text.
* `Phrasebook.rewriteWith` — a text written anew by another rule of letter case.
* `Phrasebook.rewrite_eq_rewriteAsStored_iff` — when a text without capitals is written anew with
  its replacements as they are stored.
-/

namespace Colloquy

open Unicode

/-- A part of what is written. -/
inductive Passage where
  /-- It is kept from the text. -/
  | kept (text : Text)
  /-- It is put in instead of the text that it covers. -/
  | put (covered replacement : Text)
  deriving DecidableEq, Repr

namespace Passage

/-- The part of the text that it stands for. -/
def source : Passage → Text
  | kept text => text
  | put covered _ => covered

/-- What is written for it, where `adjust` fits a replacement to the text that it covers. -/
def write (adjust : Text → Text → Text) : Passage → Text
  | kept text => text
  | put covered replacement => adjust covered replacement

end Passage

namespace Phrasebook

variable {b : Phrasebook} {r : Run} {rs : List Run} {hit : Hit}

/-- The passages of a word whose part before the first apostrophe is a phrase. -/
def headPassages? (b : Phrasebook) (word : Text) : Option (List Passage) :=
  let (head, tail) := word.span (· ≠ '\'')
  if tail = [] then none
  else (b.entries.find? (Text.lower head)).map fun v => [.put head v, .kept tail]

/-- The passages of some runs, from left to right. -/
def passages (b : Phrasebook) : List Run → List Passage
  | [] => []
  | r :: rs =>
    if r.isWord then
      match b.hitAt? r.chars rs with
      | some hit => .put hit.covered hit.replacement :: b.passages (rs.drop hit.taken)
      | none => (b.headPassages? r.chars).getD [.kept r.chars] ++ b.passages rs
    else .kept r.chars :: b.passages rs
  termination_by rs => rs.length
  decreasing_by all_goals simp only [List.length_drop, List.length_cons]; omega

/-! ## What the passages write and what they cover -/

theorem passages_cons_of_not_word (hr : r.isWord = false) :
    b.passages (r :: rs) = .kept r.chars :: b.passages rs := by
  rw [passages, hr]
  rfl

theorem passages_cons_of_hit (hr : r.isWord = true) (h : b.hitAt? r.chars rs = some hit) :
    b.passages (r :: rs) =
      .put hit.covered hit.replacement :: b.passages (rs.drop hit.taken) := by
  rw [passages, hr, h]
  rfl

theorem passages_cons_of_no_hit (hr : r.isWord = true) (h : b.hitAt? r.chars rs = none) :
    b.passages (r :: rs) =
      (b.headPassages? r.chars).getD [.kept r.chars] ++ b.passages rs := by
  rw [passages, hr, h]
  rfl

/-- The passages of a word on its own write what is written for it. -/
theorem flatMap_write_headPassages? (b : Phrasebook) (word : Text) :
    ((b.headPassages? word).getD [.kept word]).flatMap (Passage.write Text.inCaseOf) =
      (b.headReplaced? word).getD word := by
  rw [headPassages?, headReplaced?]
  rcases word.span (· ≠ '\'') with ⟨head, tail⟩
  dsimp only
  split
  · simp [Passage.write]
  · cases b.entries.find? (Text.lower head) <;> simp [Passage.write]

theorem flatMap_source_headPassages? (b : Phrasebook) (word : Text) :
    ((b.headPassages? word).getD [.kept word]).flatMap Passage.source = word := by
  have hjoin : (word.span (· ≠ '\'')).1 ++ (word.span (· ≠ '\'')).2 = word := by
    rw [List.span_eq_takeWhile_dropWhile, List.takeWhile_append_dropWhile]
  rw [headPassages?]
  generalize word.span (· ≠ '\'') = parts at hjoin
  obtain ⟨head, tail⟩ := parts
  dsimp only at hjoin ⊢
  split
  · simp [Passage.source]
  · cases b.entries.find? (Text.lower head) <;> simp [Passage.source, hjoin]

/-- **A text is written anew passage by passage.** -/
theorem rewriteRuns_eq_flatMap_passages (b : Phrasebook) (rs : List Run) :
    b.rewriteRuns rs = (b.passages rs).flatMap (Passage.write Text.inCaseOf) := by
  induction rs using rewriteRuns.induct b with
  | case1 => rw [rewriteRuns_nil, passages]; rfl
  | case2 r rs hword hit hhit ih =>
    rw [rewriteRuns_cons_of_hit hword hhit, passages_cons_of_hit hword hhit, ih]
    rfl
  | case3 r rs hword hhit ih =>
    rw [rewriteRuns_cons_of_no_hit hword hhit, passages_cons_of_no_hit hword hhit,
      List.flatMap_append, flatMap_write_headPassages?, ih]
  | case4 r rs hword ih =>
    have hnot : r.isWord = false := eq_false_of_ne_true hword
    rw [rewriteRuns_cons_of_not_word hnot, passages_cons_of_not_word hnot, ih]
    rfl

/-- What a hit covers and the runs it leaves are the runs it was looked up in. -/
theorem covered_append_drop {word : Text} (h : b.hitAt? word rs = some hit) :
    hit.covered ++ (rs.drop hit.taken).flatMap Run.chars = word ++ rs.flatMap Run.chars := by
  rw [covered_eq_of_hitAt? h, List.append_assoc, ← List.flatMap_append, List.take_append_drop]

/-- **The passages cover the runs**, each of them once and in order. -/
theorem flatMap_source_passages (b : Phrasebook) (rs : List Run) :
    (b.passages rs).flatMap Passage.source = rs.flatMap Run.chars := by
  induction rs using rewriteRuns.induct b with
  | case1 => rw [passages]; rfl
  | case2 r rs hword hit hhit ih =>
    rw [passages_cons_of_hit hword hhit, List.flatMap_cons, List.flatMap_cons, ih]
    exact covered_append_drop hhit
  | case3 r rs hword hhit ih =>
    rw [passages_cons_of_no_hit hword hhit, List.flatMap_append, flatMap_source_headPassages?, ih]
    rfl
  | case4 r rs hword ih =>
    rw [passages_cons_of_not_word (eq_false_of_ne_true hword), List.flatMap_cons, ih]
    rfl

/-! ## Other rules of letter case -/

/-- A text written anew where replacements are adjusted in another way. -/
def rewriteWith (b : Phrasebook) (adjust : Text → Text → Text) (t : Text) : Text :=
  (b.passages t.runs).flatMap (Passage.write adjust)

/-- A text written anew with every replacement as it is stored. -/
def rewriteAsStored (b : Phrasebook) (t : Text) : Text :=
  b.rewriteWith (fun _ replacement => replacement) t

theorem rewrite_eq_rewriteWith (b : Phrasebook) (t : Text) :
    b.rewrite t = b.rewriteWith Text.inCaseOf t :=
  rewriteRuns_eq_flatMap_passages b t.runs

variable {t covered replacement : Text}

/-- A passage stands for a part of the text. -/
theorem mem_of_mem_source {p : Passage} (h : p ∈ b.passages t.runs) : ∀ c ∈ p.source, c ∈ t := by
  intro c hc
  rw [← Text.flatMap_chars_runs t, ← flatMap_source_passages b t.runs]
  exact List.mem_flatMap.mpr ⟨p, h, hc⟩

theorem length_flatMap_le {α β : Type} {f g : α → List β} {xs : List α}
    (h : ∀ x ∈ xs, (g x).length ≤ (f x).length) :
    (xs.flatMap g).length ≤ (xs.flatMap f).length := by
  induction xs with
  | nil => exact Nat.le_refl _
  | cons x xs ih =>
    obtain ⟨hx, hxs⟩ := List.forall_mem_cons.mp h
    rw [List.flatMap_cons, List.flatMap_cons, List.length_append, List.length_append]
    exact Nat.add_le_add hx (ih hxs)

/-- Texts that are put together from parts, the one from parts that are no shorter than those of the
other, are the same when their parts are. -/
theorem flatMap_eq_flatMap_iff {α β : Type} {f g : α → List β} {xs : List α}
    (h : ∀ x ∈ xs, (g x).length ≤ (f x).length) :
    xs.flatMap f = xs.flatMap g ↔ ∀ x ∈ xs, f x = g x := by
  constructor
  · intro heq
    induction xs with
    | nil => simp
    | cons x xs ih =>
      obtain ⟨hx, hxs⟩ := List.forall_mem_cons.mp h
      rw [List.flatMap_cons, List.flatMap_cons] at heq
      have hrest := length_flatMap_le hxs
      have hlen := congrArg List.length heq
      rw [List.length_append, List.length_append] at hlen
      obtain ⟨hfirst, hothers⟩ := List.append_inj heq (by omega)
      exact List.forall_mem_cons.mpr ⟨hfirst, ih hxs hothers⟩
  · intro hall
    rw [List.flatMap_def, List.flatMap_def, List.map_congr_left hall]

/-! ## Texts without capitals -/

/-- In a text without capitals, a replacement is raised where the text that it covers is shouted,
and stays as it is stored elsewhere. -/
theorem write_eq_of_no_capital (ht : ∀ c ∈ t, isUppercase c = false) {p : Passage}
    (hp : p ∈ b.passages t.runs) : p.write Text.inCaseOf =
      p.write fun covered replacement =>
        if covered.isShouted then replacement.upper else replacement := by
  cases p with
  | kept text => rfl
  | put covered replacement =>
    exact Text.inCaseOf_of_no_capital (fun c hc => ht c (mem_of_mem_source hp c hc)) replacement

/-- **When a text without capitals is written anew with its replacements as they are stored.** Where
what is covered has several letters and none of them is small, its replacement is put into capitals
instead, although none of the letters is a capital either; so the replacements stay as they are
stored if and only if these are not changed by that. -/
theorem rewrite_eq_rewriteAsStored_iff (b : Phrasebook) (ht : ∀ c ∈ t, isUppercase c = false) :
    b.rewrite t = b.rewriteWith (fun covered replacement =>
        if covered.isShouted then replacement.upper else replacement) t ∧
      (b.rewrite t = b.rewriteAsStored t ↔
        ∀ covered replacement, Passage.put covered replacement ∈ b.passages t.runs →
          1 < (covered.filter isAlphabetic).length →
          (∀ c ∈ covered, isAlphabetic c = true →
            isLowercase c = false ∧ isUppercase c = false) →
          replacement.upper = replacement) := by
  have hraised : b.rewrite t = b.rewriteWith (fun covered replacement =>
      if covered.isShouted then replacement.upper else replacement) t := by
    rw [rewrite_eq_rewriteWith, rewriteWith, rewriteWith, List.flatMap_def, List.flatMap_def,
      List.map_congr_left fun p hp => write_eq_of_no_capital ht hp]
  refine ⟨hraised, ?_⟩
  have hlonger : ∀ p ∈ b.passages t.runs,
      (p.write fun _ replacement => replacement).length ≤
        (p.write fun covered replacement =>
          if covered.isShouted then replacement.upper else replacement).length := by
    intro p _
    cases p with
    | kept text => exact Nat.le_refl _
    | put covered replacement =>
      simp only [Passage.write]
      split
      · exact Text.length_le_length_upper replacement
      · exact Nat.le_refl _
  rw [hraised, rewriteAsStored, rewriteWith, rewriteWith, flatMap_eq_flatMap_iff hlonger]
  constructor
  · intro hsame covered replacement hp hmany hno
    have hshouted : covered.isShouted = true :=
      Text.isShouted_iff.mpr ⟨hmany, fun c hc hletter => (hno c hc hletter).1⟩
    have hput := hsame _ hp
    simpa only [Passage.write, hshouted, if_true] using hput
  · intro hstays p hp
    cases p with
    | kept text => rfl
    | put covered replacement =>
      simp only [Passage.write]
      split
      · rename_i hshouted
        obtain ⟨hmany, hno⟩ := Text.isShouted_iff.mp hshouted
        refine hstays covered replacement hp hmany fun c hc hletter => ⟨hno c hc hletter, ?_⟩
        exact ht c (mem_of_mem_source hp c hc)
      · rfl

/-- A greeting in a script without letter case, its first word on its own, and a word with letter
case. -/
def greeting : Phrasebook :=
  afterInserts [("你好".toList, "hello".toList), ("你".toList, "you".toList),
    ("he".toList, "she".toList)]

/-- A contraction, and a single letter without letter case. -/
def encounter : Text := "he'd met 你".toList

/-- Small letters and a single letter without letter case are replaced by what is stored. -/
theorem rewrite_eq_rewriteAsStored_encounter :
    (∀ c ∈ encounter, isUppercase c = false) ∧
      greeting.rewrite encounter = greeting.rewriteAsStored encounter ∧
      greeting.rewriteAsStored encounter = "she'd met you".toList := by
  have hno : ∀ c ∈ encounter, isUppercase c = false := by
    have hall : encounter.all (!isUppercase ·) = true := by decide +kernel
    exact fun c hc => by simpa using List.all_eq_true.mp hall c hc
  have hpassages : greeting.passages encounter.runs =
      [.put "he".toList "she".toList, .kept "'d".toList, .kept " ".toList, .kept "met".toList,
        .kept " ".toList, .put "你".toList "you".toList] := by decide +kernel
  have hstored : greeting.rewriteAsStored encounter = "she'd met you".toList := by
    rw [rewriteAsStored, rewriteWith, hpassages]
    decide
  refine ⟨hno, (rewrite_eq_rewriteAsStored_iff greeting hno).2.mpr ?_, hstored⟩
  intro covered replacement hput hmany hletters
  rw [hpassages] at hput
  simp only [List.mem_cons, Passage.put.injEq, reduceCtorEq, false_or, List.not_mem_nil,
    or_false] at hput
  rcases hput with ⟨rfl, rfl⟩ | ⟨rfl, rfl⟩
  · exact absurd (hletters 'h' (by decide) (by decide +kernel)).1 (by decide +kernel)
  · exact absurd hmany (by decide +kernel)

/-- Several letters without letter case are taken for capitals. -/
theorem rewrite_greeting_raised :
    (∀ c ∈ "你好".toList, isUppercase c = false) ∧
      greeting.rewriteAsStored "你好".toList = "hello".toList ∧
      greeting.rewrite "你好".toList = "HELLO".toList := by
  have hno : "你好".toList.all (!isUppercase ·) = true := by decide +kernel
  refine ⟨fun c hc => ?_, by decide +kernel, by decide +kernel⟩
  simpa using List.all_eq_true.mp hno c hc

end Phrasebook

end Colloquy
