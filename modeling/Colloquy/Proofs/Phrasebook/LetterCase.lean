import Colloquy.Proofs.Phrasebook.Recasting
import Colloquy.Proofs.Phrasebook.Segmenting
import Colloquy.Proofs.Text.Ascii
import Colloquy.Proofs.Trie.Forms

/-!
# Letter case and matching

The letter case of a text decides in which letter case a replacement is written, so texts that
differ in it are read as words that are written in different ways. But they are compared in
capitals: among ASCII texts, what is written anew has the same capitals whatever the letter case of
the text is, and so it is matched by the same rule.

* `Text.SameCapitals` — ASCII texts that are the same in capitals.
* `Phrasebook.sameCapitals_rewrite_lower` — a text may be put in lower case before it is written
  anew.
* `Text.SameCapitals.map_form_toWords` — the words of such texts have the same forms.
* `Phrasebook.forms_read_of_lower_eq` — letter case has no part in matching.
-/

namespace Colloquy

open Unicode

namespace Text

/-- ASCII texts that are the same in capitals. -/
structure SameCapitals (s t : Text) : Prop where
  left : s.IsAscii
  right : t.IsAscii
  upper_eq : s.upper = t.upper

variable {s s' t t' : Text}

theorem SameCapitals.append (hs : s.SameCapitals s') (ht : t.SameCapitals t') :
    SameCapitals (s ++ t) (s' ++ t') where
  left := isAscii_append.mpr ⟨hs.left, ht.left⟩
  right := isAscii_append.mpr ⟨hs.right, ht.right⟩
  upper_eq := by rw [upper_append, upper_append, hs.upper_eq, ht.upper_eq]

theorem IsAscii.sameCapitals_lower (h : t.IsAscii) : t.SameCapitals t.lower :=
  ⟨h, h.lower, h.upper_lower.symm⟩

/-! ## The words of such texts -/

/-- The forms of the words of a text are the words of its capitals. -/
theorem IsAscii.map_form_toWords (h : t.IsAscii) :
    t.toWords.map Word.form = t.upper.pieces (!isAlphanumeric ·) := by
  have hcut : (t.splitWhere (!isAlphanumeric ·)).map Text.upper =
      t.upper.splitWhere (!isAlphanumeric ·) := by
    refine h.map_upper_splitWhere fun c hc => ?_
    rw [(isPlain_of_lt (h c hc)).isAlphanumeric_toUpper]
  have hempty : ((fun part : Text => decide (part ≠ [])) ∘ Text.upper) =
      fun part => decide (part ≠ []) := by
    funext part
    by_cases hpart : part = []
    · subst hpart
      rfl
    · simp [hpart, upper_ne_nil hpart]
  rw [toWords, List.map_map, pieces, pieces, ← hcut, List.filter_map, hempty]
  rfl

/-- **Texts that are the same in capitals have words of the same forms.** -/
theorem SameCapitals.map_form_toWords (h : s.SameCapitals t) :
    s.toWords.map Word.form = t.toWords.map Word.form := by
  rw [h.left.map_form_toWords, h.right.map_form_toWords, h.upper_eq]

end Text

namespace Phrasebook

variable {b : Phrasebook} {s t : Text}

/-! ## Writing anew -/

theorem likeness_sameCapitals (hb : ∀ e ∈ b.entries.entries, Text.IsAscii e.2) :
    b.Likeness Text.SameCapitals where
  nil := ⟨by decide, by decide, rfl⟩
  append := Text.SameCapitals.append
  inCaseOf := by
    intro m m' e he _
    refine ⟨(hb e he).inCaseOf m, (hb e he).inCaseOf m', ?_⟩
    rw [(hb e he).upper_inCaseOf, (hb e he).upper_inCaseOf]

/-- A word on its own may be put in lower case: its beginning is looked up in lower case anyway. -/
theorem sameCapitals_alone (hb : ∀ e ∈ b.entries.entries, Text.IsAscii e.2) (ht : t.IsAscii) :
    Text.SameCapitals ((b.headReplaced? t).getD t) ((b.headReplaced? t.lower).getD t.lower) := by
  have hsame := ht.sameCapitals_lower
  have hspan := ht.span_lower
  have hjoin : (t.span (· ≠ '\'')).1 ++ (t.span (· ≠ '\'')).2 = t := by
    rw [List.span_eq_takeWhile_dropWhile, List.takeWhile_append_dropWhile]
  rw [headReplaced?, headReplaced?, hspan]
  generalize t.span (· ≠ '\'') = parts at hjoin
  obtain ⟨head, tail⟩ := parts
  obtain ⟨hhead, htail⟩ := Text.isAscii_append.mp (hjoin ▸ ht)
  dsimp only
  by_cases hempty : tail = []
  · subst hempty
    exact hsame
  · rw [if_neg hempty, if_neg (Text.lower_ne_nil hempty), Text.lower_lower]
    cases hfind : b.entries.find? (Text.lower head) with
    | none => exact hsame
    | some v =>
      have hv := Dict.find?_eq_some_iff.mp hfind
      have hput := (likeness_sameCapitals hb).inCaseOf hv (Text.IsAscii.sameCapitals_lower hhead)
      exact hput.append (Text.IsAscii.sameCapitals_lower htail)

theorem alike_lower (hb : ∀ e ∈ b.entries.entries, Text.IsAscii e.2) (ht : t.IsAscii) {r : Run}
    (hr : r ∈ t.runs) : b.Alike Text.SameCapitals Text.lower r := by
  have hascii : Text.IsAscii r.chars := Text.forall_mem_of_mem_runs ht hr
  exact {
    chars := hascii.sameCapitals_lower
    isBlankText_eq := hascii.isBlankText_lower
    lower_eq := fun _ => Text.lower_lower r.chars
    alone := fun _ => sameCapitals_alone hb hascii }

/-- **A text may be put in lower case before it is written anew.** -/
theorem sameCapitals_rewrite_lower (hb : ∀ e ∈ b.entries.entries, Text.IsAscii e.2)
    (ht : t.IsAscii) : Text.SameCapitals (b.rewrite t) (b.rewrite t.lower) := by
  rw [rewrite, rewrite, ht.runs_lower]
  exact rewriteRuns_recast (likeness_sameCapitals hb) fun r hr => alike_lower hb ht hr

/-! ## Reading and matching -/

theorem map_form_read_lower (hb : ∀ e ∈ b.entries.entries, Text.IsAscii e.2) (ht : t.IsAscii) :
    (b.read t.lower).map Word.form = (b.read t).map Word.form := by
  rw [read_eq, read_eq]
  exact (sameCapitals_rewrite_lower hb ht).map_form_toWords.symm

/-- **Letter case has no part in matching.** By a phrasebook with ASCII replacements, ASCII texts
that differ in letter case alone are read as words of the same forms; so whatever the bot is called
and whatever the context and the topic are, every trie finds the same rule for them, and its
wildcards stand for the same stretches. -/
theorem forms_read_of_lower_eq (hb : ∀ e ∈ b.entries.entries, Text.IsAscii e.2) {x y : Text}
    (hx : x.IsAscii) (hy : y.IsAscii) (h : x.lower = y.lower) :
    (b.read x).map Word.form = (b.read y).map Word.form ∧
      ∀ {α : Type} (t : Trie α) (name context topic : List Word),
        t.find? (.ofWords (b.read x) context topic) name =
          t.find? (.ofWords (b.read y) context topic) name := by
  have hforms : (b.read x).map Word.form = (b.read y).map Word.form := by
    rw [← map_form_read_lower hb hx, h, map_form_read_lower hb hy]
  refine ⟨hforms, fun t name context topic => ?_⟩
  exact t.find?_congr name (Query.SameForms.ofWords hforms context topic)

/-- A phrase and the beginning of a contraction. -/
def smallHours : Phrasebook :=
  afterInserts [("good night".toList, "sleep well".toList), ("what".toList, "how".toList)]

/-- The text is read as words in capitals, as capitalised words or as small ones. -/
theorem forms_read_of_lower_eq_smallHours :
    (∀ e ∈ smallHours.entries.entries, Text.IsAscii e.2) ∧
      Text.lower "WHAT'S up? GOOD NIGHT.".toList = Text.lower "What's UP? good Night.".toList ∧
      smallHours.rewrite "WHAT'S up? GOOD NIGHT.".toList = "HOW'S up? SLEEP WELL.".toList ∧
      smallHours.rewrite "What's UP? good Night.".toList = "How's UP? sleep well.".toList ∧
      (smallHours.read "WHAT'S up? GOOD NIGHT.".toList).map Word.form =
        (smallHours.read "What's UP? good Night.".toList).map Word.form := by
  have hascii : ∀ e ∈ smallHours.entries.entries, Text.IsAscii e.2 := by decide +kernel
  have hlower : Text.lower "WHAT'S up? GOOD NIGHT.".toList =
      Text.lower "What's UP? good Night.".toList := by decide +kernel
  refine ⟨hascii, hlower, by decide +kernel, by decide +kernel, ?_⟩
  exact (forms_read_of_lower_eq hascii (by decide) (by decide) hlower).1

end Phrasebook

end Colloquy
