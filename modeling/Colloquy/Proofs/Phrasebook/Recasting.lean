import Colloquy.Proofs.Phrasebook.Lookup
import Colloquy.Proofs.Text.Runs

/-!
# Runs that are changed

A phrase is looked up by the words of the text in lower case and by the white space between them.
If the runs of a text are changed without a change in these, the same phrases are found at the same
places, so what is written differs by what was changed and by the letter case of what is put in.

* `Phrasebook.Likeness` — a relation of texts that writing them anew respects part by part.
* `Phrasebook.Alike` — a run that is changed without a phrasebook telling the difference.
* `Phrasebook.hitAt?_recast` — the same is found.
* `Phrasebook.rewriteRuns_recast` — what is written is alike.
-/

namespace Colloquy

namespace Phrasebook

/-- What is found, apart from the text that it covers. -/
def Hit.found (h : Hit) : Text × Nat :=
  (h.replacement, h.taken)

/-- Texts may be taken for each other part by part, and so may replacements that take over the
letter case of one or the other. -/
structure Likeness (b : Phrasebook) (T : Text → Text → Prop) : Prop where
  nil : T [] []
  append : ∀ {s s' t t' : Text}, T s s' → T t t' → T (s ++ t) (s' ++ t')
  inCaseOf : ∀ {m m' : Text} {e : Text × Text}, e ∈ b.entries.entries → T m m' →
    T (Text.inCaseOf m e.2) (Text.inCaseOf m' e.2)

/-- The run is changed without a difference to a look-up: what it becomes may be taken for it, also
where it is a word that is written anew on its own. -/
structure Alike (b : Phrasebook) (T : Text → Text → Prop) (f : Text → Text) (r : Run) : Prop where
  chars : T r.chars (f r.chars)
  isBlankText_eq : (f r.chars).isBlankText = r.chars.isBlankText
  lower_eq : r.isWord = true → (f r.chars).lower = r.chars.lower
  alone : r.isWord = true →
    T ((b.headReplaced? r.chars).getD r.chars) ((b.headReplaced? (f r.chars)).getD (f r.chars))

variable {b : Phrasebook} {T : Text → Text → Prop} {f : Text → Text} {r : Run} {rs : List Run}

theorem Alike.isGap_eq (h : b.Alike T f r) : (r.recast f).isGap = r.isGap := by
  rw [Run.isGap, Run.isGap, Run.recast, h.isBlankText_eq]

/-- Runs that are changed one by one are alike as a whole. -/
theorem Likeness.flatMap_recast (hT : b.Likeness T) (hrs : ∀ r ∈ rs, b.Alike T f r) :
    T (rs.flatMap Run.chars) ((rs.map (Run.recast f)).flatMap Run.chars) := by
  induction rs with
  | nil => exact hT.nil
  | cons r rs ih =>
    obtain ⟨hr, hrs⟩ := List.forall_mem_cons.mp hrs
    exact hT.append hr.chars (ih hrs)

/-! ## Looking up -/

/-- A look-up finds the same phrase in as many runs, whatever it has covered before. -/
theorem longestHit?_recast (hrs : ∀ r ∈ rs, b.Alike T f r) (phrase covered covered' : Text)
    (taken room : Nat) :
    (b.longestHit? phrase covered' taken room (rs.map (Run.recast f))).map Hit.found =
      (b.longestHit? phrase covered taken room rs).map Hit.found := by
  induction phrase, covered, taken, room, rs using longestHit?.induct b generalizing covered' with
  | case1 phrase covered taken room gap r rs hnext ih =>
    obtain ⟨hgap, hword⟩ := Bool.and_eq_true_iff.mp hnext
    obtain ⟨halike, hrest⟩ := List.forall_mem_cons.mp hrs
    obtain ⟨hr, hrs⟩ := List.forall_mem_cons.mp hrest
    have hgap' : (gap.recast f).isGap = true := by rw [halike.isGap_eq, hgap]
    have hword' : (r.recast f).isWord = true := hword
    have hlower : (r.recast f).chars.lower = r.chars.lower := hr.lower_eq hword
    rw [List.map_cons, List.map_cons, longestHit?_of_next hgap' hword',
      longestHit?_of_next hgap hword, Option.map_or, Option.map_or, hlower, ih hrs,
      Option.map_map, Option.map_map]
    rfl
  | case2 phrase covered taken room gap r rs hnext =>
    obtain ⟨halike, -⟩ := List.forall_mem_cons.mp hrs
    have hnext' : ¬ ((gap.recast f).isGap && (r.recast f).isWord) = true := by
      rwa [halike.isGap_eq]
    rw [List.map_cons, List.map_cons,
      longestHit?_of_stop fun more ws hreach => hreach.eq_nil_of_not_next hnext,
      longestHit?_of_stop fun more ws hreach => hreach.eq_nil_of_not_next hnext',
      Option.map_map, Option.map_map]
    rfl
  | case3 room phrase covered taken rs hshort =>
    have hshort' : ∀ n g r rest, room = Nat.succ n → rs.map (Run.recast f) = g :: r :: rest →
        False := by
      intro n g r rest hroom hmap
      rcases rs with _ | ⟨g, _ | ⟨r, rs⟩⟩
      · cases hmap
      · cases hmap
      · exact hshort n g r rs hroom rfl
    rw [longestHit?_of_stop fun more ws hreach => hreach.eq_nil_of_short hshort,
      longestHit?_of_stop fun more ws hreach => hreach.eq_nil_of_short hshort',
      Option.map_map, Option.map_map]
    rfl

/-- **At a word that is changed the same is found.** -/
theorem hitAt?_recast (hr : b.Alike T f r) (hword : r.isWord = true)
    (hrs : ∀ r ∈ rs, b.Alike T f r) :
    (b.hitAt? (r.recast f).chars (rs.map (Run.recast f))).map Hit.found =
      (b.hitAt? r.chars rs).map Hit.found := by
  have hlower : (r.recast f).chars.lower = r.chars.lower := hr.lower_eq hword
  rw [hitAt?, hitAt?, hlower]
  exact longestHit?_recast hrs _ _ _ _ _

/-! ## Writing anew -/

/-- **What is written for runs that are changed is alike.** -/
theorem rewriteRuns_recast (hT : b.Likeness T) (hrs : ∀ r ∈ rs, b.Alike T f r) :
    T (b.rewriteRuns rs) (b.rewriteRuns (rs.map (Run.recast f))) := by
  induction rs using rewriteRuns.induct b with
  | case1 =>
    rw [List.map_nil, rewriteRuns_nil]
    exact hT.nil
  | case2 r rs hword hit hhit ih =>
    obtain ⟨hr, hrs⟩ := List.forall_mem_cons.mp hrs
    have hword' : (r.recast f).isWord = true := hword
    have hsame := hitAt?_recast hr hword hrs
    rw [hhit] at hsame
    obtain ⟨hit', hhit', hfound⟩ := Option.map_eq_some_iff.mp hsame
    obtain ⟨hreplacement, htaken⟩ := Prod.mk.inj hfound
    obtain ⟨more, ws, htakes⟩ := exists_takes_of_hitAt? hhit
    have hcovered : T hit.covered hit'.covered := by
      rw [covered_eq_of_hitAt? hhit, covered_eq_of_hitAt? hhit', htaken, ← List.map_take]
      exact hT.append hr.chars (hT.flatMap_recast fun s hs => hrs s (List.mem_of_mem_take hs))
    have hrest := ih fun s hs => hrs s (List.mem_of_mem_drop hs)
    rw [List.map_cons, rewriteRuns_cons_of_hit hword hhit, rewriteRuns_cons_of_hit hword' hhit',
      hreplacement, htaken, ← List.map_drop]
    exact hT.append (hT.inCaseOf (Dict.find?_eq_some_iff.mp htakes.find) hcovered) hrest
  | case3 r rs hword hhit ih =>
    obtain ⟨hr, hrs⟩ := List.forall_mem_cons.mp hrs
    have hword' : (r.recast f).isWord = true := hword
    have hsame := hitAt?_recast hr hword hrs
    rw [hhit] at hsame
    have hhit' := Option.map_eq_none_iff.mp hsame
    rw [List.map_cons, rewriteRuns_cons_of_no_hit hword hhit,
      rewriteRuns_cons_of_no_hit hword' hhit']
    exact hT.append (hr.alone hword) (ih hrs)
  | case4 r rs hword ih =>
    have hnot : r.isWord = false := eq_false_of_ne_true hword
    have hnot' : (r.recast f).isWord = false := hnot
    obtain ⟨hr, hrs⟩ := List.forall_mem_cons.mp hrs
    rw [List.map_cons, rewriteRuns_cons_of_not_word hnot, rewriteRuns_cons_of_not_word hnot']
    exact hT.append hr.chars (ih hrs)

end Phrasebook

end Colloquy
