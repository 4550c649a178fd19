import Colloquy.Proofs.Phrasebook.Lookup
import Colloquy.Proofs.Phrasebook.Phrases
import Colloquy.Proofs.Text.Runs
import Mathlib.Data.List.TakeDrop
import Mathlib.Data.List.TakeWhile

/-!
# Rewriting is a scan

The look-up of a phrase is bounded by the longest phrase and tries longer phrases first. None of
this shows in what is written: it is what a scan writes that, at every word, looks through all
entries for one that says as many words as possible, and that knows nothing of the longest phrase.

* `Says` — when some runs say some words.
* `Scan` — what is written instead of some runs.
* `Phrasebook.Kept.hitAt?_eq_none_iff`, `Phrasebook.Kept.exists_bestFits_of_hitAt?` — what is found
  at a word is the best entry.
* `Phrasebook.Kept.scan_rewriteRuns`, `Phrasebook.Kept.rewriteRuns_eq_of_scan` — a text is written
  anew like a scan of its runs.
* `Phrasebook.rewrite_eq_iff_scan` — this holds of every text and of whatever was put in.
-/

namespace Colloquy

open Unicode

/-! ## The scan -/

/-- Runs that say some words, in whatever letter case. -/
inductive Says : List Run → List Text → Prop
  | words {r : Run} {rs : List Run} {ws : List Text} (hword : r.isWord = true)
      (h : GoesOn rs ws) : Says (r :: rs) (r.chars.lower :: ws)

/-- Some runs begin with runs, those that are `taken`, that say the words of an entry. -/
structure Fits (d : Dict Text) (rs : List Run) (e : Text × Text) (taken : List Run) : Prop where
  mem : e ∈ d.entries
  begins : taken <+: rs
  covers : Says taken e.1.words

/-- No other entry that fits has more words. -/
structure BestFits (d : Dict Text) (rs : List Run) (e : Text × Text) (taken : List Run) : Prop
    extends Fits d rs e taken where
  most : ∀ f taken', Fits d rs f taken' → f.1.words.length ≤ e.1.words.length

/-- A word begins with what is before its first apostrophe. -/
structure HasHead (word head tail : Text) : Prop where
  join : word = head ++ '\'' :: tail
  first : '\'' ∉ head

/-- What is written instead of some runs, from left to right and in one pass. -/
inductive Scan (d : Dict Text) : List Run → Text → Prop
  | done : Scan d [] []
  /-- What stands between words is copied. -/
  | between {r : Run} {rs : List Run} {out : Text} (hr : r.isWord = false) (h : Scan d rs out) :
      Scan d (r :: rs) (r.chars ++ out)
  /-- The best entry is put in the place of all that it covers. -/
  | phrase {e : Text × Text} {taken rest : List Run} {out : Text}
      (hbest : BestFits d (taken ++ rest) e taken) (h : Scan d rest out) :
      Scan d (taken ++ rest) (Text.inCaseOf (taken.flatMap Run.chars) e.2 ++ out)
  /-- If there is none, what is before the first apostrophe may be an entry. -/
  | head {r : Run} {rs : List Run} {head tail v out : Text} (hr : r.isWord = true)
      (hnone : ∀ e taken, ¬ Fits d (r :: rs) e taken) (hhead : HasHead r.chars head tail)
      (hentry : (head.lower, v) ∈ d.entries) (h : Scan d rs out) :
      Scan d (r :: rs) (Text.inCaseOf head v ++ '\'' :: tail ++ out)
  /-- If it is not, the word is copied. -/
  | word {r : Run} {rs : List Run} {out : Text} (hr : r.isWord = true)
      (hnone : ∀ e taken, ¬ Fits d (r :: rs) e taken)
      (hhead : ∀ head tail v, HasHead r.chars head tail → (head.lower, v) ∉ d.entries)
      (h : Scan d rs out) : Scan d (r :: rs) (r.chars ++ out)

/-- Runs that begin the same runs and say equally many words are the same. -/
theorem Says.unique {taken taken' rs : List Run} {ws ws' : List Text} (h : Says taken ws)
    (h' : Says taken' ws') (hbegins : taken <+: rs) (hbegins' : taken' <+: rs)
    (hlen : ws.length = ws'.length) : taken = taken' ∧ ws = ws' := by
  obtain ⟨-, hgoes⟩ := h
  obtain ⟨-, hgoes'⟩ := h'
  obtain ⟨rest, rfl⟩ := hbegins
  obtain ⟨rfl, hmore'⟩ := List.cons_prefix_cons.mp hbegins'
  obtain ⟨rfl, rfl⟩ :=
    hgoes.unique hgoes' (List.prefix_append _ rest) hmore' (Nat.succ.inj hlen)
  exact ⟨rfl, rfl⟩

theorem Says.exists_cons {taken : List Run} {ws : List Text} (h : Says taken ws) :
    ∃ r more, taken = r :: more ∧ r.isWord = true := by
  obtain ⟨hword, -⟩ := h
  exact ⟨_, _, rfl, hword⟩

/-! ## The best entry -/

/-- A run that is a word of a phrase in lower case, if it is a word at all. -/
def Run.SaysWord (r : Run) : Prop :=
  r.isWord = true → r.chars.lower ≠ [] ∧ ∀ c ∈ r.chars.lower, isBlank c = false

/-- The runs of a text are words of a phrase or none. -/
theorem Text.IsCutInto.saysWord {t : Text} {rs : List Run} (h : t.IsCutInto rs) :
    ∀ r ∈ rs, r.SaysWord := by
  intro r hr hword
  refine ⟨Text.lower_ne_nil (h.chars_ne_nil r hr), ?_⟩
  refine Text.isBlank_eq_false_of_mem_lower fun c hc => isBlank_eq_false_of_isWordChar ?_
  rw [h.kind r hr c hc, hword]

namespace Phrasebook

variable {b : Phrasebook} {r : Run} {rs more taken taken' : List Run} {ws : List Text}
  {e f : Text × Text} {v : Text} {hit : Hit}

/-- An entry that fits is passed by a look-up. -/
theorem Kept.exists_reaches (hkept : b.Kept) (h : Fits b.entries (r :: rs) e taken) :
    ∃ more ws, e.1.words = r.chars.lower :: ws ∧ Reaches (b.longest - 1) rs more ws ∧
      b.entries.find? (r.chars.lower ++ ws.flatMap (' ' :: ·)) = some e.2 := by
  obtain ⟨hmem, hbegins, hsays⟩ := h
  have hspaced := hkept.spaced e hmem
  have hreached := hkept.reached e hmem
  generalize e.1.words = words at hsays hspaced hreached ⊢
  cases hsays with
  | @words s more ws hword hgoes =>
    obtain ⟨rfl, hmore⟩ := List.cons_prefix_cons.mp hbegins
    have hroom : ws.length ≤ b.longest - 1 := by
      rw [List.length_cons] at hreached
      omega
    refine ⟨more, ws, rfl, reaches_iff.mpr ⟨hgoes, hmore, hroom⟩, ?_⟩
    rw [← Text.unwords_cons, hspaced]
    exact Dict.find?_eq_some_iff.mpr hmem

/-- What a look-up passes is an entry that fits. -/
theorem exists_fits_of_reaches {room : Nat} (hsay : ∀ s ∈ r :: rs, s.SaysWord)
    (hword : r.isWord = true) (hreach : Reaches room rs more ws)
    (hfind : b.entries.find? (r.chars.lower ++ ws.flatMap (' ' :: ·)) = some v) :
    ∃ k, k.words = r.chars.lower :: ws ∧ Fits b.entries (r :: rs) (k, v) (r :: more) := by
  obtain ⟨hgoes, hmore, -⟩ := reaches_iff.mp hreach
  have hwords : (Text.unwords (r.chars.lower :: ws)).words = r.chars.lower :: ws := by
    have hok : ∀ w ∈ r.chars.lower :: ws, w ≠ [] ∧ ∀ c ∈ w, isBlank c = false := by
      obtain ⟨hr, hrs⟩ := List.forall_mem_cons.mp hsay
      refine List.forall_mem_cons.mpr ⟨hr hword, hgoes.forall_words fun s hs => ?_⟩
      exact hrs s (hmore.subset hs)
    exact Text.words_unwords (fun w hw => (hok w hw).1) fun w hw => (hok w hw).2
  rw [← Text.unwords_cons] at hfind
  refine ⟨_, hwords, Dict.find?_eq_some_iff.mp hfind, ?_, ?_⟩
  · exact List.cons_prefix_cons.mpr ⟨rfl, hmore⟩
  · rw [hwords]
    exact .words hword hgoes

/-- Nothing is found where no entry fits, and only there. -/
theorem Kept.hitAt?_eq_none_iff (hkept : b.Kept) (hsay : ∀ s ∈ r :: rs, s.SaysWord)
    (hword : r.isWord = true) :
    b.hitAt? r.chars rs = none ↔ ∀ e taken, ¬ Fits b.entries (r :: rs) e taken := by
  constructor
  · intro h e taken hfits
    obtain ⟨more, ws, -, hreach, hfind⟩ := hkept.exists_reaches hfits
    rw [find?_eq_none_of_longestHit? h hreach] at hfind
    cases hfind
  · intro h
    cases hhit : b.hitAt? r.chars rs with
    | none => rfl
    | some hit =>
      obtain ⟨more, ws, hlongest⟩ := exists_isLongest_of_longestHit? hhit
      obtain ⟨k, -, hfits⟩ := exists_fits_of_reaches hsay hword hlongest.reaches hlongest.find
      exact absurd hfits (h _ _)

/-- What is found is the best entry. -/
theorem Kept.exists_bestFits_of_hitAt? (hkept : b.Kept) (hsay : ∀ s ∈ r :: rs, s.SaysWord)
    (hword : r.isWord = true) (h : b.hitAt? r.chars rs = some hit) :
    ∃ k taken, BestFits b.entries (r :: rs) (k, hit.replacement) taken ∧
      hit.covered = taken.flatMap Run.chars ∧ taken.length = hit.taken + 1 := by
  obtain ⟨more, ws, hlongest⟩ := exists_isLongest_of_longestHit? h
  obtain ⟨k, hk, hfits⟩ := exists_fits_of_reaches hsay hword hlongest.reaches hlongest.find
  refine ⟨k, r :: more, ⟨hfits, fun f taken' hf => ?_⟩, ?_, ?_⟩
  · obtain ⟨more', ws', hf, hreach, hfind⟩ := hkept.exists_reaches hf
    rw [hf, hk]
    refine Nat.succ_le_succ (hlongest.longest more' ws' hreach ?_)
    rw [hfind]
    exact Option.some_ne_none _
  · exact hlongest.covered_eq
  · have htaken := hlongest.taken_eq
    rw [List.length_cons]
    omega

/-- There is only one best entry. -/
theorem Kept.bestFits_unique (hkept : b.Kept) (he : BestFits b.entries rs e taken)
    (hf : BestFits b.entries rs f taken') : e = f ∧ taken = taken' := by
  have hlen : e.1.words.length = f.1.words.length :=
    Nat.le_antisymm (hf.most e taken he.toFits) (he.most f taken' hf.toFits)
  obtain ⟨rfl, hwords⟩ := he.covers.unique hf.covers he.begins hf.begins hlen
  have hphrase : e.1 = f.1 := by
    rw [← hkept.spaced e he.mem, hwords, hkept.spaced f hf.mem]
  have hvalue : some e.2 = some f.2 := by
    rw [← Dict.find?_eq_some_iff.mpr he.mem, hphrase, Dict.find?_eq_some_iff.mpr hf.mem]
  exact ⟨Prod.ext hphrase (Option.some.inj hvalue), rfl⟩

/-! ## The part before an apostrophe -/

theorem eq_apostrophe_of_span {word head tail : Text} {c : Char}
    (h : word.span (· ≠ '\'') = (head, c :: tail)) : c = '\'' := by
  rw [List.span_eq_takeWhile_dropWhile] at h
  have hnot := List.head?_dropWhile_not (· ≠ '\'') word
  rw [(Prod.mk.inj h).2] at hnot
  simpa using hnot

theorem hasHead_iff {word head tail : Text} :
    HasHead word head tail ↔ word.span (· ≠ '\'') = (head, '\'' :: tail) := by
  rw [List.span_eq_takeWhile_dropWhile]
  constructor
  · rintro ⟨rfl, hfirst⟩
    have hhead : ∀ c ∈ head, decide (c ≠ '\'') = true := by
      intro c hc
      exact decide_eq_true fun heq => hfirst (heq ▸ hc)
    rw [List.takeWhile_append_of_pos hhead, List.dropWhile_append_of_pos hhead]
    simp
  · intro h
    obtain ⟨hhead, htail⟩ := Prod.mk.inj h
    constructor
    · rw [← hhead, ← htail, List.takeWhile_append_dropWhile]
    · intro hmem
      rw [← hhead] at hmem
      exact absurd (List.mem_takeWhile_imp hmem) (by simp)

/-- The part before the first apostrophe is replaced if it is an entry. -/
theorem headReplaced?_eq_some_iff {word out : Text} :
    b.headReplaced? word = some out ↔ ∃ head tail v, HasHead word head tail ∧
      (head.lower, v) ∈ b.entries.entries ∧ out = Text.inCaseOf head v ++ '\'' :: tail := by
  constructor
  · intro h
    rw [headReplaced?] at h
    rcases hspan : word.span (· ≠ '\'') with ⟨head, tail⟩
    rw [hspan] at h
    dsimp only at h
    split at h
    · cases h
    · rename_i hne
      obtain ⟨c, tail, rfl⟩ := List.exists_cons_of_ne_nil hne
      obtain rfl := eq_apostrophe_of_span hspan
      obtain ⟨v, hv, rfl⟩ := Option.map_eq_some_iff.mp h
      exact ⟨head, tail, v, hasHead_iff.mpr hspan, Dict.find?_eq_some_iff.mp hv, rfl⟩
  · rintro ⟨head, tail, v, hhas, hentry, rfl⟩
    rw [headReplaced?, hasHead_iff.mp hhas]
    dsimp only
    rw [if_neg (List.cons_ne_nil _ _), Dict.find?_eq_some_iff.mpr hentry]
    rfl

/-! ## Scanning -/

/-- What a text is written anew to is what a scan of its runs writes. -/
theorem Kept.scan_rewriteRuns (hkept : b.Kept) (hsay : ∀ s ∈ rs, s.SaysWord) :
    Scan b.entries rs (b.rewriteRuns rs) := by
  induction rs using rewriteRuns.induct b with
  | case1 =>
    rw [rewriteRuns_nil]
    exact .done
  | case2 r rs hword hit hhit ih =>
    obtain ⟨k, taken, hbest, hcovered, htaken⟩ :=
      hkept.exists_bestFits_of_hitAt? hsay hword hhit
    obtain ⟨rest, hrest⟩ := hbest.begins
    have hdrop : rs.drop hit.taken = rest := by
      rw [← List.drop_succ_cons (a := r), ← htaken, ← hrest, List.drop_left]
    rw [rewriteRuns_cons_of_hit hword hhit, hcovered, hdrop]
    rw [hdrop] at ih
    rw [← hrest] at hbest hsay ⊢
    exact .phrase hbest (ih fun s hs => hsay s (List.mem_append_right _ hs))
  | case3 r rs hword hhit ih =>
    have hnone := (hkept.hitAt?_eq_none_iff hsay hword).mp hhit
    have hrest := ih (List.forall_mem_cons.mp hsay).2
    rw [rewriteRuns_cons_of_no_hit hword hhit]
    cases hhead : b.headReplaced? r.chars with
    | none =>
      refine .word hword hnone (fun head tail v hhas hentry => ?_) hrest
      have hsome := headReplaced?_eq_some_iff.mpr ⟨head, tail, v, hhas, hentry, rfl⟩
      rw [hhead] at hsome
      cases hsome
    | some out =>
      obtain ⟨head, tail, v, hhas, hentry, rfl⟩ := headReplaced?_eq_some_iff.mp hhead
      exact .head hword hnone hhas hentry hrest
  | case4 r rs hword ih =>
    rw [rewriteRuns_cons_of_not_word (eq_false_of_ne_true hword)]
    exact .between (eq_false_of_ne_true hword) (ih (List.forall_mem_cons.mp hsay).2)

/-- No scan writes anything else. -/
theorem Kept.rewriteRuns_eq_of_scan (hkept : b.Kept) (hsay : ∀ s ∈ rs, s.SaysWord) {out : Text}
    (h : Scan b.entries rs out) : b.rewriteRuns rs = out := by
  induction h with
  | done => exact rewriteRuns_nil b
  | between hr _ ih =>
    rw [rewriteRuns_cons_of_not_word hr, ih (List.forall_mem_cons.mp hsay).2]
  | @phrase e taken rest out hbest _ ih =>
    have hrest := ih fun s hs => hsay s (List.mem_append_right _ hs)
    obtain ⟨r, more, rfl, hword⟩ := hbest.covers.exists_cons
    cases hhit : b.hitAt? r.chars (more ++ rest) with
    | none => exact absurd hbest.toFits ((hkept.hitAt?_eq_none_iff hsay hword).mp hhit _ _)
    | some hit =>
      obtain ⟨k, taken, hfound, hcovered, htaken⟩ :=
        hkept.exists_bestFits_of_hitAt? hsay hword hhit
      obtain ⟨rfl, rfl⟩ := hkept.bestFits_unique hbest hfound
      have hdrop : (more ++ rest).drop hit.taken = rest :=
        List.drop_left' (Nat.succ.inj htaken)
      rw [List.cons_append, rewriteRuns_cons_of_hit hword hhit, hcovered, hdrop, hrest]
  | head hr hnone hhead hentry _ ih =>
    have hhit := (hkept.hitAt?_eq_none_iff hsay hr).mpr hnone
    have hout := headReplaced?_eq_some_iff.mpr ⟨_, _, _, hhead, hentry, rfl⟩
    rw [rewriteRuns_cons_of_no_hit hr hhit, hout, ih (List.forall_mem_cons.mp hsay).2]
    rfl
  | @word r rs out hr hnone hhead _ ih =>
    have hhit := (hkept.hitAt?_eq_none_iff hsay hr).mpr hnone
    have hout : b.headReplaced? r.chars = none := by
      refine Option.eq_none_iff_forall_not_mem.mpr fun out hsome => ?_
      obtain ⟨head, tail, v, hhas, hentry, -⟩ := headReplaced?_eq_some_iff.mp hsome
      exact hhead head tail v hhas hentry
    rw [rewriteRuns_cons_of_no_hit hr hhit, hout, ih (List.forall_mem_cons.mp hsay).2]
    rfl

/-- **Rewriting is a scan of the whole phrasebook.** A text is cut into runs in one way. Whatever
was put in, one phrase after the other, a text is written anew to what a scan of its runs writes,
and to nothing else: at every word that was not yet taken, the scan looks among all entries for the
one with the most words. -/
theorem rewrite_eq_iff_scan (pairs : List (Text × Text)) (t out : Text) :
    (∃! rs, t.IsCutInto rs) ∧
      ((afterInserts pairs).rewrite t = out ↔
        ∃ rs, t.IsCutInto rs ∧ Scan (afterInserts pairs).entries rs out) := by
  have hkept := kept_afterInserts pairs
  have hsay := (Text.isCutInto_runs t).saysWord
  refine ⟨⟨t.runs, Text.isCutInto_runs t, fun rs h => h.eq_runs⟩, ?_, ?_⟩
  · rintro rfl
    exact ⟨t.runs, Text.isCutInto_runs t, hkept.scan_rewriteRuns hsay⟩
  · rintro ⟨rs, hcut, hscan⟩
    obtain rfl := hcut.eq_runs
    exact hkept.rewriteRuns_eq_of_scan hsay hscan

end Phrasebook

end Colloquy
