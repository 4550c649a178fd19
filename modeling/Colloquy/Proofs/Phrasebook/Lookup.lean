import Colloquy.Phrasebook.Rewrite

/-!
# Looking up a phrase

A look-up passes runs that go on with words, as many as there is room for, and what it finds is the
longest phrase among those that it passes.

* `GoesOn` — runs that go on with some words.
* `Reaches`, `reaches_iff` — the runs that a look-up passes.
* `Phrasebook.find?_eq_none_of_longestHit?`, `Phrasebook.exists_isLongest_of_longestHit?` — what it
  finds.
* `Phrasebook.exists_takes_of_hitAt?`, `Phrasebook.hitAt?_of_whole` — what is found at a word.
-/

namespace Colloquy

open Unicode

/-! ## Runs that go on with words -/

/-- Runs that go on with some words, each after white space and nothing else. -/
inductive GoesOn : List Run → List Text → Prop
  | stop : GoesOn [] []
  | next {gap r : Run} {rs : List Run} {ws : List Text} (hgap : gap.isGap = true)
      (hword : r.isWord = true) (h : GoesOn rs ws) :
      GoesOn (gap :: r :: rs) (r.chars.lower :: ws)

namespace GoesOn

variable {more more' rs : List Run} {ws ws' : List Text}

/-- Runs that begin the same runs and go on with equally many words are the same. -/
theorem unique (h : GoesOn more ws) (h' : GoesOn more' ws') (hmore : more <+: rs)
    (hmore' : more' <+: rs) (hlen : ws.length = ws'.length) : more = more' ∧ ws = ws' := by
  induction h generalizing more' ws' rs with
  | stop =>
    cases h' with
    | stop => exact ⟨rfl, rfl⟩
    | next => cases hlen
  | next hgap hword h ih =>
    cases h' with
    | stop => cases hlen
    | next hgap' hword' h' =>
      obtain ⟨rest, rfl⟩ := hmore
      obtain ⟨hsame, hmore'⟩ := List.cons_prefix_cons.mp hmore'
      obtain ⟨hsame', hmore'⟩ := List.cons_prefix_cons.mp hmore'
      obtain ⟨rfl, rfl⟩ := ih h' (List.prefix_append _ rest) hmore' (by simpa using hlen)
      rw [hsame, hsame']
      exact ⟨rfl, rfl⟩

/-- What holds of all words of some runs in lower case holds of the words they go on with. -/
theorem forall_words {p : Text → Prop} (h : GoesOn more ws)
    (hp : ∀ r ∈ more, r.isWord = true → p r.chars.lower) : ∀ w ∈ ws, p w := by
  induction h with
  | stop => simp
  | next _ hword _ ih =>
    obtain ⟨-, hp⟩ := List.forall_mem_cons.mp hp
    obtain ⟨hr, hp⟩ := List.forall_mem_cons.mp hp
    exact List.forall_mem_cons.mpr ⟨hr hword, ih hp⟩

/-- All that is not in the words of runs that go on is white space. -/
theorem forall_chars {p : Char → Prop} (h : GoesOn more ws)
    (hp : ∀ r ∈ more, r.isWord = true → ∀ c ∈ r.chars, p c) :
    ∀ r ∈ more, ∀ c ∈ r.chars, p c ∨ isBlank c = true := by
  induction h with
  | stop => simp
  | next hgap hword _ ih =>
    obtain ⟨-, hp⟩ := List.forall_mem_cons.mp hp
    obtain ⟨hr, hp⟩ := List.forall_mem_cons.mp hp
    refine List.forall_mem_cons.mpr ⟨fun c hc => ?_, List.forall_mem_cons.mpr ⟨?_, ih hp⟩⟩
    · obtain ⟨-, hblank⟩ := Bool.and_eq_true_iff.mp hgap
      exact .inr (List.all_eq_true.mp hblank c hc)
    · exact fun c hc => .inl (hr hword c hc)

theorem length_eq (h : GoesOn more ws) : more.length = 2 * ws.length := by
  induction h with
  | stop => rfl
  | next _ _ _ ih =>
    simp only [List.length_cons]
    omega

theorem eq_nil (h : GoesOn more []) : more = [] := by
  cases h
  rfl

end GoesOn

/-! ## What a look-up passes -/

/-- The runs that a look-up passes with a number of words to go, and the words they go on with. -/
inductive Reaches : Nat → List Run → List Run → List Text → Prop
  | stop {room : Nat} {rs : List Run} : Reaches room rs [] []
  | next {room : Nat} {gap r : Run} {rs more : List Run} {ws : List Text}
      (hgap : gap.isGap = true) (hword : r.isWord = true) (h : Reaches room rs more ws) :
      Reaches (room + 1) (gap :: r :: rs) (gap :: r :: more) (r.chars.lower :: ws)

theorem reaches_iff {room : Nat} {rs more : List Run} {ws : List Text} :
    Reaches room rs more ws ↔ GoesOn more ws ∧ more <+: rs ∧ ws.length ≤ room := by
  constructor
  · intro h
    induction h with
    | stop => exact ⟨.stop, List.nil_prefix, Nat.zero_le _⟩
    | next hgap hword _ ih =>
      obtain ⟨hgoes, hbegins, hroom⟩ := ih
      refine ⟨.next hgap hword hgoes, ?_, Nat.succ_le_succ hroom⟩
      exact List.cons_prefix_cons.mpr ⟨rfl, List.cons_prefix_cons.mpr ⟨rfl, hbegins⟩⟩
  · rintro ⟨hgoes, hbegins, hroom⟩
    induction hgoes generalizing room rs with
    | stop => exact .stop
    | next hgap hword _ ih =>
      obtain ⟨rest, rfl⟩ := hbegins
      obtain ⟨n, rfl⟩ : ∃ n, room = n + 1 := ⟨room - 1, by simp at hroom; omega⟩
      exact .next hgap hword (ih (List.prefix_append _ rest) (Nat.le_of_succ_le_succ hroom))

/-- Where no word follows after white space, a look-up passes nothing. -/
theorem Reaches.eq_nil_of_not_next {room : Nat} {gap r : Run} {rs more : List Run} {ws : List Text}
    (h : Reaches (room + 1) (gap :: r :: rs) more ws) (hnext : ¬ (gap.isGap && r.isWord) = true) :
    ws = [] := by
  cases h with
  | stop => rfl
  | next hgap hword _ => exact absurd (Bool.and_eq_true_iff.mpr ⟨hgap, hword⟩) hnext

/-- Nor does it where there is no room or no run to pass. -/
theorem Reaches.eq_nil_of_short {room : Nat} {rs more : List Run} {ws : List Text}
    (h : Reaches room rs more ws)
    (hshort : ∀ n gap r rest, room = Nat.succ n → rs = gap :: r :: rest → False) : ws = [] := by
  cases h with
  | stop => rfl
  | next _ _ _ => exact absurd rfl (hshort _ _ _ _ rfl)

/-! ## What it finds -/

namespace Phrasebook

variable {b : Phrasebook} {phrase covered : Text} {taken room : Nat} {rs : List Run} {hit : Hit}

theorem longestHit?_of_next {gap r : Run} (hgap : gap.isGap = true) (hword : r.isWord = true) :
    b.longestHit? phrase covered taken (room + 1) (gap :: r :: rs) =
      (b.longestHit? (phrase ++ ' ' :: r.chars.lower) (covered ++ gap.chars ++ r.chars)
        (taken + 2) room rs).or ((b.entries.find? phrase).map fun v => ⟨covered, v, taken⟩) := by
  rw [longestHit?, hgap, hword]
  rfl

theorem longestHit?_of_stop (hstop : ∀ more ws, Reaches room rs more ws → ws = []) :
    b.longestHit? phrase covered taken room rs =
      (b.entries.find? phrase).map fun v => ⟨covered, v, taken⟩ := by
  unfold longestHit?
  split
  · dsimp only
    split
    · rename_i hnext
      obtain ⟨hgap, hword⟩ := Bool.and_eq_true_iff.mp hnext
      exact nomatch hstop _ _ (.next hgap hword .stop)
    · rfl
  · rfl

/-- Where nothing is found, no phrase goes on from what there is. -/
theorem find?_eq_none_of_longestHit? (h : b.longestHit? phrase covered taken room rs = none)
    {more : List Run} {ws : List Text} (hreach : Reaches room rs more ws) :
    b.entries.find? (phrase ++ ws.flatMap (' ' :: ·)) = none := by
  induction hreach generalizing phrase covered taken with
  | stop =>
    have hhere : b.entries.find? phrase = none := by
      unfold longestHit? at h
      split at h
      · dsimp only at h
        split at h
        · simpa using (Option.or_eq_none_iff.mp h).2
        · simpa using h
      · simpa using h
    simpa using hhere
  | next hgap hword _ ih =>
    rw [longestHit?_of_next hgap hword] at h
    have hrest := ih (Option.or_eq_none_iff.mp h).1
    simpa using hrest

/-- A hit tells of the longest phrase that goes on from what there is. -/
structure Hit.IsLongest (hit : Hit) (b : Phrasebook) (phrase covered : Text) (taken room : Nat)
    (rs more : List Run) (ws : List Text) : Prop where
  reaches : Reaches room rs more ws
  find : b.entries.find? (phrase ++ ws.flatMap (' ' :: ·)) = some hit.replacement
  covered_eq : hit.covered = covered ++ more.flatMap Run.chars
  taken_eq : hit.taken = taken + more.length
  longest : ∀ more' ws', Reaches room rs more' ws' →
    b.entries.find? (phrase ++ ws'.flatMap (' ' :: ·)) ≠ none → ws'.length ≤ ws.length

/-- What is found where nothing longer is. -/
theorem Hit.isLongest_here
    (h : ((b.entries.find? phrase).map fun v => ⟨covered, v, taken⟩) = some hit)
    (hstop : ∀ more ws, Reaches room rs more ws →
      b.entries.find? (phrase ++ ws.flatMap (' ' :: ·)) ≠ none → ws = []) :
    hit.IsLongest b phrase covered taken room rs [] [] := by
  obtain ⟨v, hv, rfl⟩ := Option.map_eq_some_iff.mp h
  refine ⟨.stop, by simpa using hv, by simp, rfl, fun more ws hreach hne => ?_⟩
  exact Nat.le_of_eq (congrArg List.length (hstop more ws hreach hne))

/-- What is found is a phrase that goes on from what there is, and none that does so is longer. -/
theorem exists_isLongest_of_longestHit?
    (h : b.longestHit? phrase covered taken room rs = some hit) :
    ∃ more ws, hit.IsLongest b phrase covered taken room rs more ws := by
  induction phrase, covered, taken, room, rs using longestHit?.induct b with
  | case1 phrase covered taken room gap r rs hnext ih =>
    obtain ⟨hgap, hword⟩ := Bool.and_eq_true_iff.mp hnext
    rw [longestHit?_of_next hgap hword] at h
    rcases Option.or_eq_some_iff.mp h with h | ⟨hnone, h⟩
    · obtain ⟨more, ws, hlongest⟩ := ih h
      refine ⟨gap :: r :: more, r.chars.lower :: ws, ?_⟩
      refine ⟨.next hgap hword hlongest.reaches, by simpa using hlongest.find,
        by simpa using hlongest.covered_eq, ?_, ?_⟩
      · have htaken := hlongest.taken_eq
        simp only [List.length_cons]
        omega
      · rintro more' ws' (_ | ⟨-, -, hreach⟩) hne
        · exact Nat.zero_le _
        · exact Nat.succ_le_succ (hlongest.longest _ _ hreach (by simpa using hne))
    · refine ⟨[], [], Hit.isLongest_here h ?_⟩
      rintro more' ws' (_ | ⟨-, -, hreach⟩) hne
      · rfl
      · exact absurd (find?_eq_none_of_longestHit? hnone hreach) (by simpa using hne)
  | case2 phrase covered taken room gap r rs hnext =>
    have hstop : ∀ more ws, Reaches (room + 1) (gap :: r :: rs) more ws → ws = [] :=
      fun _ _ hreach => hreach.eq_nil_of_not_next hnext
    rw [longestHit?_of_stop hstop] at h
    exact ⟨[], [], Hit.isLongest_here h fun more ws hreach _ => hstop more ws hreach⟩
  | case3 room phrase covered taken rs hshort =>
    have hstop : ∀ more ws, Reaches room rs more ws → ws = [] :=
      fun _ _ hreach => hreach.eq_nil_of_short hshort
    rw [longestHit?_of_stop hstop] at h
    exact ⟨[], [], Hit.isLongest_here h fun more ws hreach _ => hstop more ws hreach⟩

/-! ## What is found at a word -/

/-- A hit at a word takes runs that go on with words, and with these the word is a phrase. -/
structure Hit.Takes (hit : Hit) (b : Phrasebook) (word : Text) (rs more : List Run)
    (ws : List Text) : Prop where
  goesOn : GoesOn more ws
  begins : more <+: rs
  find : b.entries.find? (word.lower ++ ws.flatMap (' ' :: ·)) = some hit.replacement
  covered_eq : hit.covered = word ++ more.flatMap Run.chars
  taken_eq : hit.taken = more.length

variable {word v : Text} {ws : List Text}

theorem exists_takes_of_hitAt? (h : b.hitAt? word rs = some hit) :
    ∃ more ws, hit.Takes b word rs more ws := by
  obtain ⟨more, ws, hlongest⟩ := exists_isLongest_of_longestHit? h
  obtain ⟨hgoes, hbegins, -⟩ := reaches_iff.mp hlongest.reaches
  exact ⟨more, ws, hgoes, hbegins, hlongest.find, hlongest.covered_eq,
    by rw [hlongest.taken_eq, Nat.zero_add]⟩

/-- A hit covers the word and the runs that it takes. -/
theorem covered_eq_of_hitAt? (h : b.hitAt? word rs = some hit) :
    hit.covered = word ++ (rs.take hit.taken).flatMap Run.chars := by
  obtain ⟨more, ws, htakes⟩ := exists_takes_of_hitAt? h
  rw [htakes.covered_eq, htakes.taken_eq, ← List.prefix_iff_eq_take.mp htakes.begins]

/-- Where all that follows goes on with words that make a phrase, a look-up takes all of it. -/
theorem hitAt?_of_whole (hgoes : GoesOn rs ws) (hroom : ws.length ≤ b.longest - 1)
    (hfind : b.entries.find? (word.lower ++ ws.flatMap (' ' :: ·)) = some v) :
    b.hitAt? word rs = some ⟨word ++ rs.flatMap Run.chars, v, rs.length⟩ := by
  have hreach : Reaches (b.longest - 1) rs rs ws :=
    reaches_iff.mpr ⟨hgoes, List.prefix_refl rs, hroom⟩
  cases hhit : b.hitAt? word rs with
  | none =>
    rw [find?_eq_none_of_longestHit? hhit hreach] at hfind
    cases hfind
  | some hit =>
    obtain ⟨more, ws', hlongest⟩ := exists_isLongest_of_longestHit? hhit
    obtain ⟨hgoes', hmore, -⟩ := reaches_iff.mp hlongest.reaches
    have hle := hlongest.longest rs ws hreach (by rw [hfind]; exact Option.some_ne_none v)
    have hlen : ws'.length = ws.length := by
      have hruns := hmore.length_le
      rw [hgoes.length_eq, hgoes'.length_eq] at hruns
      omega
    obtain ⟨rfl, rfl⟩ := hgoes'.unique hgoes hmore (List.prefix_refl rs) hlen
    obtain ⟨covered, replacement, taken⟩ := hit
    obtain rfl : covered = word ++ more.flatMap Run.chars := hlongest.covered_eq
    obtain rfl : taken = more.length := by simpa using hlongest.taken_eq
    have hsame := hlongest.find
    rw [hfind] at hsame
    rw [Option.some.inj hsame]

end Phrasebook

end Colloquy
