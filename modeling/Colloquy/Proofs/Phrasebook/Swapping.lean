import Colloquy.Proofs.Phrasebook.Scanning
import Colloquy.Proofs.Text.Casing

/-!
# Swapping words

A phrasebook may swap words, each for another that is swapped back for it. A text of small letters
that is written anew twice by such a phrasebook is the text again: writing it anew changes its words
one by one and none of the boundaries between them, a word that was put in stands where the other
one stood, whole or before an apostrophe, and small letters ask for no other letter case.

* `Phrasebook.exchange`, `Phrasebook.IsWordwise.rewriteRuns_eq` — phrases of one word each are
  replaced word by word.
* `Phrasebook.Trades`, `Phrasebook.IsSwap.symm` — words that are written instead of each other.
* `Phrasebook.rewrite_rewrite_of_isSwap` — swapped words are swapped back.
-/

namespace Colloquy

open Unicode

/-! ## Small words -/

/-- A word without apostrophes and with small letters only. -/
structure Text.IsSmallWord (w : Text) : Prop where
  ne_nil : w ≠ []
  word : ∀ c ∈ w, isAlphanumeric c = true
  small : ∀ c ∈ w, isAlphabetic c = true → isLowercase c = true

theorem Text.isSmallWord_iff {w : Text} : w.IsSmallWord ↔
    w ≠ [] ∧ w.all (fun c => isAlphanumeric c && (!isAlphabetic c || isLowercase c)) = true := by
  simp only [List.all_eq_true, Bool.and_eq_true, Bool.or_eq_true, Bool.not_eq_true',
    ← Bool.not_eq_true, ← imp_iff_not_or]
  constructor
  · intro h
    exact ⟨h.ne_nil, fun c hc => ⟨h.word c hc, h.small c hc⟩⟩
  · rintro ⟨hne, hall⟩
    exact ⟨hne, fun c hc => (hall c hc).1, fun c hc => (hall c hc).2⟩

instance (w : Text) : Decidable w.IsSmallWord :=
  decidable_of_iff _ Text.isSmallWord_iff.symm

/-- Lower case changes none of its characters. -/
theorem Text.IsSmallWord.toLower_eq {w : Text} (h : w.IsSmallWord) : ∀ c ∈ w, toLower c = [c] := by
  intro c hc
  cases hletter : isAlphabetic c with
  | false => exact toLower_eq_self_of_not_letter hletter
  | true => exact toLower_eq_self_of_isLowercase (h.small c hc hletter)

theorem Text.IsSmallWord.isWordChar_eq {w : Text} (h : w.IsSmallWord) :
    ∀ c ∈ w, isWordChar c = true :=
  fun c hc => Bool.or_eq_true_iff.mpr (.inl (h.word c hc))

/-! ## One word at a time -/

namespace Phrasebook

variable {b : Phrasebook} {w w' k k' tail : Text} {rs : List Run} {t : Text}

/-- No phrase has several words. -/
def IsWordwise (b : Phrasebook) : Prop :=
  ∀ e ∈ b.entries.entries, ' ' ∉ e.1

/-- What is written for a word that stands on its own. -/
def exchange (b : Phrasebook) (w : Text) : Text :=
  match b.entries.find? w.lower with
  | some v => Text.inCaseOf w v
  | none => (b.headReplaced? w).getD w

/-- What is written for a run. -/
def exchangeRun (b : Phrasebook) (r : Run) : Run :=
  if r.isWord then ⟨b.exchange r.chars, true⟩ else r

/-- Where no phrase has several words, a look-up takes one word. -/
theorem IsWordwise.hitAt?_eq (hb : b.IsWordwise) (w : Text) (rs : List Run) :
    b.hitAt? w rs = (b.entries.find? w.lower).map fun v => ⟨w, v, 0⟩ := by
  cases hhit : b.hitAt? w rs with
  | none =>
    have hnone := find?_eq_none_of_longestHit? hhit .stop
    rw [List.flatMap_nil, List.append_nil] at hnone
    rw [hnone]
    rfl
  | some hit =>
    obtain ⟨more, ws, htakes⟩ := exists_takes_of_hitAt? hhit
    have hfind := htakes.find
    obtain rfl : ws = [] := by
      cases ws with
      | nil => rfl
      | cons w' ws =>
        have hspace := hb _ (Dict.find?_eq_some_iff.mp hfind)
        simp at hspace
    obtain rfl := htakes.goesOn.eq_nil
    rw [List.flatMap_nil, List.append_nil] at hfind
    obtain ⟨covered, replacement, taken⟩ := hit
    obtain rfl : covered = w := by simpa using htakes.covered_eq
    obtain rfl : taken = 0 := htakes.taken_eq
    rw [hfind]
    rfl

/-- Words are replaced one by one. -/
theorem IsWordwise.rewriteRuns_eq (hb : b.IsWordwise) (rs : List Run) :
    b.rewriteRuns rs = (rs.map b.exchangeRun).flatMap Run.chars := by
  induction rs with
  | nil => exact rewriteRuns_nil b
  | cons r rs ih =>
    rw [List.map_cons, List.flatMap_cons, ← ih, exchangeRun]
    cases hword : r.isWord with
    | false => exact rewriteRuns_cons_of_not_word hword
    | true =>
      have hhit := hb.hitAt?_eq r.chars rs
      cases hfind : b.entries.find? r.chars.lower with
      | none =>
        rw [hfind] at hhit
        rw [rewriteRuns_cons_of_no_hit hword hhit, if_pos rfl, exchange, hfind]
      | some v =>
        rw [hfind] at hhit
        rw [rewriteRuns_cons_of_hit hword hhit, if_pos rfl, exchange, hfind]
        rfl

/-! ## Phrasebooks that swap words -/

/-- A phrasebook whose phrases are small words, each written instead of what is written instead of
it. -/
structure IsSwap (b : Phrasebook) : Prop where
  small : ∀ e ∈ b.entries.entries, e.1.IsSmallWord
  back : ∀ e ∈ b.entries.entries, (e.2, e.1) ∈ b.entries.entries

theorem isSwap_iff : b.IsSwap ↔ b.entries.entries.all (fun e =>
    e.1.IsSmallWord && ((e.2, e.1) ∈ b.entries.entries)) = true := by
  simp only [List.all_eq_true, Bool.and_eq_true, decide_eq_true_eq]
  constructor
  · intro h e he
    exact ⟨h.small e he, h.back e he⟩
  · intro hall
    exact ⟨fun e he => (hall e he).1, fun e he => (hall e he).2⟩

instance (b : Phrasebook) : Decidable b.IsSwap :=
  decidable_of_iff _ isSwap_iff.symm

/-- A word that is written instead of another: as a whole, or before an apostrophe. A word of which
nothing is a phrase is kept. -/
inductive Trades (b : Phrasebook) : Text → Text → Prop
  | whole {w w' : Text} (h : (w, w') ∈ b.entries.entries) : Trades b w w'
  | head {k k' tail : Text} (h : (k, k') ∈ b.entries.entries) :
      Trades b (k ++ '\'' :: tail) (k' ++ '\'' :: tail)
  | kept {w : Text} (hwhole : b.entries.find? w = none) (hhead : b.headReplaced? w = none) :
      Trades b w w

/-- Every word is traded for a word. -/
theorem exists_trades (b : Phrasebook) (hw : ∀ c ∈ w, toLower c = [c]) : ∃ w', b.Trades w w' := by
  cases hwhole : b.entries.find? w with
  | some w' => exact ⟨w', .whole (Dict.find?_eq_some_iff.mp hwhole)⟩
  | none =>
    cases hhead : b.headReplaced? w with
    | none => exact ⟨w, .kept hwhole hhead⟩
    | some out =>
      obtain ⟨head, tail, v, ⟨rfl, -⟩, hentry, -⟩ := headReplaced?_eq_some_iff.mp hhead
      have hlow : head.lower = head :=
        Text.lower_eq_self_of_toLower fun c hc => hw c (List.mem_append_left _ hc)
      rw [hlow] at hentry
      exact ⟨v ++ '\'' :: tail, .head hentry⟩

namespace IsSwap

theorem isWordwise (hb : b.IsSwap) : b.IsWordwise := by
  intro e he hspace
  exact absurd ((hb.small e he).word ' ' hspace) (by decide)

theorem small_back (hb : b.IsSwap) (h : (k, k') ∈ b.entries.entries) : k'.IsSmallWord :=
  hb.small _ (hb.back _ h)

/-- **Trading is mutual.** -/
theorem symm (hb : b.IsSwap) (h : b.Trades w w') : b.Trades w' w := by
  cases h with
  | whole h => exact .whole (hb.back _ h)
  | head h => exact .head (hb.back _ h)
  | kept hwhole hhead => exact .kept hwhole hhead

/-- What holds of the characters of small words and of a word holds of what it is traded for. -/
theorem forall_mem_of_trades {p : Char → Prop} (hb : b.IsSwap)
    (hp : ∀ k : Text, k.IsSmallWord → ∀ c ∈ k, p c) (h : b.Trades w w') (hw : ∀ c ∈ w, p c) :
    ∀ c ∈ w', p c := by
  cases h with
  | whole h => exact hp w' (hb.small_back h)
  | @head k k' tail h =>
    obtain ⟨-, htail⟩ := List.forall_mem_append.mp hw
    exact List.forall_mem_append.mpr ⟨hp k' (hb.small_back h), htail⟩
  | kept _ _ => exact hw

theorem ne_nil_of_trades (hb : b.IsSwap) (h : b.Trades w w') (hw : w ≠ []) : w' ≠ [] := by
  cases h with
  | whole h => exact (hb.small_back h).ne_nil
  | head _ => simp
  | kept _ _ => exact hw

/-- What is written for a word is what it is traded for. -/
theorem exchange_eq (hb : b.IsSwap) (hw : ∀ c ∈ w, toLower c = [c]) (h : b.Trades w w') :
    b.exchange w = w' := by
  have hlow : w.lower = w := Text.lower_eq_self_of_toLower hw
  rw [exchange, hlow]
  cases h with
  | whole h =>
    rw [Dict.find?_eq_some_iff.mpr h]
    exact Text.inCaseOf_of_small (hb.small _ h).small w'
  | @head k k' tail h =>
    have hk := hb.small _ h
    have hwhole : b.entries.find? (k ++ '\'' :: tail) = none := by
      refine Option.eq_none_iff_forall_not_mem.mpr fun v hv => ?_
      have hword := (hb.small _ (Dict.find?_eq_some_iff.mp hv)).word '\'' (by simp)
      exact absurd hword (by decide)
    have hapart : '\'' ∉ k := fun hc => absurd (hk.word '\'' hc) (by decide)
    have hentry : (k.lower, k') ∈ b.entries.entries := by
      rwa [Text.lower_eq_self_of_toLower hk.toLower_eq]
    have hhead : b.headReplaced? (k ++ '\'' :: tail) = some (k' ++ '\'' :: tail) :=
      headReplaced?_eq_some_iff.mpr ⟨k, tail, k', ⟨rfl, hapart⟩, hentry, by
        rw [Text.inCaseOf_of_small hk.small]⟩
    rw [hwhole, hhead]
    rfl
  | kept hwhole hhead =>
    rw [hwhole, hhead]
    rfl

/-- A word is written for the word that is written for it. -/
theorem exchange_exchange (hb : b.IsSwap) (hw : ∀ c ∈ w, toLower c = [c]) :
    b.exchange (b.exchange w) = w := by
  obtain ⟨w', htrades⟩ := exists_trades b hw
  have hw' : ∀ c ∈ w', toLower c = [c] :=
    hb.forall_mem_of_trades (fun _ hk => hk.toLower_eq) htrades hw
  rw [hb.exchange_eq hw htrades, hb.exchange_eq hw' (hb.symm htrades)]

/-! ## Texts -/

/-- A run of small letters is exchanged for one that can stand in its place. -/
theorem standsFor_exchangeRun (hb : b.IsSwap) (ht : ∀ c ∈ t, toLower c = [c]) {r : Run}
    (hr : r ∈ t.runs) : (b.exchangeRun r).StandsFor r := by
  have hcut := Text.isCutInto_runs t
  have hne := hcut.chars_ne_nil r hr
  have hkind := hcut.kind r hr
  rw [exchangeRun]
  cases hword : r.isWord with
  | false => exact ⟨rfl, hne, hkind⟩
  | true =>
    rw [hword] at hkind
    obtain ⟨w', htrades⟩ := exists_trades b (Text.forall_mem_of_mem_runs ht hr)
    rw [if_pos rfl, hb.exchange_eq (Text.forall_mem_of_mem_runs ht hr) htrades]
    exact ⟨hword.symm, hb.ne_nil_of_trades htrades hne,
      hb.forall_mem_of_trades (fun _ hk => hk.isWordChar_eq) htrades hkind⟩

theorem exchangeRun_exchangeRun (hb : b.IsSwap) (ht : ∀ c ∈ t, toLower c = [c]) {r : Run}
    (hr : r ∈ t.runs) : b.exchangeRun (b.exchangeRun r) = r := by
  obtain ⟨chars, isWord⟩ := r
  cases isWord with
  | false => rfl
  | true =>
    have hback := hb.exchange_exchange (Text.forall_mem_of_mem_runs ht hr)
    exact congrArg (Run.mk · true) hback

/-- The runs of what is written are the runs of the text, each exchanged. -/
theorem runs_rewrite (hb : b.IsSwap) (ht : ∀ c ∈ t, toLower c = [c]) :
    (b.rewrite t).runs = t.runs.map b.exchangeRun := by
  have hcut := (Text.isCutInto_runs t).map fun r hr => hb.standsFor_exchangeRun ht hr
  rw [rewrite, hb.isWordwise.rewriteRuns_eq]
  exact hcut.eq_runs.symm

/-- A word that is traded is written anew to what it is traded for. -/
theorem rewrite_eq_of_trades (hb : b.IsSwap) (hne : w ≠ []) (hword : ∀ c ∈ w, isWordChar c = true)
    (hw : ∀ c ∈ w, toLower c = [c]) (h : b.Trades w w') : b.rewrite w = w' := by
  rw [rewrite, Text.runs_eq_singleton hne hword, hb.isWordwise.rewriteRuns_eq, List.map_singleton,
    exchangeRun, if_pos rfl, hb.exchange_eq hw h]
  simp

end IsSwap

/-- **Swapped words are swapped back.** By a phrasebook that swaps small words, a text that lower
case leaves as it is and that is written anew twice is the text again. The first time already the
boundaries of its words stay where they are, and every phrase is replaced, whether it is a word or
stands before the first apostrophe of one. -/
theorem rewrite_rewrite_of_isSwap (hb : b.IsSwap) (ht : ∀ c ∈ t, toLower c = [c]) :
    b.rewrite (b.rewrite t) = t ∧
      (b.rewrite t).runs.map Run.isWord = t.runs.map Run.isWord ∧
      ∀ k k' tail, (k, k') ∈ b.entries.entries →
        (∀ c ∈ tail, isWordChar c = true ∧ toLower c = [c]) →
          b.rewrite k = k' ∧ b.rewrite (k ++ '\'' :: tail) = k' ++ '\'' :: tail := by
  have hruns := hb.runs_rewrite ht
  refine ⟨?_, ?_, ?_⟩
  · have hback : (t.runs.map b.exchangeRun).map b.exchangeRun = t.runs := by
      have hself : ∀ r ∈ t.runs, (b.exchangeRun ∘ b.exchangeRun) r = id r :=
        fun r hr => hb.exchangeRun_exchangeRun ht hr
      rw [List.map_map, List.map_congr_left hself, List.map_id]
    calc b.rewrite (b.rewrite t)
        = ((b.rewrite t).runs.map b.exchangeRun).flatMap Run.chars :=
          hb.isWordwise.rewriteRuns_eq _
      _ = t.runs.flatMap Run.chars := by rw [hruns, hback]
      _ = t := Text.flatMap_chars_runs t
  · rw [hruns, List.map_map]
    exact List.map_congr_left fun r hr => (hb.standsFor_exchangeRun ht hr).isWord_eq
  · intro k k' tail hentry htail
    have hk := hb.small _ hentry
    refine ⟨hb.rewrite_eq_of_trades hk.ne_nil hk.isWordChar_eq hk.toLower_eq (.whole hentry), ?_⟩
    refine hb.rewrite_eq_of_trades (by simp) ?_ ?_ (.head hentry)
    · refine List.forall_mem_append.mpr ⟨hk.isWordChar_eq, ?_⟩
      exact List.forall_mem_cons.mpr ⟨by decide, fun c hc => (htail c hc).1⟩
    · refine List.forall_mem_append.mpr ⟨hk.toLower_eq, ?_⟩
      exact List.forall_mem_cons.mpr ⟨by decide, fun c hc => (htail c hc).2⟩

/-- Four words, each for another. -/
def mirror : Phrasebook :=
  afterInserts [("he".toList, "she".toList), ("she".toList, "he".toList),
    ("him".toList, "her".toList), ("her".toList, "him".toList)]

/-- Words that are swapped, whole and before apostrophes, and words that are kept. -/
def gossip : Text := "she'd told him: 'twas the 3rd time he's late (她).".toList

/-- The text is written anew to another one and then to itself. -/
theorem rewrite_rewrite_of_isSwap_gossip :
    mirror.IsSwap ∧ (∀ c ∈ gossip, toLower c = [c]) ∧
      mirror.rewrite gossip = "he'd told her: 'twas the 3rd time she's late (她).".toList ∧
      mirror.rewrite (mirror.rewrite gossip) = gossip := by
  have hswap : mirror.IsSwap := by decide +kernel
  have hlow : gossip.all (fun c => toLower c = [c]) = true := by decide +kernel
  have hstays : ∀ c ∈ gossip, toLower c = [c] := fun c hc =>
    of_decide_eq_true (List.all_eq_true.mp hlow c hc)
  exact ⟨hswap, hstays, by decide +kernel, (rewrite_rewrite_of_isSwap hswap hstays).1⟩

end Phrasebook

end Colloquy
