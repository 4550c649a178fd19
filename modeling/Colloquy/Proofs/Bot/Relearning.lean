import Colloquy.Proofs.Bot.Batches

/-!
# Learning a batch again

A batch that is taught a second time changes nothing, even though on the way templates come back
that were replaced within the batch: of all rules for an address the last one stands in the end, and
it stood there before.

* `Request.foldl_settle_again` — the same requests once more settle nothing anew.
* `Knows.learn_again` — rules that are known already are not new, and make no nodes.
* `Bot.learn_twice` — the second tally of a batch, and the bot after it.
-/

namespace Colloquy

/-! ## Requests that are repeated -/

namespace Request

variable {α : Type} {pairs : Bool} {a : Address} {rs : List (Request α)}

/-- When rules replace each other, what stood at an address before counts only if none comes. -/
theorem foldl_settle_eq_or (h : ∀ r ∈ rs, r.policy = .overwrite) (held? : Option α) :
    rs.foldl (settle pairs a) held? = (rs.foldl (settle pairs a) none).or held? := by
  induction rs generalizing held? with
  | nil => rfl
  | cons r rs ih =>
    obtain ⟨hr, hrs⟩ := List.forall_mem_cons.mp h
    have hsettle : ∀ held? : Option α,
        r.settle pairs a held? = (r.settle pairs a none).or held? := by
      intro held?
      simp only [settle, hr]
      split <;> rfl
    rw [List.foldl_cons, List.foldl_cons, ih hrs, hsettle, ih hrs (r.settle pairs a none),
      Option.or_assoc]

/-- The same requests once more settle nothing anew. -/
theorem foldl_settle_again (h : ∀ r ∈ rs, r.policy = .overwrite) (held? : Option α) :
    rs.foldl (settle pairs a) (rs.foldl (settle pairs a) held?) =
      rs.foldl (settle pairs a) held? := by
  rw [foldl_settle_eq_or h (rs.foldl _ held?), foldl_settle_eq_or h held?, ← Option.or_assoc,
    Option.or_self]

end Request

/-! ## Rules that are known -/

section

variable {settings : Settings} {r : Rule}

theorem isHeld_of_mem {earlier : List Rule} (hr : r ∈ earlier) (hsound : r.isSound settings) :
    isHeld settings earlier r.address := by
  refine List.any_eq_true.mpr ⟨r, hr, ?_⟩
  rw [hsound, beq_self_eq_true]
  rfl

/-- When rules are not replaced, a rule that came before stands back. -/
theorem Rule.fault?_ne_none_of_mem {earlier : List Rule} (hpolicy : settings.policy = .reject)
    (hr : r ∈ earlier) : r.fault? settings earlier ≠ none := by
  intro hnone
  obtain ⟨hsound, hfree⟩ := Rule.fault?_eq_none_iff.mp hnone
  have hheld := isHeld_of_mem hr hsound
  rw [hfree hpolicy] at hheld
  cases hheld

/-- When rules are replaced, nothing depends on those that came before. -/
theorem Rule.fault?_congr (hpolicy : settings.policy = .overwrite) (earlier earlier' : List Rule) :
    r.fault? settings earlier = r.fault? settings earlier' := by
  simp only [fault?, hpolicy, reduceCtorEq, false_and]

theorem refusals_congr (hpolicy : settings.policy = .overwrite)
    (earlier earlier' rules : List Rule) :
    refusals settings earlier rules = refusals settings earlier' rules := by
  induction rules generalizing earlier earlier' with
  | nil => rfl
  | cons r rules ih =>
    rw [refusals, refusals, Rule.fault?_congr hpolicy earlier earlier',
      ih (earlier ++ [r]) (earlier' ++ [r])]

end

namespace Bot

namespace Knows

variable {b : Bot} {history : List Rule}

/-- A rule that is known is not new, and no node of the trie changes when it comes again. -/
theorem learn_again_singleton (h : b.Knows history) {r : Rule} (hr : r ∈ history) :
    (b.learn [r]).1.added = 0 ∧
      ∃ stored, (b.learn [r]).2 = b.withTrie { b.trie with rules := stored } := by
  obtain ⟨e, -, hlearn⟩ | ⟨hnone, hfree, -⟩ | ⟨-, -, id, hlearn⟩ := h.learn_cases r
  · rw [hlearn]
    exact ⟨rfl, b.trie.rules, rfl⟩
  · have hheld := isHeld_of_mem hr (Rule.fault?_eq_none_iff.mp hnone).1
    rw [hfree] at hheld
    cases hheld
  · rw [hlearn]
    exact ⟨rfl, _, rfl⟩

/-- Rules that are known are not new, and no node of the trie changes when they come again. -/
theorem learn_again (h : b.Knows history) {rules : List Rule} (hrules : ∀ r ∈ rules, r ∈ history) :
    (b.learn rules).1.added = 0 ∧
      ∃ stored, (b.learn rules).2 = b.withTrie { b.trie with rules := stored } := by
  induction rules generalizing b history with
  | nil => exact ⟨rfl, b.trie.rules, rfl⟩
  | cons r rules ih =>
    obtain ⟨hr, hrules⟩ := List.forall_mem_cons.mp hrules
    obtain ⟨hadded, stored, hlearn⟩ := h.learn_again_singleton hr
    obtain ⟨hadded', stored', hlearn'⟩ := ih (h.learn_singleton r) fun r hr =>
      List.mem_append_left _ (hrules r hr)
    rw [learn_cons, Tally.added_append, hadded, hadded', hlearn', hlearn]
    exact ⟨rfl, stored', rfl⟩

/-- When rules are not replaced, all rules that are known are refused, and nothing changes. -/
theorem learn_again_of_reject (h : b.Knows history) (hpolicy : b.settings.policy = .reject)
    {rules : List Rule} (hrules : ∀ r ∈ rules, r ∈ history) :
    (b.learn rules).2 = b ∧ (b.learn rules).1.replaced = 0 ∧
      (b.learn rules).1.refused.map Refusal.address = rules.map Rule.address := by
  induction rules with
  | nil => exact ⟨rfl, rfl, rfl⟩
  | cons r rules ih =>
    obtain ⟨hr, hrules⟩ := List.forall_mem_cons.mp hrules
    have hfault := Rule.fault?_ne_none_of_mem hpolicy hr
    obtain ⟨e, -, hlearn⟩ | ⟨hnone, -⟩ | ⟨hnone, -⟩ := h.learn_cases r
    · obtain ⟨hsame, hreplaced, hrefused⟩ := ih hrules
      rw [learn_cons, hlearn, Tally.replaced_append, Tally.refused_append, List.map_append]
      exact ⟨hsame, by rw [hreplaced], by rw [hrefused]; rfl⟩
    · exact absurd hnone hfault
    · exact absurd hnone hfault

/-- When rules are replaced, in the end every address has the template it had. -/
theorem at?_learn_learn (h : b.Knows history) (hpolicy : b.settings.policy = .overwrite)
    (rules : List Rule) (a : Address) :
    ((b.learn rules).2.learn rules).2.trie.at? a = (b.learn rules).2.trie.at? a := by
  obtain ⟨l, hkeeps⟩ := h.keeps
  obtain ⟨l', hkeeps'⟩ := (h.learn rules).keeps
  have hrequests : ∀ q ∈ rules.filterMap (Rule.request? b.settings), q.policy = .overwrite := by
    intro q hq
    obtain ⟨r, -, hr⟩ := List.mem_filterMap.mp hq
    obtain ⟨-, rfl⟩ := Rule.request?_eq_some hr
    exact hpolicy
  rw [trie_learn, hkeeps'.at?_run, settings_learn, trie_learn, hkeeps.at?_run]
  exact Request.foldl_settle_again hrequests _

/-- A batch that comes again leaves the bot as it was. -/
theorem learn_learn (h : b.Knows history) (rules : List Rule) :
    ((b.learn rules).2.learn rules).2 = (b.learn rules).2 := by
  have hknown : ∀ r ∈ rules, r ∈ history ++ rules := fun r hr => List.mem_append_right _ hr
  have hfirst := h.learn rules
  cases hpolicy : b.settings.policy with
  | reject => exact (hfirst.learn_again_of_reject hpolicy hknown).1
  | overwrite =>
    -- the nodes are the same, so the tries can only differ in what is at the addresses
    obtain ⟨hadded, stored, hlearn⟩ := hfirst.learn_again hknown
    have hsize := hfirst.size_learn rules
    have hat := h.at?_learn_learn hpolicy rules
    rw [hadded, hlearn] at hsize
    rw [hlearn] at hat ⊢
    obtain ⟨l, cat, hgrown, -⟩ := hfirst.keeps
    exact congrArg (b.learn rules).2.withTrie (hgrown.holds.eq_of_at?_eq hsize hat)

end Knows

/-- **Learning a batch again changes nothing.** Of every batch that a bot is taught twice, whatever
it was taught before and whatever is wrong with rules of the batch: the second time leaves the bot
as the first did, its trie with all nodes and numbers, and no rule is new. When rules are replaced,
all rules that were stored the first time are replaced, and the same are refused; when they are not,
the whole batch is refused. -/
theorem learn_twice (settings : Settings) (books : Phrasebooks) (profile : Profile)
    (clock : Instant) (batches : List (List Rule)) (rules : List Rule) :
    let first := ((new settings books profile clock).taught batches).learn rules
    let second := first.2.learn rules
    second.2 = first.2 ∧ second.1.added = 0 ∧
      (settings.policy = .overwrite →
        second.1.replaced = first.1.added + first.1.replaced ∧
          second.1.refused = first.1.refused) ∧
      (settings.policy = .reject →
        second.1.replaced = 0 ∧
          second.1.refused.map Refusal.address = rules.map Rule.address) := by
  intro first second
  have hknows := knows_taught settings books profile clock batches
  have hsettings := settings_taught settings books profile clock batches
  have hfirst : first.2.Knows (batches.flatten ++ rules) := hknows.learn rules
  have hknown : ∀ r ∈ rules, r ∈ batches.flatten ++ rules := fun r hr => List.mem_append_right _ hr
  have hadded : second.1.added = 0 := (hfirst.learn_again hknown).1
  rw [← hsettings]
  refine ⟨hknows.learn_learn rules, hadded, fun hpolicy => ?_, fun hpolicy => ?_⟩
  · have hrefused : second.1.refused = first.1.refused := by
      rw [hfirst.refused_learn, hknows.refused_learn]
      exact refusals_congr hpolicy _ _ rules
    have htotal : first.1.total = rules.length := total_learn _ rules
    have htotal' : second.1.total = rules.length := total_learn _ rules
    rw [Tally.total] at htotal htotal'
    rw [hadded, hrefused] at htotal'
    exact ⟨by omega, hrefused⟩
  · exact (hfirst.learn_again_of_reject hpolicy hknown).2

/-- A bot that was taught a greeting, and replaces it. -/
def greetsLately : Bot :=
  (new {} ∅ Dict.empty 0).taught [[greeting "Hi."]]

/-- Of two greetings in one batch the first comes back on the way and is replaced again; and where
rules are not replaced, the whole batch is refused. -/
theorem learn_twice_mixed :
    (greetsLately.learn mixed).1.added = 1 ∧ (greetsLately.learn mixed).1.replaced = 2 ∧
      ((greetsLately.learn mixed).2.learn mixed).1.replaced = 1 + 2 ∧
      ((greetsLately.learn mixed).2.learn mixed).2 = (greetsLately.learn mixed).2 ∧
      (greetsLately.learn mixed).2.trie.at? (greeting "").address = some (.text "Hey.".toList) ∧
      ((greetsSteadily.learn mixed).2.learn mixed).1.refused.length = 5 := by
  have hadded : (greetsLately.learn mixed).1.added = 1 := by decide +kernel
  have hreplaced : (greetsLately.learn mixed).1.replaced = 2 := by decide +kernel
  obtain ⟨hsame, -, hlately, -⟩ := learn_twice {} ∅ Dict.empty 0 [[greeting "Hi."]] mixed
  obtain ⟨-, -, -, hsteadily⟩ :=
    learn_twice { policy := .reject } ∅ Dict.empty 0 [[greeting "Hi."]] mixed
  have hagain := (hlately rfl).1.trans (congrArg₂ (· + ·) hadded hreplaced)
  have hrefused := congrArg List.length (hsteadily rfl).2
  rw [List.length_map] at hrefused
  exact ⟨hadded, hreplaced, hagain, hsame, rfl, hrefused⟩

end Bot

end Colloquy
