import Colloquy.Proofs.Bot.Learning

/-!
# What becomes of a batch

Of every rule of a batch it is told what became of it, and a rule that should not be there is not
let in. Whether a rule is refused can be told without any trie, from the rules that were taught
before it: those that are well-formed hold their addresses.

* `Rule.fault?`, `refusals` — what is wrong with a rule that comes after others, and with a batch.
* `Bot.Knows` — a bot that was taught some rules: what stands in its trie, and that it may.
* `Knows.learn_cases` — all that can become of a single rule.
* `Knows.learn` — what a batch does, rule by rule.
* `Bot.learn_accounts` — the tally of a batch, and what is in the trie of a bot.
-/

namespace Colloquy

/-! ## What is wrong with a rule -/

/-- Whether a rule is stored wherever nothing stands at its address. -/
def Rule.isSound (settings : Settings) (r : Rule) : Bool :=
  r.template.check.isOk && (r.address.check settings.wildcardPairs).isOk

/-- Whether an address is held by one of the rules that were taught earlier. -/
def isHeld (settings : Settings) (earlier : List Rule) (a : Address) : Bool :=
  earlier.any fun r => r.isSound settings && r.address == a

/-- A check is passed when there is nothing to report. -/
theorem isOk_iff {ε : Type} {x : Except ε Unit} : x.isOk ↔ x = .ok () := by
  cases x with
  | error e => simp [Except.isOk, Except.toBool]
  | ok u => simp [Except.isOk, Except.toBool]

theorem Rule.isSound_iff {settings : Settings} {r : Rule} : r.isSound settings ↔
    r.template.check = .ok () ∧ r.address.check settings.wildcardPairs = .ok () := by
  rw [isSound, Bool.and_eq_true, isOk_iff, isOk_iff]

/-- What is wrong with a rule that comes after others: its template, or else its address, or else
that the address is held by another and rules are not to be replaced. -/
def Rule.fault? (settings : Settings) (earlier : List Rule) (r : Rule) : Option RuleError :=
  match r.template.check, r.address.check settings.wildcardPairs with
  | .error e, _ => some (.template e)
  | .ok (), .error e => some (.address e)
  | .ok (), .ok () =>
    if settings.policy = .reject ∧ isHeld settings earlier r.address then
      some (.address (.occupied r.address))
    else none

/-- Nothing is wrong with a rule that could be stored and need not stand back. -/
theorem Rule.fault?_eq_none_iff {settings : Settings} {earlier : List Rule} {r : Rule} :
    r.fault? settings earlier = none ↔ r.isSound settings ∧
      (settings.policy = .reject → isHeld settings earlier r.address = false) := by
  rw [isSound_iff]
  unfold fault?
  split
  · rename_i e hcheck
    simp [hcheck]
  · rename_i e hcheck haddress
    simp [haddress]
  · rename_i hcheck haddress
    simp [hcheck, haddress]

/-- The rules of a batch with which something is wrong, in order, after others were taught. -/
def refusals (settings : Settings) (earlier : List Rule) : List Rule → List Refusal
  | [] => []
  | r :: rules =>
    ((r.fault? settings earlier).map (Refusal.mk r.address)).toList ++
      refusals settings (earlier ++ [r]) rules

theorem isHeld_concat (settings : Settings) (earlier : List Rule) (r : Rule) (a : Address) :
    isHeld settings (earlier ++ [r]) a =
      (isHeld settings earlier a || (r.isSound settings && r.address == a)) := by
  simp [isHeld]

/-- An address that is held may be held. -/
theorem check_of_isHeld {settings : Settings} {earlier : List Rule} {a : Address}
    (h : isHeld settings earlier a) : a.check settings.wildcardPairs = .ok () := by
  obtain ⟨r, -, hr⟩ := List.any_eq_true.mp h
  rw [Bool.and_eq_true, Rule.isSound_iff, beq_iff_eq] at hr
  obtain ⟨⟨-, hcheck⟩, rfl⟩ := hr
  exact hcheck

/-! ## Tallies -/

/-- The tally of two batches. -/
instance : Append Tally where
  append x y := ⟨x.added + y.added, x.replaced + y.replaced, x.refused ++ y.refused⟩

namespace Tally

@[simp] theorem added_append (x y : Tally) : (x ++ y).added = x.added + y.added := rfl

@[simp] theorem replaced_append (x y : Tally) : (x ++ y).replaced = x.replaced + y.replaced := rfl

@[simp] theorem refused_append (x y : Tally) : (x ++ y).refused = x.refused ++ y.refused := rfl

theorem append_empty (x : Tally) : x ++ ({} : Tally) = x := by
  show Tally.mk _ _ _ = x
  rw [List.append_nil]
  rfl

theorem append_assoc (x y z : Tally) : x ++ y ++ z = x ++ (y ++ z) := by
  show Tally.mk _ _ _ = Tally.mk _ _ _
  simp [Nat.add_assoc]

/-- To count a rule is to add the tally of this rule alone. -/
theorem count_eq_append (tally : Tally) (a : Address) (o : Except RuleError Bool) :
    tally.count a o = tally ++ ({} : Tally).count a o := by
  cases o with
  | error e => rfl
  | ok fresh =>
    cases fresh with
    | true => exact congrArg (Tally.mk _ _) (List.append_nil _).symm
    | false => exact congrArg (Tally.mk _ _) (List.append_nil _).symm

/-- The number of rules that were counted. -/
def total (tally : Tally) : Nat :=
  tally.added + tally.replaced + tally.refused.length

theorem total_append (x y : Tally) : (x ++ y).total = x.total + y.total := by
  simp only [total, added_append, replaced_append, refused_append, List.length_append]
  omega

theorem total_count (a : Address) (o : Except RuleError Bool) :
    (({} : Tally).count a o).total = 1 := by
  cases o with
  | error e => rfl
  | ok fresh => cases fresh <;> rfl

end Tally

namespace Bot

variable {b : Bot} {history : List Rule}

/-! ## Batches in parts -/

/-- What becomes of a single rule does not depend on what was counted before it. -/
theorem exists_learnRule_eq (settings : Settings) (t : Trie Template) (r : Rule) :
    ∃ o t', ∀ tally, learnRule settings (t, tally) r = (t', tally.count r.address o) := by
  cases hq : r.request? settings with
  | none =>
    obtain ⟨e, he⟩ := learnRule_of_request?_eq_none hq
    exact ⟨.error e, t, he t⟩
  | some q => exact ⟨_, _, learnRule_of_request?_eq_some hq t⟩

/-- What was counted before a batch is counted in its tally. -/
theorem foldl_learnRule_eq (settings : Settings) (t : Trie Template) (tally : Tally)
    (rules : List Rule) :
    rules.foldl (learnRule settings) (t, tally) =
      ((rules.foldl (learnRule settings) (t, {})).1,
        tally ++ (rules.foldl (learnRule settings) (t, {})).2) := by
  induction rules generalizing t tally with
  | nil => rw [List.foldl_nil, List.foldl_nil, tally.append_empty]
  | cons r rules ih =>
    obtain ⟨o, t', hlearn⟩ := exists_learnRule_eq settings t r
    rw [List.foldl_cons, List.foldl_cons, hlearn, hlearn, ih t' (tally.count r.address o),
      ih t' (({} : Tally).count r.address o), tally.count_eq_append, Tally.append_assoc]

/-- **Two batches or one.** The rules of two batches may be taught at once. -/
theorem learn_append (b : Bot) (xs ys : List Rule) :
    b.learn (xs ++ ys) = ((b.learn xs).1 ++ ((b.learn xs).2.learn ys).1,
      ((b.learn xs).2.learn ys).2) := by
  rw [learn, List.foldl_append, ← Prod.eta (xs.foldl (learnRule b.settings) (b.trie, {})),
    foldl_learnRule_eq]
  rfl

theorem learn_cons (b : Bot) (r : Rule) (rules : List Rule) :
    b.learn (r :: rules) = ((b.learn [r]).1 ++ ((b.learn [r]).2.learn rules).1,
      ((b.learn [r]).2.learn rules).2) :=
  b.learn_append [r] rules

theorem learn_singleton_of_eq {r : Rule} {t : Trie Template} {tally : Tally}
    (h : learnRule b.settings (b.trie, {}) r = (t, tally)) :
    b.learn [r] = (tally, b.withTrie t) := by
  rw [learn, List.foldl_cons, h]
  rfl

@[simp] theorem settings_learn (b : Bot) (rules : List Rule) :
    (b.learn rules).2.settings = b.settings := rfl

/-- Every rule is counted once. -/
theorem total_learn (b : Bot) (rules : List Rule) : (b.learn rules).1.total = rules.length := by
  induction rules generalizing b with
  | nil => rfl
  | cons r rules ih =>
    obtain ⟨o, t', hlearn⟩ := exists_learnRule_eq b.settings b.trie r
    rw [learn_cons, Tally.total_append, ih, learn_singleton_of_eq (hlearn {}),
      Tally.total_count, List.length_cons, Nat.add_comm]

/-! ## Bots that were taught some rules -/

/-- What is known of a bot that was taught some rules, in any batches: there is a template at the
addresses that are held by these, and all templates are well-formed. -/
structure Knows (b : Bot) (history : List Rule) : Prop where
  keeps : ∃ l, Trie.Keeps b.settings.matchOptions b.trie l
  isSome_at? : ∀ a, (b.trie.at? a).isSome = isHeld b.settings history a
  check : ∀ {a t}, b.trie.at? a = some t → t.check = .ok ()

namespace Knows

theorem new (settings : Settings) (books : Phrasebooks) (profile : Profile) (clock : Instant) :
    (Bot.new settings books profile clock).Knows [] := by
  have hkeeps : Trie.Keeps settings.matchOptions
      (Bot.new settings books profile clock).trie .empty := Trie.keeps_empty _
  refine ⟨⟨_, hkeeps⟩, fun a => ?_, fun {a t} h => ?_⟩
  · rw [hkeeps.agrees.at?_eq]
    rfl
  · rw [hkeeps.agrees.at?_eq] at h
    cases h

/-- The template at an address after one more rule. -/
theorem at?_learn_singleton (h : b.Knows history) (r : Rule) (a : Address) :
    (b.learn [r]).2.trie.at? a =
      if r.isSound b.settings ∧ r.address = a then
        match b.settings.policy with
        | .overwrite => some r.template
        | .reject => (b.trie.at? a).or (some r.template)
      else b.trie.at? a := by
  obtain ⟨l, hkeeps⟩ := h.keeps
  rw [trie_learn, hkeeps.at?_run]
  cases hcheck : r.template.check with
  | error e =>
    have hsound : ¬ (r.isSound b.settings ∧ r.address = a) := by
      simp [Rule.isSound, hcheck, Except.isOk, Except.toBool]
    have hnone : r.request? b.settings = none := by rw [Rule.request?, hcheck]
    rw [List.filterMap_cons_none hnone, if_neg hsound]
    rfl
  | ok u =>
    have hsome : r.request? b.settings = some (r.request b.settings) := by
      rw [Rule.request?, hcheck]
    rw [List.filterMap_cons_some hsome]
    show (r.request b.settings).settle b.settings.wildcardPairs a (b.trie.at? a) = _
    have hsound : r.isSound b.settings = (r.address.check b.settings.wildcardPairs).isOk := by
      rw [Rule.isSound, hcheck]
      rfl
    by_cases ha : r.address = a
    · subst ha
      rw [hsound]
      cases hpolicy : b.settings.policy <;> simp [Request.settle, Rule.request, hpolicy]
    · rw [if_neg fun hr => ha hr.2]
      exact if_neg fun hr => ha hr.1

/-- A bot that was taught one more rule. -/
theorem learn_singleton (h : b.Knows history) (r : Rule) :
    (b.learn [r]).2.Knows (history ++ [r]) where
  keeps := by
    obtain ⟨l, hkeeps⟩ := h.keeps
    rw [trie_learn]
    exact ⟨_, (hkeeps.run _).2⟩
  isSome_at? a := by
    rw [h.at?_learn_singleton, settings_learn, isHeld_concat, ← h.isSome_at?]
    by_cases hr : r.isSound b.settings ∧ r.address = a
    · rw [if_pos hr, hr.1, hr.2]
      cases b.settings.policy <;> simp
    · rw [if_neg hr]
      have hfalse : (r.isSound b.settings && r.address == a) = false := by
        simpa using hr
      rw [hfalse, Bool.or_false]
  check {a t} hat := by
    rw [h.at?_learn_singleton] at hat
    split at hat
    · rename_i hr
      have hcheck : r.template.check = .ok () := (Rule.isSound_iff.mp hr.1).1
      -- what stands there is the template of the rule, or it stood there before
      obtain hnew | hold : t = r.template ∨ b.trie.at? a = some t := by
        split at hat
        · exact .inl (Option.some.inj hat).symm
        · obtain hold | ⟨-, hnew⟩ := Option.or_eq_some_iff.mp hat
          · exact .inr hold
          · exact .inl (Option.some.inj hnew).symm
      · exact hnew ▸ hcheck
      · exact h.check hold
    · exact h.check hat

/-- The trie of a bot has a number at the addresses that are held. -/
theorem isSome_idAt? (h : b.Knows history) (a : Address) :
    (b.trie.idAt? a).isSome = isHeld b.settings history a := by
  obtain ⟨l, cat, hgrown, hlists⟩ := h.keeps
  rw [← hgrown.holds.isSome_at?, h.isSome_at?]

/-- **All that can become of a rule:** something is wrong with it, and the bot stays as it was; or
it is the first at its address; or it takes the place of the template at its address, and no node
of the trie changes. -/
theorem learn_cases (h : b.Knows history) (r : Rule) :
    (∃ e, r.fault? b.settings history = some e ∧
      b.learn [r] = ({ refused := [⟨r.address, e⟩] }, b)) ∨
    (r.fault? b.settings history = none ∧ isHeld b.settings history r.address = false ∧
      b.learn [r] = ({ added := 1 }, b.withTrie (b.trie.add r.address r.template))) ∨
    (r.fault? b.settings history = none ∧ isHeld b.settings history r.address = true ∧
      ∃ id, b.learn [r] = ({ replaced := 1 },
        b.withTrie { b.trie with rules := b.trie.rules.setIfInBounds id r.template })) := by
  obtain ⟨l, cat, hgrown, -⟩ := h.keeps
  have hpairs : b.trie.options.wildcardPairs = b.settings.wildcardPairs :=
    congrArg MatchOptions.wildcardPairs hgrown.options_eq
  have hheld := h.isSome_idAt? r.address
  unfold Rule.fault?
  split
  · rename_i e hcheck
    exact .inl ⟨_, rfl, learn_singleton_of_eq (learnRule_of_check_eq_error {} hcheck)⟩
  · rename_i e hcheck haddress
    rw [← hpairs] at haddress
    exact .inl ⟨_, rfl, learn_singleton_of_eq
      (learnRule_of_insert_eq_error {} hcheck (Trie.insert_eq_error _ _ haddress))⟩
  · rename_i hcheck haddress
    rw [← hpairs] at haddress
    cases hid : b.trie.idAt? r.address with
    | none =>
      rw [hid] at hheld
      rw [← hheld, if_neg (by simp)]
      exact .inr (.inl ⟨rfl, rfl, learn_singleton_of_eq
        (learnRule_of_insert_eq_ok {} hcheck (Trie.insert_eq_fresh _ _ haddress hid))⟩)
    | some id =>
      rw [hid] at hheld
      rw [← hheld]
      cases hpolicy : b.settings.policy with
      | reject =>
        have hinsert := Trie.insert_eq_occupied r.template haddress hid
        rw [← hpolicy] at hinsert
        rw [if_pos ⟨rfl, rfl⟩]
        exact .inl ⟨_, rfl, learn_singleton_of_eq
          (learnRule_of_insert_eq_error {} hcheck hinsert)⟩
      | overwrite =>
        have hinsert := Trie.insert_eq_replacing r.template haddress hid
        rw [← hpolicy] at hinsert
        rw [if_neg (by simp)]
        exact .inr (.inr ⟨rfl, rfl, id, learn_singleton_of_eq
          (learnRule_of_insert_eq_ok {} hcheck hinsert)⟩)

/-- A rule with a fault leaves the bot as it was. -/
theorem learn_of_fault? (h : b.Knows history) {r : Rule}
    (hfault : r.fault? b.settings history ≠ none) : (b.learn [r]).2 = b := by
  obtain ⟨e, -, hlearn⟩ | ⟨hnone, -⟩ | ⟨hnone, -⟩ := h.learn_cases r
  · rw [hlearn]
  · exact absurd hnone hfault
  · exact absurd hnone hfault

/-- Any other rule is at its address afterwards. -/
theorem at?_learn_of_no_fault? (h : b.Knows history) {r : Rule}
    (hnone : r.fault? b.settings history = none) :
    (b.learn [r]).2.trie.at? r.address = some r.template := by
  obtain ⟨hsound, hfree⟩ := Rule.fault?_eq_none_iff.mp hnone
  rw [h.at?_learn_singleton, if_pos ⟨hsound, rfl⟩]
  split
  · rfl
  · rename_i hpolicy
    have hheld : (b.trie.at? r.address).isSome = false := by rw [h.isSome_at?, hfree hpolicy]
    have hnone : b.trie.at? r.address = none := by simpa using hheld
    rw [hnone, Option.none_or]

/-- **Whole batches.** A bot that was taught a batch was taught what is in it. -/
theorem learn (h : b.Knows history) (rules : List Rule) :
    (b.learn rules).2.Knows (history ++ rules) := by
  induction rules generalizing b history with
  | nil =>
    rw [List.append_nil]
    exact h
  | cons r rules ih =>
    rw [learn_cons, List.append_cons]
    exact ih (h.learn_singleton r)

/-- The trie grows by the rules that are new. -/
theorem size_learn (h : b.Knows history) (rules : List Rule) :
    (b.learn rules).2.trie.size = b.trie.size + (b.learn rules).1.added := by
  induction rules generalizing b history with
  | nil => rfl
  | cons r rules ih =>
    rw [learn_cons, ih (h.learn_singleton r), Tally.added_append, ← Nat.add_assoc]
    congr 1
    obtain ⟨e, -, hlearn⟩ | ⟨-, -, hlearn⟩ | ⟨-, -, id, hlearn⟩ := h.learn_cases r
    · rw [hlearn]
      rfl
    · rw [hlearn]
      exact Array.size_push _
    · rw [hlearn]
      exact Array.size_setIfInBounds

/-- The rules of a batch that are refused are those with a fault. -/
theorem refused_learn (h : b.Knows history) (rules : List Rule) :
    (b.learn rules).1.refused = refusals b.settings history rules := by
  induction rules generalizing b history with
  | nil => rfl
  | cons r rules ih =>
    rw [learn_cons, Tally.refused_append, ih (h.learn_singleton r), settings_learn, refusals]
    congr 1
    obtain ⟨e, hfault, hlearn⟩ | ⟨hnone, -, hlearn⟩ | ⟨hnone, -, id, hlearn⟩ := h.learn_cases r
    · rw [hlearn, hfault]
      rfl
    · rw [hlearn, hnone]
      rfl
    · rw [hlearn, hnone]
      rfl

/-- All templates in the trie are well-formed. -/
theorem check_of_get? (h : b.Knows history) {id : Nat} {t : Template}
    (hid : b.trie.get? id = some t) : t.check = .ok () := by
  obtain ⟨l, hkeeps⟩ := h.keeps
  rw [hkeeps.agrees.get?_eq] at hid
  obtain ⟨a, -, hrule⟩ := Option.bind_eq_some_iff.mp hid
  rw [← hkeeps.agrees.at?_eq] at hrule
  exact h.check hrule

/-- All addresses in the trie are well-formed. -/
theorem check_of_idAt? (h : b.Knows history) {a : Address} (ha : (b.trie.idAt? a).isSome) :
    a.check b.settings.wildcardPairs = .ok () := by
  rw [h.isSome_idAt?] at ha
  exact check_of_isHeld ha

/-- A bot that was taught some batches was taught all that is in them. -/
theorem taught (h : b.Knows history) (batches : List (List Rule)) :
    (b.taught batches).Knows (history ++ batches.flatten) := by
  induction batches generalizing b history with
  | nil =>
    rw [List.flatten_nil, List.append_nil]
    exact h
  | cons rules batches ih =>
    rw [List.flatten_cons, ← List.append_assoc]
    exact ih (h.learn rules)

end Knows

section

variable (settings : Settings) (books : Phrasebooks) (profile : Profile) (clock : Instant)
  (batches : List (List Rule))

theorem settings_taught :
    ((new settings books profile clock).taught batches).settings = settings := by
  rw [taught_eq_withTrie]
  rfl

theorem knows_taught :
    ((new settings books profile clock).taught batches).Knows batches.flatten :=
  (Knows.new settings books profile clock).taught batches

/-- **Learning accounts for every rule and lets nothing malformed in.** Of every batch that a bot is
taught, whatever it was taught before: every rule is new, or replaces another, or is refused, and
the trie grows by those that are new. Refused are those with a fault, in order, as told from the
rules before them, in earlier batches or in this one: such a rule leaves the bot as it was, and any
other is at its address when it was taught. Two batches that are taught at once leave the bot as
they do one after the other, with the tally of both. In the trie is something at the addresses that
are held, and all of it is well-formed, the templates and the addresses. -/
theorem learn_accounts (rules : List Rule) :
    let b := (new settings books profile clock).taught batches
    (b.learn rules).1.added + (b.learn rules).1.replaced + (b.learn rules).1.refused.length =
        rules.length ∧
      (b.learn rules).2.trie.size = b.trie.size + (b.learn rules).1.added ∧
      (b.learn rules).1.refused = refusals settings batches.flatten rules ∧
      (∀ before r, let b' := (b.learn before).2
        (r.fault? settings (batches.flatten ++ before) ≠ none → (b'.learn [r]).2 = b') ∧
          (r.fault? settings (batches.flatten ++ before) = none →
            (b'.learn [r]).2.trie.at? r.address = some r.template)) ∧
      (∀ xs ys, b.learn (xs ++ ys) = ((b.learn xs).1 ++ ((b.learn xs).2.learn ys).1,
        ((b.learn xs).2.learn ys).2)) ∧
      (∀ a, (b.trie.idAt? a).isSome = isHeld settings batches.flatten a) ∧
      (∀ a, (b.trie.idAt? a).isSome → a.check settings.wildcardPairs = .ok ()) ∧
      ∀ id t, b.trie.get? id = some t → t.check = .ok () := by
  intro b
  have hknows : b.Knows batches.flatten := knows_taught settings books profile clock batches
  have hsettings : b.settings = settings := settings_taught settings books profile clock batches
  rw [← hsettings]
  refine ⟨b.total_learn rules, hknows.size_learn rules, hknows.refused_learn rules,
    fun before r => ?_, b.learn_append, hknows.isSome_idAt?, fun a => hknows.check_of_idAt?,
    fun id t => hknows.check_of_get?⟩
  exact ⟨(hknows.learn before).learn_of_fault?, (hknows.learn before).at?_learn_of_no_fault?⟩

end

/-- A rule with a template that asks for a predicate without a name. -/
def nameless : Rule := ⟨[.word "WHO".toList], [], [], .get [' ']⟩

/-- A rule for no input. -/
def unasked : Rule := ⟨[], [], [], .text "Well.".toList⟩

/-- A batch in which there is something wrong with some rules, and two are at one address. -/
def mixed : List Rule := [greeting "Hello.", nameless, farewell, unasked, greeting "Hey."]

/-- A bot that was taught a greeting, and does not replace it. -/
def greetsSteadily : Bot :=
  (new { policy := .reject } ∅ Dict.empty 0).taught [[greeting "Hi."]]

/-- The greetings are refused for the one that was taught before, and nothing comes of a rule that
is not well-formed. -/
theorem learn_accounts_mixed :
    (greetsSteadily.learn mixed).1 = ⟨1, 0,
        [⟨(greeting "").address, .address (.occupied (greeting "").address)⟩,
          ⟨nameless.address, .template (.blankName .get)⟩,
          ⟨unasked.address, .address (.noPattern unasked.address)⟩,
          ⟨(greeting "").address, .address (.occupied (greeting "").address)⟩]⟩ ∧
      (greetsSteadily.learn mixed).1.refused =
        refusals { policy := .reject } [greeting "Hi."] mixed ∧
      (greetsSteadily.learn mixed).2.trie.size = 2 := by
  obtain ⟨-, hsize, hrefused, -⟩ :=
    learn_accounts { policy := .reject } ∅ Dict.empty 0 [[greeting "Hi."]] mixed
  have hadded : (greetsSteadily.learn mixed).1.added = 1 := by decide +kernel
  have hbefore : greetsSteadily.trie.size = 1 := by decide +kernel
  exact ⟨by decide +kernel, hrefused, hsize.trans (congrArg₂ (· + ·) hbefore hadded)⟩

end Bot

end Colloquy
