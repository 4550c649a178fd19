import Colloquy.Bot.Calls
import Colloquy.Proofs.Bot.Sentences
import Colloquy.Proofs.Render.Relation
import Colloquy.Proofs.Trie.Sameness
import Mathlib.Data.List.Nodup

/-!
# Learning in another order

A bot may be taught the same rules in one batch or in many, in one order or in another, and of rules
that are replaced nothing stays. All that counts for what it says later is which template stands at
which address.

* `Bot.at?_taught` — the template at an address, told from the rules alone.
* `Bot.at?_taught_of_perm` — rules at different addresses may be taught in any order.
* `Bot.Twins` — bots that differ in the numbers inside their tries.
* `Twins.serve` — they answer every call alike, and stay as they are to each other.
* `Bot.run_serve_eq_of_at?_eq` — bots with the same templates at all addresses say the same.
-/

namespace Colloquy

/-- What a rule asks of a trie. -/
def Rule.request (settings : Settings) (r : Rule) : Request Template :=
  ⟨r.address, r.template, settings.policy⟩

/-- What a rule asks of a trie, unless its template is not well-formed. -/
def Rule.request? (settings : Settings) (r : Rule) : Option (Request Template) :=
  match r.template.check with
  | .ok () => some (r.request settings)
  | .error _ => none

theorem Rule.request?_eq_some {settings : Settings} {r : Rule} {q : Request Template}
    (h : r.request? settings = some q) : r.template.check = .ok () ∧ q = r.request settings := by
  unfold Rule.request? at h
  split at h
  · rename_i hcheck
    exact ⟨hcheck, (Option.some.inj h).symm⟩
  · cases h

/-- A tally after one more rule, which was new, replaced another, or was refused. -/
def Tally.count (tally : Tally) (a : Address) : Except RuleError Bool → Tally
  | .ok true => { tally with added := tally.added + 1 }
  | .ok false => { tally with replaced := tally.replaced + 1 }
  | .error e => { tally with refused := tally.refused ++ [⟨a, e⟩] }

namespace Bot

variable {settings : Settings} {r : Rule}

/-! ## Single rules -/

section

variable {t : Trie Template} (tally : Tally)

/-- A rule is refused for its template, -/
theorem learnRule_of_check_eq_error {e : TemplateError} (hcheck : r.template.check = .error e) :
    learnRule settings (t, tally) r = (t, tally.count r.address (.error (.template e))) := by
  rw [learnRule, store, hcheck]
  rfl

/-- or for its address, -/
theorem learnRule_of_insert_eq_error {e : AddressError} (hcheck : r.template.check = .ok ())
    (hinsert : t.insert r.address r.template settings.policy = .error e) :
    learnRule settings (t, tally) r = (t, tally.count r.address (.error (.address e))) := by
  rw [learnRule, store, hcheck, hinsert]
  rfl

/-- or it is stored. -/
theorem learnRule_of_insert_eq_ok {p : Placement} {t' : Trie Template}
    (hcheck : r.template.check = .ok ())
    (hinsert : t.insert r.address r.template settings.policy = .ok (p, t')) :
    learnRule settings (t, tally) r = (t', tally.count r.address (.ok p.isFresh)) := by
  rw [learnRule, store, hcheck, hinsert]
  cases p <;> rfl

end

/-- A rule whose template is not well-formed is refused by every trie. -/
theorem learnRule_of_request?_eq_none (h : r.request? settings = none) :
    ∃ e, ∀ t tally, learnRule settings (t, tally) r = (t, tally.count r.address (.error e)) := by
  unfold Rule.request? at h
  split at h
  · cases h
  · rename_i e hcheck
    exact ⟨.template e, fun t tally => learnRule_of_check_eq_error tally hcheck⟩

/-- All other rules are brought to the trie. -/
theorem learnRule_of_request?_eq_some {q : Request Template} (h : r.request? settings = some q)
    (t : Trie Template) (tally : Tally) :
    learnRule settings (t, tally) r =
      ((t.take q).2, tally.count r.address
        (((t.take q).1.map Placement.isFresh).mapError .address)) := by
  obtain ⟨hcheck, rfl⟩ := Rule.request?_eq_some h
  cases hinsert : t.insert r.address r.template settings.policy with
  | error e =>
    rw [learnRule_of_insert_eq_error tally hcheck hinsert, Rule.request,
      Trie.take_of_insert_eq_error hinsert]
    rfl
  | ok out =>
    rw [learnRule_of_insert_eq_ok tally hcheck hinsert, Rule.request,
      Trie.take_of_insert_eq_ok hinsert]
    rfl

/-- The addresses at which something is asked for are addresses of rules. -/
theorem map_address_filterMap_request?_sublist (settings : Settings) (rules : List Rule) :
    ((rules.filterMap (Rule.request? settings)).map Request.address).Sublist
      (rules.map Rule.address) := by
  induction rules with
  | nil => exact .slnil
  | cons r rules ih =>
    cases hq : r.request? settings with
    | none =>
      rw [List.filterMap_cons_none hq]
      exact ih.cons _
    | some q =>
      obtain ⟨-, rfl⟩ := Rule.request?_eq_some hq
      rw [List.filterMap_cons_some hq, List.map_cons]
      exact ih.cons_cons _

/-! ## Batches of rules -/

/-- The same bot with other rules. -/
def withTrie (b : Bot) (t : Trie Template) : Bot := { b with trie := t }

/-- A bot that was taught some batches of rules, one after the other. -/
def taught (b : Bot) (batches : List (List Rule)) : Bot := (Machine.run learn b batches).2

theorem fst_foldl_learnRule (settings : Settings) (t : Trie Template) (tally : Tally)
    (rules : List Rule) :
    (rules.foldl (learnRule settings) (t, tally)).1 =
      (Machine.run Trie.take t (rules.filterMap (Rule.request? settings))).2 := by
  induction rules generalizing t tally with
  | nil => rfl
  | cons r rules ih =>
    cases hq : r.request? settings with
    | none =>
      obtain ⟨e, he⟩ := learnRule_of_request?_eq_none hq
      rw [List.foldl_cons, he, ih, List.filterMap_cons_none hq]
    | some q =>
      rw [List.foldl_cons, learnRule_of_request?_eq_some hq, ih, List.filterMap_cons_some hq,
        Machine.run_cons]

/-- To learn a batch is to bring its rules to the trie, one after the other. -/
theorem trie_learn (b : Bot) (rules : List Rule) :
    (b.learn rules).2.trie =
      (Machine.run Trie.take b.trie (rules.filterMap (Rule.request? b.settings))).2 :=
  fst_foldl_learnRule b.settings b.trie {} rules

/-- Batches count for nothing but the rules in them. -/
theorem taught_eq_withTrie (b : Bot) (batches : List (List Rule)) :
    b.taught batches = b.withTrie
      (Machine.run Trie.take b.trie (batches.flatten.filterMap (Rule.request? b.settings))).2 := by
  induction batches generalizing b with
  | nil => rfl
  | cons rules batches ih =>
    have hlearn : (b.learn rules).2 = b.withTrie
        (Machine.run Trie.take b.trie (rules.filterMap (Rule.request? b.settings))).2 := by
      rw [← trie_learn]
      rfl
    rw [taught, Machine.run_cons, ← taught, ih, hlearn, List.flatten_cons, List.filterMap_append,
      Machine.run_append]
    rfl

section

variable (settings : Settings) (books : Phrasebooks) (profile : Profile) (clock : Instant)

/-- What a new bot has learned is what its trie was brought. -/
theorem trie_taught_new (batches : List (List Rule)) :
    ((new settings books profile clock).taught batches).trie =
      (Machine.run Trie.take (.empty settings.matchOptions)
        (batches.flatten.filterMap (Rule.request? settings))).2 := by
  rw [taught_eq_withTrie]
  rfl

/-- **The template at an address** is settled by the rules for that address, one after the other. -/
theorem at?_taught (batches : List (List Rule)) (a : Address) :
    ((new settings books profile clock).taught batches).trie.at? a =
      (batches.flatten.filterMap (Rule.request? settings)).foldl
        (Request.settle settings.wildcardPairs a) none := by
  rw [trie_taught_new]
  exact Trie.at?_run_empty settings.matchOptions _ a

/-- **Rules at different addresses may be taught in any order,** and in any batches. -/
theorem at?_taught_of_perm {batches batches' : List (List Rule)}
    (hperm : batches.flatten.Perm batches'.flatten)
    (hdistinct : (batches.flatten.map Rule.address).Nodup) (a : Address) :
    ((new settings books profile clock).taught batches).trie.at? a =
      ((new settings books profile clock).taught batches').trie.at? a := by
  rw [at?_taught, at?_taught]
  have hnodup := hdistinct.sublist (map_address_filterMap_request?_sublist settings _)
  refine (hperm.filterMap _).foldl_eq' (fun x hx y hy held? => ?_) none
  by_cases hxy : x.address = y.address
  · rw [List.inj_on_of_nodup_map hnodup hx hy hxy]
  · exact Request.settle_comm hxy _ a held?

end

/-! ## Bots that differ in the numbers inside their tries -/

/-- Two bots that differ in nothing but their tries, which have the same template at every
address. -/
def Twins (b b' : Bot) : Prop :=
  ∃ t, Trie.Same b.settings.matchOptions b.trie t ∧ b' = b.withTrie t

/-- A batch is learned alike, with the same tally. -/
theorem foldl_learnRule_same {t t' : Trie Template} (h : Trie.Same settings.matchOptions t t')
    (tally : Tally) (rules : List Rule) :
    (rules.foldl (learnRule settings) (t', tally)).2 =
        (rules.foldl (learnRule settings) (t, tally)).2 ∧
      Trie.Same settings.matchOptions (rules.foldl (learnRule settings) (t, tally)).1
        (rules.foldl (learnRule settings) (t', tally)).1 := by
  induction rules generalizing t t' tally with
  | nil => exact ⟨rfl, h⟩
  | cons r rules ih =>
    rw [List.foldl_cons, List.foldl_cons]
    cases hq : r.request? settings with
    | none =>
      obtain ⟨e, he⟩ := learnRule_of_request?_eq_none hq
      rw [he, he]
      exact ih h _
    | some q =>
      obtain ⟨hfresh, hsame⟩ := h.take q
      rw [learnRule_of_request?_eq_some hq, learnRule_of_request?_eq_some hq, hfresh]
      exact ih hsame _

section

variable {b : Bot} {t : Trie Template}

/-- Templates read the same in both bots, and texts find the same templates. -/
theorem surroundings_alike (h : Trie.Same b.settings.matchOptions b.trie t) (tape : Tape) :
    (b.surroundings tape).Alike ((b.withTrie t).surroundings tape) where
  books := rfl
  profile := rfl
  clock := rfl
  size := h.size_eq
  defaultPredicate := rfl
  setRendersValue := rfl
  version := rfl
  find? q := h.find?_eq q _

/-- An input is answered alike, and the conversation goes on alike. -/
theorem answerFrom_withTrie (h : Trie.Same b.settings.matchOptions b.trie t) (tape : Tape)
    (start : Nat) (id input : Text) :
    (b.withTrie t).answerFrom tape start id input =
      ((b.answerFrom tape start id input).1, (b.answerFrom tape start id input).2.1,
        (b.answerFrom tape start id input).2.2.withTrie t) := by
  have hrecord : answerAndRecord ((b.withTrie t).surroundings tape) =
      answerAndRecord (b.surroundings tape) := by
    funext sentence
    rw [answerAndRecord, answerAndRecord, (surroundings_alike h tape).answer_eq rfl rfl]
  rw [answerFrom, hrecord]
  rfl

end

/-- **One call.** Twins answer it alike, and are twins afterwards. -/
theorem Twins.serve {b b' : Bot} (h : Twins b b') (c : Call) :
    (b.serve c).1 = (b'.serve c).1 ∧ Twins (b.serve c).2 (b'.serve c).2 := by
  obtain ⟨t, hsame, rfl⟩ := h
  cases c with
  | learn rules =>
    obtain ⟨htally, hlearned⟩ := foldl_learnRule_same hsame {} rules
    exact ⟨congrArg Outcome.learned htally.symm, _, hlearned, rfl⟩
  | say tape start id input =>
    rw [Bot.serve, Bot.serve, answerFrom_withTrie hsame]
    exact ⟨rfl, t, hsame, rfl⟩
  | setPredicate id name value => exact ⟨rfl, t, hsame, rfl⟩
  | predicate id name => exact ⟨rfl, t, hsame, rfl⟩
  | snapshot id => exact ⟨rfl, t, hsame, rfl⟩
  | remove id => exact ⟨rfl, t, hsame, rfl⟩

/-- Twins answer all calls of a run alike, and are twins in the end. -/
theorem Twins.run {b b' : Bot} (h : Twins b b') (calls : List Call) :
    (Machine.run Bot.serve b calls).1 = (Machine.run Bot.serve b' calls).1 ∧
      Twins (Machine.run Bot.serve b calls).2 (Machine.run Bot.serve b' calls).2 :=
  Machine.run_related (fun c h => h.serve c) h calls

/-- New bots that were taught the same template at every address are twins. -/
theorem twins_taught {settings : Settings} {books : Phrasebooks} {profile : Profile}
    {clock : Instant} {batches batches' : List (List Rule)}
    (h : ∀ a, ((new settings books profile clock).taught batches).trie.at? a =
      ((new settings books profile clock).taught batches').trie.at? a) :
    Twins ((new settings books profile clock).taught batches)
      ((new settings books profile clock).taught batches') := by
  have hkeeps : ∀ bs, ∃ l, Trie.Keeps settings.matchOptions
      ((new settings books profile clock).taught bs).trie l := by
    intro bs
    rw [trie_taught_new]
    exact ⟨_, ((Trie.keeps_empty settings.matchOptions).run _).2⟩
  have hsame : Trie.Same settings.matchOptions _ _ := ⟨hkeeps batches, hkeeps batches', h⟩
  rw [taught_eq_withTrie, taught_eq_withTrie] at hsame ⊢
  exact ⟨_, hsame, rfl⟩

/-- **Bots with the same templates at all addresses say the same.** Of two new bots that were taught
rules in any batches, if in the end the same template stands at every address, then for every query
and every name they find the same template with the same bindings, and in all later calls, with the
same random words, they give the same outcomes and are left with the same conversations. -/
theorem run_serve_eq_of_at?_eq (settings : Settings) (books : Phrasebooks) (profile : Profile)
    (clock : Instant) {batches batches' : List (List Rule)}
    (h : ∀ a, ((new settings books profile clock).taught batches).trie.at? a =
      ((new settings books profile clock).taught batches').trie.at? a) :
    let b := (new settings books profile clock).taught batches
    let b' := (new settings books profile clock).taught batches'
    (∀ q name, (b.trie.find? q name).map (fun m => (m.rule, m.bindings)) =
      (b'.trie.find? q name).map fun m => (m.rule, m.bindings)) ∧
    ∀ calls, (Machine.run serve b calls).1 = (Machine.run serve b' calls).1 ∧
      (Machine.run serve b calls).2.sessions = (Machine.run serve b' calls).2.sessions := by
  intro b b'
  have htwins : Twins b b' := twins_taught h
  refine ⟨fun q name => ?_, fun calls => ?_⟩
  · obtain ⟨t, hsame, hb'⟩ := htwins
    rw [hb']
    exact hsame.find?_eq q name
  · obtain ⟨houtcomes, t, -, hb'⟩ := htwins.run calls
    rw [hb']
    exact ⟨houtcomes, rfl⟩

/-- A rule for a greeting. -/
def greeting (reply : String) : Rule :=
  ⟨[.word ['H', 'I']], [], [], .text reply.toList⟩

/-- A rule for a farewell to somebody. -/
def farewell : Rule :=
  ⟨[.word "BYE".toList, .zeroOrMore], [], [],
    .sequence [.text "Bye, ".toList, .wildcard .pattern 1, .text ['.']]⟩

/-- A bot that was taught two greetings, of which the second replaced the first. -/
def greetsAnew : Bot :=
  (new {} ∅ Dict.empty 0).taught [[greeting "Hi.", farewell], [greeting "Hello."]]

/-- A bot that was taught the second greeting alone, behind the farewell. -/
def greetsOnce : Bot :=
  (new {} ∅ Dict.empty 0).taught [[farewell], [greeting "Hello."]]

/-- The first greeting leaves nothing behind. -/
theorem at?_greetsAnew (a : Address) : greetsAnew.trie.at? a = greetsOnce.trie.at? a := by
  have hgreeting : ∀ reply, (greeting reply).request? {} = some ((greeting reply).request {}) :=
    fun _ => rfl
  have hfarewell : farewell.request? {} = some (farewell.request {}) := rfl
  have hne : (farewell.request {}).address ≠ ((greeting "Hello.").request {}).address := by decide
  have hsame : ((greeting "Hi.").request {}).address = ((greeting "Hello.").request {}).address :=
    rfl
  rw [greetsAnew, greetsOnce, at?_taught, at?_taught]
  simp only [List.flatten_cons, List.flatten_nil, List.append_nil, List.cons_append,
    List.nil_append, List.filterMap_cons, List.filterMap_nil, hgreeting, hfarewell,
    List.foldl_cons, List.foldl_nil]
  rw [Request.settle_comm hne, Request.settle_settle hsame rfl, ← Request.settle_comm hne]

/-- What is said to a greeting and to a farewell is the same. -/
theorem run_serve_greetsAnew :
    let calls : List Call := ["hi", "bye you"].map fun input => .say (.ofList []) 0 [] input.toList
    (∀ a, greetsAnew.trie.at? a = greetsOnce.trie.at? a) ∧
      (Machine.run serve greetsOnce calls).1 =
        [.said ⟨"Hello.".toList, []⟩ 0, .said ⟨"Bye, you.".toList, []⟩ 0] ∧
      (Machine.run serve greetsAnew calls).1 = (Machine.run serve greetsOnce calls).1 := by
  intro calls
  obtain ⟨-, hrun⟩ := run_serve_eq_of_at?_eq {} ∅ Dict.empty 0 at?_greetsAnew
  exact ⟨at?_greetsAnew, by decide +kernel, (hrun calls).1⟩

end Bot

end Colloquy
