import Colloquy.Bot.Calls
import Colloquy.Proofs.Bot.Sentences
import Colloquy.Proofs.Machine

/-!
# Conversations keep to themselves

A bot is spoken to in any number of conversations at once. What comes of a call depends on what the
bot has learned and on the conversation that the call is about, and on no other conversation; and
all that a call can change of other conversations is nothing.

* `Bot.mind` — a bot without its conversations.
* `Bot.AgreeOn` — bots of one mind that agree on a conversation, whatever else was said to them.
* `mind_serve_of_id?`, `get?_serve_of_ne` — what a call leaves alone.
* `AgreeOn.serve`, `AgreeOn.serve_left` — one call to both bots, or to one of them.
* `Bot.heard_serve_eq` — conversations keep to themselves, and a removed one leaves nothing behind.
-/

namespace Colloquy

namespace Bot

/-- Whether a call is about a conversation. -/
def Call.isOn (id : Text) (c : Call) : Bool :=
  c.id? = some id

/-- Whether those who are in a conversation have to do with a call: it is about the conversation, or
it teaches the bot something. -/
def Call.concerns (id : Text) (c : Call) : Bool :=
  c.id?.all (· = id)

/-- The same bot with other conversations. -/
def withConversations (b : Bot) (d : Dict Session) : Bot :=
  { b with sessions := { b.sessions with byId := d } }

/-- A bot without its conversations. -/
def mind (b : Bot) : Bot := b.withConversations ∅

variable {b b' : Bot} {c : Call} {id : Text}

theorem eq_withConversations_of_mind_eq (h : b.mind = b'.mind) :
    b' = b.withConversations b'.sessions.byId :=
  calc
    b' = b'.mind.withConversations b'.sessions.byId := rfl
    _ = b.mind.withConversations b'.sessions.byId := by rw [h]
    _ = b.withConversations b'.sessions.byId := rfl

/-! ## What a call leaves alone -/

/-- A call about a conversation teaches a bot nothing. -/
theorem mind_serve_of_id? (h : c.id? = some id) : (b.serve c).2.mind = b.mind := by
  cases c with
  | learn rules => cases h
  | say tape start id input => rfl
  | setPredicate id name value => rfl
  | predicate id name => rfl
  | snapshot id => rfl
  | remove id => rfl

/-- What a bot is taught does not depend on its conversations. -/
theorem mind_serve_eq (h : b.mind = b'.mind) (c : Call) :
    (b.serve c).2.mind = (b'.serve c).2.mind := by
  cases hid : c.id? with
  | some id => rw [mind_serve_of_id? hid, mind_serve_of_id? hid, h]
  | none =>
    rw [eq_withConversations_of_mind_eq h]
    cases c with
    | learn rules => rfl
    | _ => cases hid

/-- A call that is not about a conversation leaves it as it is. -/
theorem get?_serve_of_ne (h : c.id? ≠ some id) :
    (b.serve c).2.sessions.get? id = b.sessions.get? id := by
  have hne : ∀ {other}, some other ≠ some id → id ≠ other := fun h heq => h (congrArg some heq.symm)
  cases c with
  | learn rules => rfl
  | say tape start other input => exact (Sessions.get?_put ..).trans (if_neg (hne h))
  | setPredicate other name value => exact (Sessions.get?_update ..).trans (if_neg (hne h))
  | predicate other name => rfl
  | snapshot other => rfl
  | remove other => exact (Sessions.get?_remove ..).trans (if_neg (hne h))

/-! ## Bots that agree on a conversation -/

/-- Two bots of one mind that have the same conversation under an id. -/
structure AgreeOn (id : Text) (b b' : Bot) : Prop where
  mind_eq : b.mind = b'.mind
  get?_eq : b.sessions.get? id = b'.sessions.get? id

namespace AgreeOn

theorem refl (id : Text) (b : Bot) : AgreeOn id b b := ⟨rfl, rfl⟩

theorem getOrNew_eq (h : AgreeOn id b b') : b.sessions.getOrNew id = b'.sessions.getOrNew id := by
  have hlimit : b.sessions.limit = b'.sessions.limit := congrArg (fun m => m.sessions.limit) h.mind_eq
  rw [Sessions.getOrNew, Sessions.getOrNew, h.get?_eq, hlimit]

/-- An input is answered alike, and the conversation goes on alike. -/
theorem answerFrom (h : AgreeOn id b b') (tape : Tape) (start : Nat) (input : Text) :
    ∃ answer drawn s, b.answerFrom tape start id input = (answer, drawn, b.keep id s) ∧
      b'.answerFrom tape start id input = (answer, drawn, b'.keep id s) := by
  have hsurroundings : b'.surroundings tape = b.surroundings tape := by
    rw [eq_withConversations_of_mind_eq h.mind_eq]
    rfl
  refine ⟨_, _, _, b.answerFrom_of_run tape start id rfl rfl, ?_⟩
  rw [b'.answerFrom_of_run tape start id rfl rfl, hsurroundings, h.getOrNew_eq]

/-- **A call to both.** What concerns a conversation is answered alike by bots that agree on it, and
they agree on it afterwards. -/
theorem serve (h : AgreeOn id b b') (hc : c.concerns id = true) :
    (b.serve c).1 = (b'.serve c).1 ∧ AgreeOn id (b.serve c).2 (b'.serve c).2 := by
  have hmind := mind_serve_eq h.mind_eq c
  have hid : ∀ {other}, c.id? = some other → other = id := fun hother => by
    simpa [Call.concerns, hother] using hc
  cases c with
  | learn rules =>
    have htally : (b.learn rules).1 = (b'.learn rules).1 := by
      rw [eq_withConversations_of_mind_eq h.mind_eq]
      rfl
    exact ⟨congrArg Outcome.learned htally, hmind, h.get?_eq⟩
  | say tape start other input =>
    obtain rfl := hid rfl
    obtain ⟨answer, drawn, s, hb, hb'⟩ := h.answerFrom tape start input
    rw [Bot.serve, Bot.serve, hb, hb']
    have hkeep : (b.sessions.put other s).get? other = (b'.sessions.put other s).get? other := by
      simp
    exact ⟨rfl, h.mind_eq, hkeep⟩
  | setPredicate other name value =>
    obtain rfl := hid rfl
    have hset : (b.sessions.setPredicate other name value).get? other =
        (b'.sessions.setPredicate other name value).get? other := by
      rw [Sessions.setPredicate, Sessions.setPredicate, Sessions.get?_update,
        Sessions.get?_update, h.getOrNew_eq, if_pos rfl, if_pos rfl]
    exact ⟨rfl, hmind, hset⟩
  | predicate other name =>
    obtain rfl := hid rfl
    have hdefault : b.sessions.default = b'.sessions.default :=
      congrArg (fun m => m.sessions.default) h.mind_eq
    refine ⟨?_, hmind, h.get?_eq⟩
    rw [Bot.serve, Bot.serve, Sessions.predicate, Sessions.predicate, h.get?_eq, hdefault]
  | snapshot other =>
    obtain rfl := hid rfl
    exact ⟨congrArg Outcome.shown h.get?_eq, hmind, h.get?_eq⟩
  | remove other =>
    obtain rfl := hid rfl
    have hfound : (b.sessions.get? other).isSome = (b'.sessions.get? other).isSome := by
      rw [h.get?_eq]
    have hgone : (b.sessions.remove other).2.get? other = (b'.sessions.remove other).2.get? other :=
      by simp
    exact ⟨congrArg Outcome.removed hfound, hmind, hgone⟩

/-- **A call to one of them.** What does not concern a conversation makes no difference to it. -/
theorem serve_left (h : AgreeOn id b b') (hc : c.concerns id = false) :
    AgreeOn id (b.serve c).2 b' := by
  cases hid : c.id? with
  | none => simp [Call.concerns, hid] at hc
  | some other =>
    have hne : c.id? ≠ some id := by
      intro heq
      simp [Call.concerns, heq] at hc
    exact ⟨(mind_serve_of_id? hid).trans h.mind_eq, (get?_serve_of_ne hne).trans h.get?_eq⟩

/-! ## Runs of calls -/

/-- Of all calls, those that concern a conversation are answered as if there had been no others. -/
theorem run_filter (h : AgreeOn id b b') (cs : List Call) :
    Machine.heard Bot.serve (Call.concerns id) b cs =
        (Machine.run Bot.serve b' (cs.filter (Call.concerns id))).1 ∧
      AgreeOn id (Machine.run Bot.serve b cs).2
        (Machine.run Bot.serve b' (cs.filter (Call.concerns id))).2 :=
  ⟨Machine.heard_eq_run_filter (fun _ hc h => h.serve hc) (fun _ hc h => h.serve_left hc) h cs,
    Machine.run_filter_related (fun _ hc h => (h.serve hc).2) (fun _ hc h => h.serve_left hc) h cs⟩

/-- Bots that agree on a conversation answer the same calls that concern it alike, whatever comes
between these calls, and show the same conversation in the end. -/
theorem run (h : AgreeOn id b b') {cs cs' : List Call}
    (hcs : cs.filter (Call.concerns id) = cs'.filter (Call.concerns id)) :
    Machine.heard Bot.serve (Call.concerns id) b cs =
        Machine.heard Bot.serve (Call.concerns id) b' cs' ∧
      (Machine.run Bot.serve b cs).2.sessions.get? id =
        (Machine.run Bot.serve b' cs').2.sessions.get? id := by
  obtain ⟨hheard, hagree⟩ := h.run_filter cs
  obtain ⟨hheard', hagree'⟩ := (refl id b').run_filter cs'
  rw [hheard, hheard', hagree.get?_eq, hagree'.get?_eq, hcs]
  exact ⟨rfl, rfl⟩

end AgreeOn

/-- Without the calls that are about a conversation a bot learns as much, and a conversation that it
did not have is not begun. -/
theorem run_filter_not_isOn (h : b.sessions.get? id = none) (cs : List Call) :
    (Machine.run serve b cs).2.mind =
        (Machine.run serve b (cs.filter fun c => !c.isOn id)).2.mind ∧
      (Machine.run serve b (cs.filter fun c => !c.isOn id)).2.sessions.get? id = none := by
  refine Machine.run_filter_related
    (R := fun b b' : Bot => b.mind = b'.mind ∧ b'.sessions.get? id = none) ?_ ?_ ⟨rfl, h⟩ cs
  · rintro b b' c hc ⟨hmind, hnone⟩
    have hne : c.id? ≠ some id := by simpa [Call.isOn] using hc
    exact ⟨mind_serve_eq hmind c, (get?_serve_of_ne hne).trans hnone⟩
  · rintro b b' c hc ⟨hmind, hnone⟩
    have hid : c.id? = some id := by simpa [Call.isOn] using hc
    exact ⟨(mind_serve_of_id? hid).trans hmind, hnone⟩

/-- A bot that has forgotten a conversation agrees on it with one that never had it, but was taught
the same. -/
theorem agreeOn_remove (h : b.sessions.get? id = none) (before : List Call) :
    AgreeOn id (Machine.run serve b (before ++ [.remove id])).2
      (Machine.run serve b (before.filter fun c => !c.isOn id)).2 := by
  obtain ⟨hmind, hnone⟩ := run_filter_not_isOn h before
  have hlast : (Machine.run serve b (before ++ [.remove id])).2 =
      ((Machine.run serve b before).2.serve (.remove id)).2 := by
    rw [Machine.run_append]
    rfl
  rw [hlast]
  refine ⟨(mind_serve_of_id? rfl).trans hmind, ?_⟩
  rw [hnone]
  exact Sessions.get?_remove_self _ id

/-- **Conversations keep to themselves.** Of two runs of calls that are the same as far as they are
about a conversation or teach the bot something, the outcomes of these calls are the same, and so is
the conversation in the end, whatever else is called for in other conversations. After a conversation
was removed, a bot that did not have it in the beginning is to those who are in it as a bot of
which nothing was ever asked in it. -/
theorem heard_serve_eq (b : Bot) (id : Text) :
    (∀ cs cs' : List Call, cs.filter (Call.concerns id) = cs'.filter (Call.concerns id) →
      Machine.heard serve (Call.concerns id) b cs = Machine.heard serve (Call.concerns id) b cs' ∧
      (Machine.run serve b cs).2.sessions.get? id =
        (Machine.run serve b cs').2.sessions.get? id) ∧
    (b.sessions.get? id = none → ∀ before after : List Call,
      let forgetful := (Machine.run serve b (before ++ [.remove id])).2
      let stranger := (Machine.run serve b (before.filter fun c => !c.isOn id)).2
      Machine.heard serve (Call.concerns id) forgetful after =
          Machine.heard serve (Call.concerns id) stranger after ∧
        (Machine.run serve forgetful after).2.sessions.get? id =
          (Machine.run serve stranger after).2.sessions.get? id) := by
  refine ⟨fun cs cs' hcs => (AgreeOn.refl id b).run hcs, fun hnone before after => ?_⟩
  exact (agreeOn_remove hnone before).run rfl

/-- The calls of one who tells a name and asks for it, in a conversation under the id `a`. -/
def ann : List Call :=
  [.setPredicate ['a'] "name".toList "Ann".toList, .predicate ['a'] "name".toList]

/-- These calls, and others in a conversation under the id `b`. -/
def annAndBob : List Call :=
  [.say (.ofList []) 0 ['b'] hiHi, .setPredicate ['a'] "name".toList "Ann".toList,
    .setPredicate ['b'] "name".toList "Bob".toList, .predicate ['a'] "name".toList, .remove ['b']]

/-- The name is kept whatever somebody else says, and when it is forgotten it was never told. -/
theorem heard_serve_ann :
    ann.filter (Call.concerns ['a']) = annAndBob.filter (Call.concerns ['a']) ∧
      Machine.heard serve (Call.concerns ['a']) greeter ann = [.done, .value "Ann".toList] ∧
      Machine.heard serve (Call.concerns ['a']) greeter ann =
        Machine.heard serve (Call.concerns ['a']) greeter annAndBob ∧
      greeter.sessions.get? ['a'] = none ∧
      Machine.heard serve (Call.concerns ['a'])
          (Machine.run serve greeter (annAndBob ++ [.remove ['a']])).2 [.snapshot ['a']] =
        Machine.heard serve (Call.concerns ['a'])
          (Machine.run serve greeter (annAndBob.filter fun c => !c.isOn ['a'])).2
          [.snapshot ['a']] := by
  have hsame : ann.filter (Call.concerns ['a']) = annAndBob.filter (Call.concerns ['a']) := rfl
  have hnone : greeter.sessions.get? ['a'] = none := rfl
  obtain ⟨hkeep, hforget⟩ := heard_serve_eq greeter ['a']
  exact ⟨hsame, by decide +kernel, (hkeep ann annAndBob hsame).1, hnone,
    (hforget hnone annAndBob [.snapshot ['a']]).1⟩

end Bot

end Colloquy
