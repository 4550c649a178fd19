import Colloquy.Proofs.Bot.Conversations
import Colloquy.Proofs.Render.Seeing

/-!
# The transcript of a conversation

All that was said in a conversation and replied to it is its transcript. A bot remembers no more
than its last turns; what it answers next depends on these and on nothing else that was said.

* `Bot.transcript` — the turns of a conversation in a run of calls.
* `Bot.tell` — the answers to some sentences by the transcript, in place of the history.
* `Remembers.serve`, `Remembers.run` — a conversation remembers the last turns of its transcript.
* `Bot.history_eq_rtake_transcript` — what is remembered, and what it does to the next input.
-/

namespace Colloquy

namespace Bot

/-! ## What is said -/

/-- What is rendered for an input in a conversation: the reply to each of its parts. -/
def rendered (b : Bot) (tape : Tape) (start : Nat) (id input : Text) : List Text × Rendering :=
  ((parts input).mapM (answerAndRecord (b.surroundings tape))).run
    { session := b.sessions.getOrNew id, drawn := start }

/-- The turns of a conversation after a call: those of a new input follow, and none is left when the
conversation is forgotten. -/
def toldAfter (b : Bot) (id : Text) (told : List Turn) : Call → List Turn
  | .say tape start other input =>
    if other = id then
      told ++ List.zipWith Turn.mk (parts input) (b.rendered tape start other input).1
    else told
  | .remove other => if other = id then [] else told
  | .learn _ | .setPredicate _ _ _ | .predicate _ _ | .snapshot _ => told

/-- The turns of a conversation after some calls. -/
def transcript (id : Text) (b : Bot) (told : List Turn) : List Call → List Turn
  | [] => told
  | c :: cs => transcript id (b.serve c).2 (b.toldAfter id told c) cs

theorem transcript_concat (id : Text) (b : Bot) (told : List Turn) (cs : List Call) (c : Call) :
    transcript id b told (cs ++ [c]) =
      (Machine.run serve b cs).2.toldAfter id (transcript id b told cs) c := by
  induction cs generalizing b told with
  | nil => rfl
  | cons c' cs ih => exact ih (b.serve c').2 (b.toldAfter id told c')

/-! ## Sentence by sentence -/

/-- Answer several sentences by the turns that were told before each of them, and record them. Gives
all turns in the end. -/
def tell (w : Surroundings) (limit : Nat) : List Turn → List Text → RenderM (List Turn)
  | told, [] => pure told
  | told, s :: ss => do
    let reply ← (View.mk s told limit).answer w
    RenderT.modifySession fun session => session.record ⟨s, reply⟩
    tell w limit (told ++ [⟨s, reply⟩]) ss

/-- A turn has what was said and what was replied to it. -/
theorem map_zipWith_mk {ss replies : List Text} (h : ss.length = replies.length) :
    (List.zipWith Turn.mk ss replies).map Turn.input = ss ∧
      (List.zipWith Turn.mk ss replies).map Turn.reply = replies := by
  rw [← List.map_uncurry_zip_eq_zipWith, List.map_map, List.map_map]
  exact ⟨List.map_fst_zip (Nat.le_of_eq h), List.map_snd_zip (Nat.le_of_eq h.symm)⟩

theorem length_run_mapM (w : Surroundings) (ss : List Text) (r : Rendering) :
    ((ss.mapM (answerAndRecord w)).run r).1.length = ss.length := by
  induction ss generalizing r with
  | nil => rfl
  | cons s ss ih => rw [run_mapM_cons, List.length_cons, List.length_cons, ih]

/-- Sentences are answered by the last turns before each of them, and recorded behind these. -/
theorem run_tell (w : Surroundings) {r : Rendering} {told : List Turn} {limit : Nat}
    (h : r.session.Remembers told limit) (ss : List Text) {out : List Text × Rendering}
    (hout : (ss.mapM (answerAndRecord w)).run r = out) :
    (tell w limit told ss).run r = (told ++ List.zipWith Turn.mk ss out.1, out.2) ∧
      out.2.session.Remembers (told ++ List.zipWith Turn.mk ss out.1) limit := by
  subst hout
  induction ss generalizing r told with
  | nil =>
    rw [List.zipWith_nil_left, List.append_nil]
    exact ⟨rfl, h⟩
  | cons s ss ih =>
    obtain ⟨hanswer, hsession⟩ := (View.mk s told limit).run_answer w h
    have hfirst : ((answerAndRecord w s).run r).2.session.Remembers
        (told ++ [⟨s, ((answerAndRecord w s).run r).1⟩]) limit :=
      hsession.record ⟨s, ((answerAndRecord w s).run r).1⟩
    have hstep : (tell w limit told (s :: ss)).run r =
        (tell w limit (told ++ [⟨s, ((answerAndRecord w s).run r).1⟩]) ss).run
          ((answerAndRecord w s).run r).2 := by
      rw [run_answerAndRecord, hanswer]
      rfl
    obtain ⟨htell, hremembers⟩ := ih hfirst
    rw [run_mapM_cons, List.zipWith_cons_cons, List.append_cons, hstep]
    exact ⟨htell, hremembers⟩

/-! ## Call by call -/

/-- The conversation of a bot under an id remembers the last of some turns. -/
def Remembers (b : Bot) (id : Text) (told : List Turn) : Prop :=
  (b.sessions.getOrNew id).Remembers told b.sessions.limit

variable {b : Bot} {id : Text} {told : List Turn}

theorem limit_serve (b : Bot) (c : Call) : (b.serve c).2.sessions.limit = b.sessions.limit := by
  cases c <;> rfl

/-- A conversation that was not begun remembers nothing. -/
theorem remembers_nil (h : b.sessions.get? id = none) : b.Remembers id [] := by
  rw [Remembers, Sessions.getOrNew, h]
  exact .new id b.sessions.limit

/-- What is told elsewhere is not told here. -/
theorem toldAfter_of_ne {c : Call} (h : c.id? ≠ some id) : b.toldAfter id told c = told := by
  have hne : ∀ {other}, some other ≠ some id → other ≠ id := fun h heq => h (congrArg some heq)
  cases c with
  | say tape start other input => exact if_neg (hne h)
  | remove other => exact if_neg (hne h)
  | _ => rfl

namespace Remembers

/-- An input is answered by the turns that were told, and its own turns are remembered as well. -/
theorem rendered (h : b.Remembers id told) (tape : Tape) (start : Nat) (input : Text) :
    (tell (b.surroundings tape) b.sessions.limit told (parts input)).run
        { session := b.sessions.getOrNew id, drawn := start } =
      (told ++ List.zipWith Turn.mk (parts input) (b.rendered tape start id input).1,
        (b.rendered tape start id input).2) ∧
      (b.rendered tape start id input).2.session.Remembers
        (told ++ List.zipWith Turn.mk (parts input) (b.rendered tape start id input).1)
        b.sessions.limit :=
  run_tell (b.surroundings tape) (r := { session := b.sessions.getOrNew id, drawn := start }) h
    (parts input) rfl

/-- **One call.** A conversation remembers the last turns also after a call. -/
theorem serve (h : b.Remembers id told) (c : Call) :
    (b.serve c).2.Remembers id (b.toldAfter id told c) := by
  by_cases hid : c.id? = some id
  · rw [Remembers, limit_serve]
    cases c with
    | learn rules => cases hid
    | say tape start other input =>
      obtain rfl := Option.some.inj hid
      have hkeep : (b.serve (.say tape start other input)).2.sessions.getOrNew other =
          (b.rendered tape start other input).2.session := b.getOrNew_keep other _
      rw [hkeep, toldAfter, if_pos rfl]
      exact (h.rendered tape start input).2
    | setPredicate other name value =>
      obtain rfl := Option.some.inj hid
      have hset : (b.serve (.setPredicate other name value)).2.sessions.getOrNew other =
          (b.sessions.getOrNew other).setPredicate name value := Sessions.getOrNew_put _ _ _
      rw [hset]
      exact Session.Remembers.setPredicate h name value
    | predicate other name => exact h
    | snapshot other => exact h
    | remove other =>
      obtain rfl := Option.some.inj hid
      rw [toldAfter, if_pos rfl, ← limit_serve b (.remove other)]
      exact remembers_nil (Sessions.get?_remove_self b.sessions other)
  · rw [toldAfter_of_ne hid, Remembers, limit_serve, Sessions.getOrNew, get?_serve_of_ne hid,
      limit_serve]
    exact h

/-- A conversation remembers the last turns of its transcript. -/
theorem run (h : b.Remembers id told) (cs : List Call) :
    (Machine.run Bot.serve b cs).2.Remembers id (transcript id b told cs) := by
  induction cs generalizing b told with
  | nil => exact h
  | cons c cs ih => exact ih (h.serve c)

end Remembers

theorem limit_run (b : Bot) (cs : List Call) :
    (Machine.run serve b cs).2.sessions.limit = b.sessions.limit :=
  Machine.run_invariant (P := fun b' : Bot => b'.sessions.limit = b.sessions.limit)
    (fun {b'} c h => (limit_serve b' c).trans h) rfl cs

/-- **What is seen of the history is the end of the transcript.** In a conversation that was not
begun, after any calls, about it or about anything else, the history has the last turns of its
transcript, as many as the limit allows. The next input is answered by the transcript: each of its
sentences by the last turns before it, those of the same input included. What comes of the input is
made of these replies, and the transcript goes on with them. -/
theorem history_eq_rtake_transcript (hnew : b.sessions.get? id = none) (cs : List Call) :
    let limit := b.sessions.limit
    let told := transcript id b [] cs
    let after := (Machine.run serve b cs).2
    (after.sessions.getOrNew id).history = told.rtake limit ∧
      ∀ (tape : Tape) (start : Nat) (input : Text), ∃ (turns : List Turn) (r : Rendering),
        (tell (after.surroundings tape) limit told (parts input)).run
            { session := after.sessions.getOrNew id, drawn := start } = (told ++ turns, r) ∧
          turns.map Turn.input = parts input ∧
          after.serve (.say tape start id input) =
            (.said ⟨joinReplies (turns.map Turn.reply), r.notices⟩ r.drawn,
              after.keep id r.session) ∧
          transcript id b [] (cs ++ [.say tape start id input]) = told ++ turns := by
  intro limit told after
  have hlimit : after.sessions.limit = limit := limit_run b cs
  have hremembers : after.Remembers id told := (remembers_nil hnew).run cs
  refine ⟨hlimit ▸ hremembers.history, fun tape start input => ?_⟩
  obtain ⟨htell, -⟩ := hremembers.rendered tape start input
  obtain ⟨hinputs, hreplies⟩ :=
    map_zipWith_mk (length_run_mapM (after.surroundings tape) (parts input)
      { session := after.sessions.getOrNew id, drawn := start }).symm
  rw [hlimit] at htell
  refine ⟨_, _, htell, hinputs, ?_, ?_⟩
  · rw [rendered, hreplies]
    rfl
  · rw [transcript_concat, toldAfter, if_pos rfl]

/-- A bot that remembers a single turn, and shows the input before and the last two replies. -/
def forgetful : Bot :=
  { new { historyLimit := 1 } ∅ Dict.empty 0 with
    trie := (Trie.empty {}).add ⟨.anything, .anything, .anything⟩
      (.sequence [.input 2, .literal ['/'], .reply 1, .literal ['/'], .reply 2]) }

/-- Two sentences for it. -/
def oneTwo : Call := .say (.ofList []) 0 ['a'] "One. Two.".toList

/-- With the second sentence the first is shown, and the reply to it; before that there is nothing,
and afterwards only the second is remembered. -/
theorem history_eq_rtake_transcript_forgetful :
    forgetful.sessions.get? ['a'] = none ∧
      transcript ['a'] forgetful [] [oneTwo] =
        [⟨"One.".toList, "//".toList⟩, ⟨"Two.".toList, "One.////".toList⟩] ∧
      ((Machine.run serve forgetful [oneTwo]).2.sessions.getOrNew ['a']).history =
        [⟨"Two.".toList, "One.////".toList⟩] := by
  have hnew : forgetful.sessions.get? ['a'] = none := rfl
  have htold : transcript ['a'] forgetful [] [oneTwo] =
      [⟨"One.".toList, "//".toList⟩, ⟨"Two.".toList, "One.////".toList⟩] := by decide +kernel
  obtain ⟨hhistory, -⟩ := history_eq_rtake_transcript hnew [oneTwo]
  rw [htold] at hhistory
  exact ⟨hnew, htold, hhistory⟩

end Bot

end Colloquy
