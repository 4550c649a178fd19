import Colloquy.Bot.Basic
import Colloquy.Proofs.Render.Notices
import Colloquy.Proofs.Text.Sentences

/-!
# Sentence by sentence

An input of several sentences is answered as if each of them had been said on its own. Of what the
answers leave behind, only the conversation and the place on the tape pass from one sentence to the
next, and both pass from one input to the next as well.

* `Bot.answerEach` — several inputs, answered one after the other.
* `Bot.answerEach_keep` — the answers to sentences, from what is rendered for each of them.
* `Bot.answerFrom_eq_answerEach` — an input is answered like its sentences.
-/

namespace Colloquy

namespace Bot

/-- The same bot, with a conversation put under an id. -/
def keep (b : Bot) (id : Text) (s : Session) : Bot :=
  { b with sessions := b.sessions.put id s }

/-- Answer several inputs in a conversation, each with the random words that follow those of the one
before. Also gives the position after all words that were read. -/
def answerEach (tape : Tape) (id : Text) : List Text → Nat → Bot → List Answer × Nat × Bot
  | [], start, b => ([], start, b)
  | input :: inputs, start, b =>
    let (first, next, b) := b.answerFrom tape start id input
    let (rest, last, b) := answerEach tape id inputs next b
    (first :: rest, last, b)

section

variable (b : Bot) (tape : Tape) (start : Nat) (id : Text)

@[simp] theorem surroundings_keep (s : Session) :
    (b.keep id s).surroundings tape = b.surroundings tape := rfl

@[simp] theorem keep_keep (s s' : Session) : (b.keep id s).keep id s' = b.keep id s' := by
  simp [keep]

@[simp] theorem getOrNew_keep (s : Session) : (b.keep id s).sessions.getOrNew id = s :=
  Sessions.getOrNew_put _ _ _

/-! ## One sentence -/

@[simp] theorem joinReplies_singleton (reply : Text) : joinReplies [reply] = reply := by
  by_cases h : reply = []
  · subst h
    rfl
  · simp [joinReplies, h]

theorem run_answerAndRecord (w : Surroundings) (sentence : Text) (r : Rendering) :
    (answerAndRecord w sentence).run r =
      (((w.answer sentence).run r).1,
        { ((w.answer sentence).run r).2 with
          session := ((w.answer sentence).run r).2.session.record
            ⟨sentence, ((w.answer sentence).run r).1⟩ }) := rfl

/-- Recording a turn gives no notice, so that it does not matter either which were given before. -/
theorem run_answerAndRecord_behind (w : Surroundings) (sentence : Text) (r : Rendering) :
    (answerAndRecord w sentence).run r =
      (((answerAndRecord w sentence).run { session := r.session, drawn := r.drawn }).1,
        ((answerAndRecord w sentence).run { session := r.session, drawn := r.drawn }).2.behind
          r.notices) := by
  rw [run_answerAndRecord, w.run_answer sentence r, run_answerAndRecord]
  rfl

/-- An answer is made of what is rendered for the parts of the input. -/
theorem answerFrom_of_run {input : Text} {ss : List Text} (hparts : parts input = ss)
    {out : List Text × Rendering}
    (hout : (ss.mapM (answerAndRecord (b.surroundings tape))).run
      { session := b.sessions.getOrNew id, drawn := start } = out) :
    b.answerFrom tape start id input =
      (⟨joinReplies out.1, out.2.notices⟩, out.2.drawn, b.keep id out.2.session) := by
  subst hout
  rw [answerFrom, hparts]
  rfl

/-- A single sentence is answered by rendering its reply and recording the turn. -/
theorem answerFrom_of_sentences_eq {s : Text} (h : s.sentences = [s]) {out : Text × Rendering}
    (hout : (answerAndRecord (b.surroundings tape) s).run
      { session := b.sessions.getOrNew id, drawn := start } = out) :
    b.answerFrom tape start id s =
      (⟨out.1, out.2.notices⟩, out.2.drawn, b.keep id out.2.session) := by
  have hparts : parts s = [s] := by simp [parts, h]
  have hrun : ([s].mapM (answerAndRecord (b.surroundings tape))).run
      { session := b.sessions.getOrNew id, drawn := start } = ([out.1], out.2) := by
    rw [← hout, List.mapM_cons, List.mapM_nil]
    rfl
  rw [b.answerFrom_of_run tape start id hparts hrun, joinReplies_singleton]

/-! ## Several sentences -/

theorem run_mapM_cons (w : Surroundings) (s : Text) (ss : List Text) (r : Rendering) :
    ((s :: ss).mapM (answerAndRecord w)).run r =
      (((answerAndRecord w s).run r).1 ::
          ((ss.mapM (answerAndRecord w)).run ((answerAndRecord w s).run r).2).1,
        ((ss.mapM (answerAndRecord w)).run ((answerAndRecord w s).run r).2).2) := by
  rw [List.mapM_cons]
  rfl

/-- To render replies to sentences in a row is to answer one after the other: the conversation and
the position pass from each to the next, and the notices add up. -/
theorem answerEach_keep {ss : List Text} (hss : ∀ s ∈ ss, s.sentences = [s]) (r : Rendering)
    {out : List Text × Rendering}
    (hout : (ss.mapM (answerAndRecord (b.surroundings tape))).run r = out) :
    ∃ answers, answerEach tape id ss r.drawn (b.keep id r.session) =
        (answers, out.2.drawn, b.keep id out.2.session) ∧
      answers.map Answer.text = out.1 ∧
      out.2.notices = r.notices ++ answers.flatMap Answer.notices := by
  subst hout
  induction ss generalizing r with
  | nil =>
    exact ⟨[], rfl, rfl, (List.append_nil _).symm⟩
  | cons s ss ih =>
    obtain ⟨hs, hss⟩ := List.forall_mem_cons.mp hss
    rw [run_mapM_cons, run_answerAndRecord_behind]
    -- what is rendered for the first sentence on its own
    generalize hfirst : (answerAndRecord (b.surroundings tape) s).run
      { session := r.session, drawn := r.drawn } = first
    have hanswer : (b.keep id r.session).answerFrom tape r.drawn id s =
        (⟨first.1, first.2.notices⟩, first.2.drawn, b.keep id first.2.session) := by
      rw [answerFrom_of_sentences_eq _ tape r.drawn id hs (by simpa using hfirst), keep_keep]
    obtain ⟨answers, hrest, htexts, hnotices⟩ := ih hss (first.2.behind r.notices)
    refine ⟨⟨first.1, first.2.notices⟩ :: answers, ?_, ?_, ?_⟩
    · have hrest : answerEach tape id ss first.2.drawn (b.keep id first.2.session) = _ := hrest
      rw [answerEach, hanswer]
      simp only [hrest]
    · rw [List.map_cons, htexts]
    · rw [hnotices, List.flatMap_cons]
      simp [Rendering.behind]

/-- A conversation that was not begun is the same as one that is new. -/
theorem answerFrom_keep (input : Text) :
    (b.keep id (b.sessions.getOrNew id)).answerFrom tape start id input =
      b.answerFrom tape start id input := by
  simp [answerFrom, keep, surroundings]

theorem answerEach_keep_getOrNew {inputs : List Text} (h : inputs ≠ []) :
    answerEach tape id inputs start (b.keep id (b.sessions.getOrNew id)) =
      answerEach tape id inputs start b := by
  cases inputs with
  | nil => exact absurd rfl h
  | cons input inputs => rw [answerEach, answerEach, answerFrom_keep]

end

/-- **An input is answered like its sentences, said one by one.** The conversations and the place on
the tape are the same in the end; the text has the replies that are not empty, with two spaces
between them, and the notices are those of all answers in order. -/
theorem answerFrom_eq_answerEach (b : Bot) (tape : Tape) (start : Nat) (id : Text) {input : Text}
    (h : input.sentences ≠ []) :
    b.answerFrom tape start id input =
      let each := answerEach tape id input.sentences start b
      (⟨joinReplies (each.1.map Answer.text), each.1.flatMap Answer.notices⟩, each.2) := by
  have hparts : parts input = input.sentences := by simp [parts, h]
  have hsentences : ∀ s ∈ input.sentences, s.sentences = [s] := fun _ => Text.sentences_of_mem
  obtain ⟨answers, hkeep, htexts, hnotices⟩ := b.answerEach_keep tape id hsentences
    { session := b.sessions.getOrNew id, drawn := start } rfl
  have heach : answerEach tape id input.sentences start b = _ :=
    (b.answerEach_keep_getOrNew tape start id h).symm.trans hkeep
  rw [b.answerFrom_of_run tape start id hparts rfl, heach, hnotices, ← htexts, List.nil_append]

/-- A bot that greets, and greets otherwise after its own greeting. -/
def greeter : Bot :=
  let hi : Pattern := [.word ['H', 'I']]
  { new {} ∅ Dict.empty 0 with
    trie := ((Trie.empty {}).add ⟨hi, .anything, .anything⟩ (.text "Hello.".toList)).add
      ⟨hi, [.word "HELLO".toList], .anything⟩ (.text "Again.".toList) }

/-- Two greetings. -/
def hiHi : Text := "Hi. Hi!".toList

/-- The second greeting knows of the first, said with it or before it. -/
theorem answerFrom_greeter :
    hiHi.sentences ≠ [] ∧
      (greeter.answerFrom (.ofList []) 0 [] hiHi).1.text = "Hello.  Again.".toList ∧
      greeter.answerFrom (.ofList []) 0 [] hiHi =
        let each := answerEach (.ofList []) [] hiHi.sentences 0 greeter
        (⟨joinReplies (each.1.map Answer.text), each.1.flatMap Answer.notices⟩, each.2) := by
  have hsentences : hiHi.sentences ≠ [] := by decide +kernel
  exact ⟨hsentences, by decide +kernel,
    answerFrom_eq_answerEach greeter (.ofList []) 0 [] hsentences⟩

end Bot

end Colloquy
