import Colloquy.Proofs.Render.Effects

/-!
# Rules that stand for other texts

A rule that does nothing but reply what is replied to another text may be left out of account: to be
asked for it is to be asked for the other text, with one reduction taken off both limits. The two
answers go through the same states from there on, one of them always a single reduction ahead, so
that they come to their limits at the same places.

* `Surroundings.limited` — the same surroundings with other limits.
* `Rendering.Ahead` — a state that is a single reduction ahead of another.
* `InStep` — a part that stays in step with another, a single reduction ahead.
* `Surroundings.answer_synonym` — an answer by such a rule is the answer to the text it stands for.
-/

namespace Colloquy

/-- The same surroundings with other limits. -/
def Surroundings.limited (w : Surroundings) (recursionLimit reductionLimit : Nat) : Surroundings :=
  { w with manner := { w.manner with recursionLimit, reductionLimit } }

/-- The same notice of a limit that is higher by one. -/
def Notice.raised : Notice → Notice
  | .noMatch input => .noMatch input
  | .recursionLimit input limit => .recursionLimit input (limit + 1)
  | .reductionLimit input limit => .reductionLimit input (limit + 1)

/-! ## A single reduction ahead -/

/-- A state is a single reduction ahead of another, and nothing else is different but the sentence
that is being answered and the limits that notices tell of. The notices in `start` were given
before. -/
structure Rendering.Ahead (start : List Notice) (r r' : Rendering) : Prop where
  session : r.session = r'.session
  drawn : r.drawn = r'.drawn
  reductions : r.reductions = r'.reductions + 1
  exhausted : r.exhausted = r'.exhausted
  notices : ∃ added, r'.notices = start ++ added ∧ r.notices = start ++ added.map Notice.raised

/-- A part gives the same as another when it is a single reduction ahead of it, and then it stays
so. -/
def InStep (start : List Notice) ⦃α : Type⦄ (p p' : RenderM α) : Prop :=
  ∀ r r', r.Ahead start r' → (p.run r).1 = (p'.run r').1 ∧ (p.run r).2.Ahead start (p'.run r').2

namespace Rendering.Ahead

variable {start : List Notice} {r r' : Rendering}

theorem note (h : r.Ahead start r') (n : Notice) :
    Ahead start { r with notices := r.notices ++ [n.raised] }
      { r' with notices := r'.notices ++ [n] } where
  session := h.session
  drawn := h.drawn
  reductions := h.reductions
  exhausted := h.exhausted
  notices := by
    obtain ⟨added, hshort, hlong⟩ := h.notices
    refine ⟨added ++ [n], ?_, ?_⟩
    · rw [hshort, List.append_assoc]
    · rw [hlong, List.append_assoc, List.map_append, List.map_singleton]

theorem exhaust (h : r.Ahead start r') :
    Ahead start { r with exhausted := true } { r' with exhausted := true } :=
  ⟨h.session, h.drawn, h.reductions, rfl, h.notices⟩

theorem count (h : r.Ahead start r') :
    Ahead start { r with reductions := r.reductions + 1 }
      { r' with reductions := r'.reductions + 1 } :=
  ⟨h.session, h.drawn, congrArg (· + 1) h.reductions, h.exhausted, h.notices⟩

/-- Of the inputs only the one that is being answered is different. -/
theorem inputText_eq (h : r.Ahead start r') {index : Nat} (hindex : index ≠ 1) :
    Surroundings.inputText r index = Surroundings.inputText r' index := by
  rw [Surroundings.inputText, Surroundings.inputText, if_neg hindex, if_neg hindex, h.session]

end Rendering.Ahead

namespace InStep

variable {start : List Notice}

theorem bind {α β : Type} {p p' : RenderM α} {f f' : α → RenderM β} (hp : InStep start p p')
    (hf : ∀ a, InStep start (f a) (f' a)) : InStep start (p >>= f) (p' >>= f') := by
  intro r r' h
  obtain ⟨hvalue, hahead⟩ := hp r r' h
  show ((f (p.run r).1).run (p.run r).2).1 = ((f' (p'.run r').1).run (p'.run r').2).1 ∧
    ((f (p.run r).1).run (p.run r).2).2.Ahead start ((f' (p'.run r').1).run (p'.run r').2).2
  rw [hvalue]
  exact hf _ _ _ hahead

/-- Where no template looks at the sentence that is being answered, templates stay in step. -/
theorem congruence {w : Surroundings} (h : ¬ w.HasNode (.input 1)) (start : List Notice)
    (d n : Nat) :
    CongruenceOn w.HasNode (w.limited (d + 1) (n + 1)) (w.limited d n) (InStep start) where
  child h hc := h.of_mem_children hc
  stored := Surroundings.hasNode_of_get?
  alike := ⟨rfl, rfl, rfl, rfl, rfl, rfl, rfl, fun _ => rfl⟩
  pure _ := fun _ _ hahead => ⟨rfl, hahead⟩
  bind hp hf := hp.bind hf
  session := fun _ _ hahead => ⟨hahead.session, hahead⟩
  inputText {index} hnode := fun _ _ hahead => by
    have hindex : index.toNat ≠ 1 := by
      intro hone
      obtain rfl : index = 1 := UInt64.toNat_inj.mp hone
      exact h hnode
    exact ⟨hahead.inputText_eq hindex, hahead⟩
  setPredicate {name _} _ value := fun _ _ hahead =>
    ⟨rfl, congrArg (·.setPredicate name value.trim) hahead.session, hahead.drawn,
      hahead.reductions, hahead.exhausted, hahead.notices⟩
  choose {children} _ _ := fun r r' hahead => by
    show (w.tape.choose children.length r.drawn).1 = (w.tape.choose children.length r'.drawn).1 ∧
      Rendering.Ahead start { r with drawn := (w.tape.choose children.length r.drawn).2 }
        { r' with drawn := (w.tape.choose children.length r'.drawn).2 }
    rw [hahead.drawn]
    exact ⟨rfl, hahead.session, rfl, hahead.reductions, hahead.exhausted, hahead.notices⟩
  noMatch t := fun _ _ hahead => ⟨rfl, hahead.note (.noMatch t)⟩

theorem refuseNested (w : Surroundings) (start : List Notice) (d n : Nat) (t : Text) :
    InStep start ((w.limited (d + 1) (n + 1)).refuseNested t) ((w.limited d n).refuseNested t) :=
  fun _ _ hahead => ⟨rfl, hahead.note (.recursionLimit t d)⟩

theorem refuseFurther (w : Surroundings) (start : List Notice) (d n : Nat) (t : Text) :
    InStep start ((w.limited (d + 1) (n + 1)).refuseFurther t)
      ((w.limited d n).refuseFurther t) := by
  intro r r' hahead
  cases hexhausted : r'.exhausted with
  | true =>
    rw [Surroundings.run_refuseFurther_of_exhausted _ (hahead.exhausted.trans hexhausted),
      Surroundings.run_refuseFurther_of_exhausted _ hexhausted]
    exact ⟨rfl, hahead⟩
  | false =>
    rw [Surroundings.run_refuseFurther_of_not_exhausted _ (hahead.exhausted.trans hexhausted),
      Surroundings.run_refuseFurther_of_not_exhausted _ hexhausted]
    exact ⟨rfl, (hahead.note (.reductionLimit t n)).exhaust⟩

/-- Reductions stay in step, and are refused at the same places. -/
theorem reduce {w : Surroundings} (h : ¬ w.HasNode (.input 1)) (start : List Notice) (d n : Nat)
    (budget : Nat) (t : Text) :
    InStep start ((w.limited (d + 1) (n + 1)).reduce budget t)
      ((w.limited d n).reduce budget t) := by
  induction budget generalizing t with
  | zero => exact refuseNested w start d n t
  | succ budget ih =>
    intro r r' hahead
    have hcount := hahead.reductions
    by_cases hlimit : n ≤ r'.reductions
    · have hlimit' : n + 1 ≤ r.reductions := by omega
      rw [Surroundings.run_reduce_beyond _ hlimit', Surroundings.run_reduce_beyond _ hlimit]
      exact refuseFurther w start d n t r r' hahead
    · have hwithin : r.reductions < n + 1 := by omega
      have hwithin' : r'.reductions < n := by omega
      rw [Surroundings.run_reduce_within _ hwithin, Surroundings.run_reduce_within _ hwithin']
      exact (congruence h start d n).replyOrNote ih t _ _ hahead.count

end InStep

/-! ## Answers -/

namespace Surroundings

variable {w : Surroundings} {t : Text} {r : Rendering}

theorem run_replyOrNote_of_find?_eq_none
    (h : w.trie.find? (w.query r.session t) w.botName = none) (reduceText : Text → RenderM Text) :
    (w.replyOrNote reduceText t).run r = ([], { r with notices := r.notices ++ [.noMatch t] }) := by
  simp [replyOrNote, replyTo, RenderT.session, RenderT.current, RenderT.note, h]
  rfl

theorem run_replyOrNote_of_find?_eq_some {found : Trie.Match Template}
    (h : w.trie.find? (w.query r.session t) w.botName = some found)
    (reduceText : Text → RenderM Text) :
    (w.replyOrNote reduceText t).run r =
      let out := (found.rule.render w ⟨w.query r.session t, found.bindings⟩ reduceText).run r
      (out.1.trim, out.2) := by
  simp [replyOrNote, replyTo, RenderT.session, RenderT.current, h]
  rfl

/-- A reply has no white space at its ends. -/
theorem trim_replyOrNote (reduceText : Text → RenderM Text) (t : Text) (r : Rendering) :
    ((w.replyOrNote reduceText t).run r).1.trim = ((w.replyOrNote reduceText t).run r).1 := by
  cases hfound : w.trie.find? (w.query r.session t) w.botName with
  | none =>
    rw [run_replyOrNote_of_find?_eq_none hfound]
    rfl
  | some found =>
    rw [run_replyOrNote_of_find?_eq_some hfound]
    exact Text.trim_trim _

/-- An answer by a rule that stands for another text is the reply to that text, after a single
reduction. -/
theorem run_answer_of_synonym {x p : Text} (hlimit : 0 < w.manner.reductionLimit)
    (hdepth : w.manner.recursionLimit = d + 1)
    (h : (w.trie.find? (w.query r.session x) w.botName).map (·.rule) =
      some (.reduce (.literal p))) :
    (w.answer x).run r =
      (w.replyOrNote (w.reduce d) p).run
        { r with input := x, reductions := 1, exhausted := false } := by
  obtain ⟨found, hfound, hrule⟩ := Option.map_eq_some_iff.mp h
  let start : Rendering := { r with input := x, reductions := 0, exhausted := false }
  have hreduce : (w.reduce (d + 1) p).run start =
      (w.replyOrNote (w.reduce d) p).run { start with reductions := 1 } :=
    w.run_reduce_within (r := start) hlimit d p
  calc (w.answer x).run r
      = (w.replyOrNote (w.reduce (d + 1)) x).run start := by rw [answer, hdepth]; rfl
    _ = (((w.reduce (d + 1) p).run start).1.trim, ((w.reduce (d + 1) p).run start).2) := by
        rw [run_replyOrNote_of_find?_eq_some (r := start) hfound, hrule, Template.render,
          Template.render]
        rfl
    _ = (w.replyOrNote (w.reduce d) p).run { start with reductions := 1 } := by
        rw [hreduce, trim_replyOrNote]
        rfl

/-- **A rule that stands for another text is transparent.** Where no stored template looks at the
sentence that is being answered, and `x` finds a rule that replies what is replied to `p`, the
answer to `x` with limits `d + 1` and `n + 1` is the answer to `p` with limits `d` and `n`: it has
the same reply, leaves the conversation and the tape the same, and adds the same notices, but for
the limits that these tell of, which are higher by one. -/
theorem answer_synonym (hinput : ¬ w.HasNode (.input 1)) (d n : Nat) {x p : Text}
    (h : (w.trie.find? (w.query r.session x) w.botName).map (·.rule) =
      some (.reduce (.literal p))) :
    let long := ((w.limited (d + 1) (n + 1)).answer x).run r
    let short := ((w.limited d n).answer p).run r
    long.1 = short.1 ∧ long.2.session = short.2.session ∧ long.2.drawn = short.2.drawn ∧
      ∃ added, short.2.notices = r.notices ++ added ∧
        long.2.notices = r.notices ++ added.map Notice.raised := by
  intro long short
  have hlong : long = ((w.limited (d + 1) (n + 1)).replyOrNote
      ((w.limited (d + 1) (n + 1)).reduce d) p).run
        { r with input := x, reductions := 1, exhausted := false } :=
    run_answer_of_synonym (w := w.limited (d + 1) (n + 1)) (Nat.succ_pos n) rfl h
  have hstart : Rendering.Ahead r.notices
      { r with input := x, reductions := 1, exhausted := false }
      { r with input := p, reductions := 0, exhausted := false } :=
    ⟨rfl, rfl, rfl, rfl, [], by simp, by simp⟩
  obtain ⟨hreply, hahead⟩ := (InStep.congruence hinput r.notices d n).replyOrNote
    (InStep.reduce hinput r.notices d n d) p _ _ hstart
  rw [hlong]
  exact ⟨hreply, hahead.session, hahead.drawn, hahead.notices⟩

/-- A bot that replies to `a` what it replies to `b`, and to `b` something with the reply to `b` in
it. -/
def nesting : Surroundings where
  trie := ((Trie.empty {}).add ⟨[.word ['A']], .anything, .anything⟩ (.reduce (.literal ['b']))).add
    ⟨[.word ['B']], .anything, .anything⟩ (.sequence [.text ['c'], .reduce (.text ['b'])])
  books := ∅
  profile := Dict.empty
  clock := 0
  manner := { fallback := ['!'] }
  tape := .ofList []

/-- Both answers are nested as deeply as their limits allow, and break off at the same place. -/
theorem answer_synonym_nesting :
    let start : Rendering := { session := .new [] 3 }
    let long := ((nesting.limited 3 9).answer ['a']).run start
    ¬ nesting.HasNode (.input 1) ∧
      (nesting.trie.find? (nesting.query start.session ['a']) nesting.botName).map (·.rule) =
        some (.reduce (.literal ['b'])) ∧
      long.1 = ['c', 'c', 'c', '!'] ∧ long.2.notices = [.recursionLimit ['b'] 3] := by
  intro start long
  have hid : (nesting.trie.find? (nesting.query start.session ['a']) nesting.botName).map (·.id) =
      some 0 := by decide +kernel
  have hrule : (nesting.trie.find? (nesting.query start.session ['a']) nesting.botName).map
      (·.rule) = some (.reduce (.literal ['b'])) := by
    obtain ⟨found, hfound, hzero⟩ := Option.map_eq_some_iff.mp hid
    have hstored := nesting.trie.get?_of_find? hfound
    rw [hzero] at hstored
    rw [hfound, Option.map_some]
    exact hstored.symm
  have hinput : ¬ nesting.HasNode (.input 1) := by
    rintro ⟨id, t, hstored, hnode⟩
    match id, hstored with
    | 0, rfl =>
      cases hnode with
      | child hc hnode =>
        obtain rfl := List.mem_singleton.mp hc
        cases hnode with
        | child hc _ => cases hc
    | 1, rfl =>
      cases hnode with
      | child hc hnode =>
        rcases List.mem_pair.mp hc with rfl | rfl
        · cases hnode with
          | child hc _ => cases hc
        · cases hnode with
          | child hc hnode =>
            obtain rfl := List.mem_singleton.mp hc
            cases hnode with
            | child hc _ => cases hc
  obtain ⟨hreply, -, -, added, hshort, hlong⟩ := answer_synonym hinput 2 8 hrule
  refine ⟨hinput, hrule, ?_, ?_⟩
  · exact hreply.trans (by decide +kernel)
  · have hadded : added = [.recursionLimit ['b'] 2] := by
      have hnotices : (((nesting.limited 2 8).answer ['b']).run start).2.notices =
          [.recursionLimit ['b'] 2] := by decide +kernel
      rw [hnotices] at hshort
      exact hshort.symm
    rw [hadded] at hlong
    exact hlong

end Surroundings

end Colloquy
