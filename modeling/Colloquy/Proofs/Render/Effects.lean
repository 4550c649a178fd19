import Colloquy.Proofs.Render.Relation
import Colloquy.Proofs.Text.Sentences

/-!
# What an answer may change

Templates are looked through for all that they could do: which predicates their nodes set, at any
depth and in any branch, and whether a node chooses. An answer does no more than that, whichever
rules its reductions come to.

* `Surroundings.Sets`, `Surroundings.Chanceless` — what the nodes of the stored templates do.
* `Session.ChangedOnly` — a conversation in which only some predicates changed.
* `Confined` — a part that changes nothing but predicates that are set somewhere.
* `Undrawn` — a part that does the same with all random words, and reads none of them.
* `Surroundings.answer_confined` — an answer changes only predicates that are set somewhere, and has
  nothing to do with chance where no template chooses.
-/

namespace Colloquy

/-! ## What stored templates do -/

namespace Surroundings

/-- A node of a template that is stored. -/
def HasNode (w : Surroundings) (n : Template) : Prop :=
  ∃ id t, w.trie.get? id = some t ∧ n.Within t

/-- A predicate that some node of a stored template sets. -/
def Sets (w : Surroundings) (name : Text) : Prop :=
  ∃ value, w.HasNode (.set name value)

/-- No node of a stored template chooses among children. -/
def Chanceless (w : Surroundings) : Prop :=
  ∀ children, w.HasNode (.random children) → children = []

/-- The same surroundings with other random words. -/
def withTape (w : Surroundings) (tape : Tape) : Surroundings :=
  { w with tape }

variable {w : Surroundings}

theorem HasNode.of_mem_children {n c : Template} (h : w.HasNode n) (hc : c ∈ n.children) :
    w.HasNode c := by
  obtain ⟨id, t, hstored, hn⟩ := h
  exact ⟨id, t, hstored, hn.of_mem_children hc⟩

theorem hasNode_of_get? {id : Nat} {t : Template} (h : w.trie.get? id = some t) : w.HasNode t :=
  ⟨id, t, h, .self⟩

end Surroundings

/-! ## Conversations in which little changed -/

/-- What may become of a conversation when only predicates with some names are set: no predicate is
lost, and one that is new or has another value has one of the names and a value without white space
at its ends. -/
structure Session.ChangedOnly (names : Text → Prop) (s s' : Session) : Prop where
  id : s'.id = s.id
  history : s'.history = s.history
  limit : s'.limit = s.limit
  kept : ∀ name, (s.predicate? name).isSome → (s'.predicate? name).isSome
  changed : ∀ name, s'.predicate? name ≠ s.predicate? name →
    names name ∧ ∃ value, s'.predicate? name = some value ∧ value.IsTrimmed

namespace Session.ChangedOnly

variable {names : Text → Prop} {s s' s'' : Session}

theorem refl (s : Session) : s.ChangedOnly names s :=
  ⟨rfl, rfl, rfl, fun _ h => h, fun _ h => absurd rfl h⟩

theorem trans (h : s.ChangedOnly names s') (h' : s'.ChangedOnly names s'') :
    s.ChangedOnly names s'' where
  id := h'.id.trans h.id
  history := h'.history.trans h.history
  limit := h'.limit.trans h.limit
  kept name hsome := h'.kept name (h.kept name hsome)
  changed name hne := by
    -- the value is either from the second stretch, or it stayed as it was since the first
    by_cases hlater : s''.predicate? name = s'.predicate? name
    · rw [hlater] at hne ⊢
      exact h.changed name hne
    · exact h'.changed name hlater

theorem setPredicate (s : Session) {name : Text} (hname : names name) (value : Text) :
    s.ChangedOnly names (s.setPredicate name value.trim) where
  id := rfl
  history := rfl
  limit := rfl
  kept other hsome := by
    rw [predicate?_setPredicate]
    split
    · rfl
    · exact hsome
  changed other hne := by
    rw [predicate?_setPredicate] at hne ⊢
    split at hne
    · rename_i hother
      rw [hother, if_pos rfl]
      exact ⟨hname, value.trim, rfl, value.isTrimmed_trim⟩
    · exact absurd rfl hne

end Session.ChangedOnly

/-! ## Parts that change only what is set somewhere -/

/-- A part that leaves everything of the conversation alone but predicates that some node of a
stored template sets. -/
def Confined (w : Surroundings) ⦃α : Type⦄ (p : RenderM α) : Prop :=
  ∀ r : Rendering, r.session.ChangedOnly w.Sets (p.run r).2.session

namespace Confined

variable {w : Surroundings}

/-- A part that leaves the conversation alone. -/
theorem of_keeps {α : Type} {p : RenderM α} (h : ∀ r, (p.run r).2.session = r.session) :
    Confined w p := by
  intro r
  rw [h]
  exact .refl _

theorem bind {α β : Type} {p : RenderM α} {f : α → RenderM β} (hp : Confined w p)
    (hf : ∀ a, Confined w (f a)) : Confined w (p >>= f) :=
  fun r => (hp r).trans (hf (p.run r).1 (p.run r).2)

/-- The only thing that templates do to a conversation is to set the predicates that they name. -/
theorem congruence (w : Surroundings) :
    CongruenceOn w.HasNode w w fun ⦃_⦄ (p _ : RenderM _) => Confined w p where
  child h hc := h.of_mem_children hc
  stored := Surroundings.hasNode_of_get?
  alike := .refl w
  pure _ := of_keeps fun _ => rfl
  bind hp hf := hp.bind hf
  session := of_keeps fun _ => rfl
  inputText _ := of_keeps fun _ => rfl
  setPredicate hset value := fun r => .setPredicate r.session ⟨_, hset⟩ value
  choose _ _ := of_keeps fun _ => rfl
  noMatch _ := of_keeps fun _ => rfl

theorem refuseFurther (t : Text) : Confined w (w.refuseFurther t) := by
  refine of_keeps fun r => ?_
  cases hexhausted : r.exhausted with
  | true => rw [w.run_refuseFurther_of_exhausted hexhausted]; rfl
  | false => rw [w.run_refuseFurther_of_not_exhausted hexhausted]; rfl

/-- Reductions come to stored templates only, so they do no more than these. -/
theorem reduce (budget : Nat) (t : Text) : Confined w (w.reduce budget t) := by
  induction budget generalizing t with
  | zero => exact of_keeps fun _ => rfl
  | succ budget ih =>
    intro r
    by_cases hlimit : w.manner.reductionLimit ≤ r.reductions
    · rw [w.run_reduce_beyond hlimit]
      exact refuseFurther t r
    · -- the count is no part of the conversation
      rw [w.run_reduce_within (Nat.lt_of_not_le hlimit)]
      exact (congruence w).replyOrNote (g := w.reduce budget) ih t
        { r with reductions := r.reductions + 1 }

end Confined

/-! ## Parts that have nothing to do with chance -/

/-- A part does what another does from any place of the tape on, and that one stays at its place. -/
def Undrawn ⦃α : Type⦄ (p p' : RenderM α) : Prop :=
  ∀ (r : Rendering) (drawn : Nat),
    p'.run { r with drawn } = ((p.run r).1, { (p.run r).2 with drawn })

namespace Undrawn

variable {w : Surroundings}

theorem bind {α β : Type} {p p' : RenderM α} {f f' : α → RenderM β} (hp : Undrawn p p')
    (hf : ∀ a, Undrawn (f a) (f' a)) : Undrawn (p >>= f) (p' >>= f') := by
  intro r drawn
  show (f' (p'.run { r with drawn }).1).run (p'.run { r with drawn }).2 = _
  rw [hp r drawn]
  exact hf (p.run r).1 (p.run r).2 drawn

/-- Where no template chooses, random words are not asked for. -/
theorem congruence (h : w.Chanceless) (tape : Tape) :
    CongruenceOn w.HasNode w (w.withTape tape) Undrawn where
  child h hc := h.of_mem_children hc
  stored := Surroundings.hasNode_of_get?
  alike := ⟨rfl, rfl, rfl, rfl, rfl, rfl, rfl, fun _ => rfl⟩
  pure _ := fun _ _ => rfl
  bind hp hf := hp.bind hf
  session := fun _ _ => rfl
  inputText _ := fun _ _ => rfl
  setPredicate _ _ := fun _ _ => rfl
  -- a node that asks for a random word is not there, so the other tape is never looked at
  choose hrandom hne := absurd (h _ hrandom) hne
  noMatch _ := fun _ _ => rfl

theorem refuseFurther (tape : Tape) (t : Text) :
    Undrawn (w.refuseFurther t) ((w.withTape tape).refuseFurther t) := by
  intro r drawn
  rcases Bool.eq_false_or_eq_true r.exhausted with hexhausted | hexhausted
  · rw [w.run_refuseFurther_of_exhausted hexhausted,
      (w.withTape tape).run_refuseFurther_of_exhausted (r := { r with drawn }) hexhausted]
    rfl
  · rw [w.run_refuseFurther_of_not_exhausted hexhausted,
      (w.withTape tape).run_refuseFurther_of_not_exhausted (r := { r with drawn }) hexhausted]
    rfl

theorem reduce (h : w.Chanceless) (tape : Tape) (budget : Nat) (t : Text) :
    Undrawn (w.reduce budget t) ((w.withTape tape).reduce budget t) := by
  induction budget generalizing t with
  | zero => exact fun _ _ => rfl
  | succ budget ih =>
    intro r drawn
    by_cases hlimit : w.manner.reductionLimit ≤ r.reductions
    · rw [w.run_reduce_beyond hlimit,
        Surroundings.run_reduce_beyond (r := { r with drawn }) (w.withTape tape) hlimit]
      exact refuseFurther tape t r drawn
    · have hwithin : r.reductions < w.manner.reductionLimit := Nat.lt_of_not_le hlimit
      rw [w.run_reduce_within hwithin,
        Surroundings.run_reduce_within (r := { r with drawn }) (w.withTape tape) hwithin]
      exact (congruence h tape).replyOrNote ih t { r with reductions := r.reductions + 1 } drawn

end Undrawn

namespace Surroundings

/-- **An answer changes only what is set somewhere.** Of the conversation it leaves the id, the
history and its limit as they are, no predicate is lost, and one that is new or has another value is
set by a node of a stored template, at any depth and in any branch, to a value without white space
at its ends. And where no node of a stored template chooses among children, then with all random
words, from any place of the tape on, the answer is the same and does the same, and none of the
words is read. -/
theorem answer_confined (w : Surroundings) (sentence : Text) (r : Rendering) :
    r.session.ChangedOnly w.Sets ((w.answer sentence).run r).2.session ∧
      (w.Chanceless → ∀ tape drawn, ((w.withTape tape).answer sentence).run { r with drawn } =
        (((w.answer sentence).run r).1, { ((w.answer sentence).run r).2 with drawn })) := by
  constructor
  · exact (Confined.congruence w).replyOrNote (g := w.reduce w.manner.recursionLimit)
      (Confined.reduce w.manner.recursionLimit) sentence
      { r with input := sentence, reductions := 0, exhausted := false }
  · intro h tape drawn
    exact (Undrawn.congruence h tape).replyOrNote (Undrawn.reduce h tape w.manner.recursionLimit)
      sentence { r with input := sentence, reductions := 0, exhausted := false } drawn

/-- A bot that replies to `a` what it replies to `b`, and to `b` nothing, though it is glad. -/
def moody : Surroundings where
  trie := ((Trie.empty {}).add ⟨[.word ['A']], .anything, .anything⟩ (.reduce (.text ['b']))).add
    ⟨[.word ['B']], .anything, .anything⟩
    (.think (.set "mood".toList (.literal " glad ".toList)))
  books := ∅
  profile := Dict.empty
  clock := 0
  manner := {}
  tape := .ofList []

/-- The mood is set by the rule that the reduction comes to, and with all random words alike. -/
theorem answer_confined_moody :
    let start : Rendering := { session := .new [] 3 }
    let final := ((moody.answer ['a']).run start).2
    final.session.predicate? "mood".toList = some "glad".toList ∧
      moody.Sets "mood".toList ∧ moody.Chanceless ∧
      ((moody.withTape (.ofList [7])).answer ['a']).run { start with drawn := 4 } =
        ([], { final with drawn := 4 }) := by
  intro start final
  have hmood : final.session.predicate? "mood".toList = some "glad".toList := by decide +kernel
  have hnew : start.session.predicate? "mood".toList = none := rfl
  have hsilent : ((moody.answer ['a']).run start).1 = [] := by decide +kernel
  have hchanceless : moody.Chanceless := by
    rintro children ⟨id, t, hstored, hnode⟩
    match id, hstored with
    | 0, rfl =>
      cases hnode with
      | child hc hnode =>
        obtain rfl := List.mem_singleton.mp hc
        cases hnode with
        | child hc _ => cases hc
    | 1, rfl =>
      cases hnode with
      | child hc hnode =>
        obtain rfl := List.mem_singleton.mp hc
        cases hnode with
        | child hc hnode =>
          obtain rfl := List.mem_singleton.mp hc
          cases hnode with
          | child hc _ => cases hc
  obtain ⟨hchanged, htape⟩ := answer_confined moody ['a'] start
  have hsets : moody.Sets "mood".toList := by
    refine (hchanged.changed "mood".toList ?_).1
    rw [hnew]
    intro hnone
    exact absurd (hmood.symm.trans hnone) (by simp)
  refine ⟨hmood, hsets, hchanceless, ?_⟩
  rw [htape hchanceless (.ofList [7]) 4, hsilent]

end Surroundings

end Colloquy
