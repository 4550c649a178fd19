import Colloquy.Proofs.Template.Nodes
import Colloquy.Render.Answer

/-!
# Relations that rendering keeps

A template is rendered by doing few things in a row: reading the conversation and the input, setting
a predicate, choosing, giving notice, and asking for reductions. A relation between two renderings
that holds for each of these, and for one after the other, holds for all that is made of them. The
induction over templates is done here once, for every relation. Some relations hold only where
templates are of a certain kind, as those that never choose; the induction is for these too.

* `Surroundings.Alike` — two surroundings in which templates read the same.
* `Congruence` — a relation that holds for what templates are rendered by.
* `CongruenceOn` — a relation that holds for what templates of some kind are rendered by.
* `CongruenceOn.render`, `CongruenceOn.replyOrNote` — it holds for templates and for replies.
* `Surroundings.Alike.answer_eq` — an answer is the same in surroundings that are alike.
-/

namespace Colloquy

/-- The rule that is found is the one that is stored under its number. -/
theorem Trie.get?_of_find? {α : Type} (t : Trie α) {q : Query} {name : List Word} {m : Match α}
    (h : t.find? q name = some m) : t.get? m.id = some m.rule := by
  obtain ⟨f, -, h⟩ := Option.bind_eq_some_iff.mp h
  obtain ⟨rule, hrule, h⟩ := Option.bind_eq_some_iff.mp h
  obtain rfl := Option.some.inj h
  exact hrule

/-- Two surroundings in which templates read the same, and texts find the same templates. -/
structure Surroundings.Alike (w w' : Surroundings) : Prop where
  books : w.books = w'.books
  profile : w.profile = w'.profile
  clock : w.clock = w'.clock
  size : w.trie.size = w'.trie.size
  defaultPredicate : w.manner.defaultPredicate = w'.manner.defaultPredicate
  setRendersValue : w.manner.setRendersValue = w'.manner.setRendersValue
  version : w.manner.version = w'.manner.version
  /-- A rule may have another number, but has the same template and bindings. -/
  find? : ∀ q, (w.trie.find? q w.botName).map (fun found => (found.rule, found.bindings)) =
    (w'.trie.find? q w'.botName).map (fun found => (found.rule, found.bindings))

namespace Surroundings.Alike

variable {w w' : Surroundings}

theorem refl (w : Surroundings) : w.Alike w :=
  ⟨rfl, rfl, rfl, rfl, rfl, rfl, rfl, fun _ => rfl⟩

theorem predicate_eq (h : w.Alike w') (s : Session) (name : Text) :
    w.predicate s name = w'.predicate s name := by
  rw [predicate, predicate, h.defaultPredicate]

theorem holds_eq (h : w.Alike w') (s : Session) (name? own? : Option Text) (value : Text) :
    w.holds s name? own? value = w'.holds s name? own? value := by
  simp only [holds, h.predicate_eq]

theorem query_eq (h : w.Alike w') (s : Session) (t : Text) : w.query s t = w'.query s t := by
  rw [query, query, h.books]

end Surroundings.Alike

variable {m m' : Type → Type} [Monad m] [Monad m']

/-- A relation between parts of two renderings that holds for everything that templates are rendered
by, reductions left out, and for one part after another. -/
structure Congruence (w w' : Surroundings)
    (R : ∀ ⦃α : Type⦄, RenderT m α → RenderT m' α → Prop) : Prop where
  alike : w.Alike w'
  pure : ∀ {α : Type} (a : α), R (pure a) (pure a)
  bind : ∀ {α β : Type} {p : RenderT m α} {p' : RenderT m' α} {f : α → RenderT m β}
    {f' : α → RenderT m' β}, R p p' → (∀ a, R (f a) (f' a)) → R (p >>= f) (p' >>= f')
  session : R RenderT.session RenderT.session
  inputText : ∀ index,
    R (do return Surroundings.inputText (← RenderT.current) index)
      (do return Surroundings.inputText (← RenderT.current) index)
  setPredicate : ∀ name value,
    R (RenderT.modifySession fun s => s.setPredicate name value)
      (RenderT.modifySession fun s => s.setPredicate name value)
  choose : ∀ n, R (RenderT.choose w.tape n) (RenderT.choose w'.tape n)
  noMatch : ∀ t, R (RenderT.note (.noMatch t)) (RenderT.note (.noMatch t))

/-- A relation between parts of two renderings that holds for everything that templates of some
kind are rendered by, reductions left out, and for one part after another. With a template all its
nodes are of the kind, and so are the templates of rules. -/
structure CongruenceOn (P : Template → Prop) (w w' : Surroundings)
    (R : ∀ ⦃α : Type⦄, RenderT m α → RenderT m' α → Prop) : Prop where
  child : ∀ {t c : Template}, P t → c ∈ t.children → P c
  stored : ∀ {id : Nat} {t : Template}, w.trie.get? id = some t → P t
  alike : w.Alike w'
  pure : ∀ {α : Type} (a : α), R (pure a) (pure a)
  bind : ∀ {α β : Type} {p : RenderT m α} {p' : RenderT m' α} {f : α → RenderT m β}
    {f' : α → RenderT m' β}, R p p' → (∀ a, R (f a) (f' a)) → R (p >>= f) (p' >>= f')
  session : R RenderT.session RenderT.session
  /-- Templates of the kind look at an input by its number. -/
  inputText : ∀ {index : UInt64}, P (.input index) →
    R (do return Surroundings.inputText (← RenderT.current) index.toNat)
      (do return Surroundings.inputText (← RenderT.current) index.toNat)
  /-- Predicates are set by templates of the kind, and to trimmed values. -/
  setPredicate : ∀ {name : Text} {body : Template}, P (.set name body) → ∀ value : Text,
    R (RenderT.modifySession fun s => s.setPredicate name value.trim)
      (RenderT.modifySession fun s => s.setPredicate name value.trim)
  /-- Templates of the kind choose among their children, if they have some. -/
  choose : ∀ {children : List Template}, P (.random children) → children ≠ [] →
    R (RenderT.choose w.tape children.length) (RenderT.choose w'.tape children.length)
  noMatch : ∀ t, R (RenderT.note (.noMatch t)) (RenderT.note (.noMatch t))

namespace CongruenceOn

variable {P : Template → Prop} {w w' : Surroundings}
  {R : ∀ ⦃α : Type⦄, RenderT m α → RenderT m' α → Prop}
  {f : Text → RenderT m Text} {g : Text → RenderT m' Text}

mutual

/-- What holds for the parts and for the reductions holds for a template. -/
theorem render (h : CongruenceOn P w w' R) (hf : ∀ t, R (f t) (g t)) (scene : Scene) :
    ∀ t : Template, P t → R (t.render w scene f) (t.render w' scene g)
  | .text t, _ => by
    rw [Template.render, Template.render]
    exact h.pure _
  | .literal t, _ => by
    rw [Template.render, Template.render]
    exact h.pure _
  | .sequence children, ht => by
    rw [Template.render, Template.render]
    exact renderAll h hf scene children fun _ hc => h.child ht hc
  | .random children, ht => by
    rw [Template.render, Template.render]
    split
    · exact h.pure _
    · rename_i hne
      refine h.bind (h.choose ht (by simpa using hne)) fun i => ?_
      exact renderNth h hf scene children i fun _ hc => h.child ht hc
  | .condition name? branches otherwise?, ht => by
    rw [Template.render, Template.render]
    refine renderBranches h hf scene name? (renderOptional h hf scene otherwise? ?_) branches ?_
    · intro c hc
      exact h.child ht (List.mem_append_right _ (by simpa using hc))
    · intro b hb
      exact h.child ht (List.mem_append_left _ (List.mem_map_of_mem hb))
  | .reduce body, ht => by
    rw [Template.render, Template.render]
    exact h.bind (render h hf scene body (h.child ht (List.mem_singleton_self body))) hf
  | .set name value, ht => by
    rw [Template.render, Template.render, h.alike.setRendersValue]
    exact h.bind (render h hf scene value (h.child ht (List.mem_singleton_self value)))
      fun value => h.bind (h.setPredicate ht value) fun _ => h.pure _
  | .get name, _ => by
    rw [Template.render, Template.render]
    refine h.bind h.session fun s => ?_
    rw [h.alike.predicate_eq]
    exact h.pure _
  | .wildcard segment index, _ => by
    rw [Template.render, Template.render]
    exact h.pure _
  | .think body, ht => by
    rw [Template.render, Template.render]
    exact h.bind (render h hf scene body (h.child ht (List.mem_singleton_self body)))
      fun _ => h.pure _
  | .shaped shape body, ht => by
    rw [Template.render, Template.render]
    exact h.bind (render h hf scene body (h.child ht (List.mem_singleton_self body)))
      fun _ => h.pure _
  | .swapped swap body, ht => by
    rw [Template.render, Template.render, h.alike.books]
    exact h.bind (render h hf scene body (h.child ht (List.mem_singleton_self body)))
      fun _ => h.pure _
  | .property name, _ => by
    rw [Template.render, Template.render, h.alike.profile]
    exact h.pure _
  | .input index, ht => by
    rw [Template.render, Template.render]
    exact h.inputText ht
  | .reply index, _ => by
    rw [Template.render, Template.render]
    exact h.bind h.session fun _ => h.pure _
  | .sessionId, _ => by
    rw [Template.render, Template.render]
    exact h.bind h.session fun _ => h.pure _
  | .ruleCount, _ => by
    rw [Template.render, Template.render, h.alike.size]
    exact h.pure _
  | .version, _ => by
    rw [Template.render, Template.render, h.alike.version]
    exact h.pure _
  | .date, _ => by
    rw [Template.render, Template.render, h.alike.clock]
    exact h.pure _

theorem renderAll (h : CongruenceOn P w w' R) (hf : ∀ t, R (f t) (g t)) (scene : Scene) :
    ∀ ts : List Template, (∀ t ∈ ts, P t) →
      R (Template.renderAll w scene f ts) (Template.renderAll w' scene g ts)
  | [], _ => by
    rw [Template.renderAll, Template.renderAll]
    exact h.pure _
  | t :: ts, hts => by
    obtain ⟨ht, hts⟩ := List.forall_mem_cons.mp hts
    rw [Template.renderAll, Template.renderAll]
    exact h.bind (render h hf scene t ht) fun _ =>
      h.bind (renderAll h hf scene ts hts) fun _ => h.pure _

theorem renderNth (h : CongruenceOn P w w' R) (hf : ∀ t, R (f t) (g t)) (scene : Scene) :
    ∀ (ts : List Template) (n : Nat), (∀ t ∈ ts, P t) →
      R (Template.renderNth w scene f ts n) (Template.renderNth w' scene g ts n)
  | [], n, _ => by
    rw [Template.renderNth, Template.renderNth]
    exact h.pure _
  | t :: _, 0, hts => by
    rw [Template.renderNth, Template.renderNth]
    exact render h hf scene t (List.forall_mem_cons.mp hts).1
  | _ :: ts, n + 1, hts => by
    rw [Template.renderNth, Template.renderNth]
    exact renderNth h hf scene ts n (List.forall_mem_cons.mp hts).2

theorem renderBranches (h : CongruenceOn P w w' R) (hf : ∀ t, R (f t) (g t)) (scene : Scene)
    (name? : Option Text) {p : RenderT m Text} {p' : RenderT m' Text} (hp : R p p') :
    ∀ bs : List (Branch Template), (∀ b ∈ bs, P b.body) →
      R (Template.renderBranches w scene f name? p bs)
        (Template.renderBranches w' scene g name? p' bs)
  | [], _ => by
    rw [Template.renderBranches, Template.renderBranches]
    exact hp
  | ⟨own?, value, body⟩ :: bs, hbs => by
    obtain ⟨hbody, hbs⟩ := List.forall_mem_cons.mp hbs
    rw [Template.renderBranches, Template.renderBranches]
    refine h.bind h.session fun s => ?_
    rw [h.alike.holds_eq]
    split
    · exact render h hf scene body hbody
    · exact renderBranches h hf scene name? hp bs hbs

theorem renderOptional (h : CongruenceOn P w w' R) (hf : ∀ t, R (f t) (g t)) (scene : Scene) :
    ∀ t? : Option Template, (∀ t ∈ t?, P t) →
      R (Template.renderOptional w scene f t?) (Template.renderOptional w' scene g t?)
  | none, _ => by
    rw [Template.renderOptional, Template.renderOptional]
    exact h.pure _
  | some t, ht => by
    rw [Template.renderOptional, Template.renderOptional]
    exact render h hf scene t (ht t rfl)

end

/-- What holds for the parts and for the reductions holds for the look-up of a text. -/
theorem replyTo (h : CongruenceOn P w w' R) (hf : ∀ t, R (f t) (g t)) (t : Text) :
    R (w.replyTo f t) (w'.replyTo g t) := by
  refine h.bind h.session fun s => ?_
  dsimp only
  rw [← h.alike.query_eq]
  have hfind := h.alike.find? (w.query s t)
  cases hfound : w.trie.find? (w.query s t) w.botName with
  | none =>
    rw [hfound] at hfind
    rw [Option.map_eq_none_iff.mp hfind.symm]
    exact h.pure _
  | some found =>
    rw [hfound] at hfind
    obtain ⟨found', hfound', heq⟩ := Option.map_eq_some_iff.mp hfind.symm
    rw [hfound']
    obtain ⟨hrule, hbindings⟩ := Prod.mk.inj heq
    simp only [hrule, hbindings]
    exact h.bind (h.render hf _ _ (h.stored (w.trie.get?_of_find? hfound))) fun _ => h.pure _

/-- What holds for the parts and for the reductions holds for the reply to a text. -/
theorem replyOrNote (h : CongruenceOn P w w' R) (hf : ∀ t, R (f t) (g t)) (t : Text) :
    R (w.replyOrNote f t) (w'.replyOrNote g t) := by
  refine h.bind (h.replyTo hf t) fun reply? => ?_
  cases reply? with
  | some reply => exact h.pure _
  | none => exact h.bind (h.noMatch t) fun _ => h.pure _

end CongruenceOn

namespace Congruence

variable {w w' : Surroundings} {R : ∀ ⦃α : Type⦄, RenderT m α → RenderT m' α → Prop}
  {f : Text → RenderT m Text} {g : Text → RenderT m' Text}

/-- A relation that holds whatever the templates are is one for templates of every kind. -/
theorem on (h : Congruence w w' R) : CongruenceOn (fun _ => True) w w' R where
  child _ _ := trivial
  stored _ := trivial
  alike := h.alike
  pure := h.pure
  bind := h.bind
  session := h.session
  inputText {index} _ := h.inputText index.toNat
  setPredicate {name} _ _ value := h.setPredicate name value.trim
  choose {children} _ _ := h.choose children.length
  noMatch := h.noMatch

/-- What holds for the parts and for the reductions holds for the reply to a text. -/
theorem replyOrNote (h : Congruence w w' R) (hf : ∀ t, R (f t) (g t)) (t : Text) :
    R (w.replyOrNote f t) (w'.replyOrNote g t) :=
  h.on.replyOrNote hf t

end Congruence

/-! ## Answers in surroundings that are alike -/

namespace Surroundings.Alike

variable {w w' : Surroundings}

/-- With the same random words, all that templates are rendered by is the same. -/
theorem congruence (h : w.Alike w') (htape : w.tape = w'.tape) :
    Congruence w w' fun ⦃α⦄ (p p' : RenderM α) => p = p' where
  alike := h
  pure _ := rfl
  bind hp hf := by rw [hp, funext hf]
  session := rfl
  inputText _ := rfl
  setPredicate _ _ := rfl
  choose n := by rw [htape]
  noMatch _ := rfl

/-- With the same limits as well, reductions are the same. -/
theorem reduce_eq (h : w.Alike w') (htape : w.tape = w'.tape) (hmanner : w.manner = w'.manner)
    (budget : Nat) (t : Text) : w.reduce budget t = w'.reduce budget t := by
  induction budget generalizing t with
  | zero => rw [reduce, reduce, refuseNested, refuseNested, hmanner]
  | succ budget ih =>
    have hperform : w.perform (w.reduce budget) t = w'.perform (w'.reduce budget) t := by
      rw [perform, perform, (h.congruence htape).replyOrNote ih]
    have hrefuse : (w.refuseFurther t : RenderM Text) = w'.refuseFurther t := by
      rw [refuseFurther, refuseFurther, hmanner]
    rw [reduce, reduce, hperform, hrefuse, hmanner]

/-- **Answers in surroundings that are alike are the same.** -/
theorem answer_eq (h : w.Alike w') (htape : w.tape = w'.tape) (hmanner : w.manner = w'.manner)
    (sentence : Text) : w.answer sentence = w'.answer sentence := by
  rw [answer, answer, ← hmanner,
    (h.congruence htape).replyOrNote (h.reduce_eq htape hmanner w.manner.recursionLimit)]

end Surroundings.Alike

end Colloquy
