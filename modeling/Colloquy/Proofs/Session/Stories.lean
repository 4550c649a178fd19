import Colloquy.Proofs.Machine
import Colloquy.Proofs.Session.History
import Colloquy.Session.Calls

/-!
# A store is a map of conversations

What is kept under an id is told here without any store: by the calls about this id since the
conversation was last forgotten, and by no other call. The calls that set something are its
predicates, and those that add an exchange are its turns, of which the last are kept.

* `Call.lately` — the calls about a conversation since it was last forgotten.
* `Call.story`, `Call.story?` — the conversation that these calls tell of, if they began one.
* `Call.story_concat` — one more call does to it what it does to any conversation.
* `Sessions.Recalls` — a store has, under every id, the conversation that the calls tell of.
* `Sessions.Tells` — what comes of the next call about a conversation.
* `Sessions.run_serve_tells` — so it is after every run of calls.
-/

namespace Colloquy

/-- In a dictionary that is filled from entries the last entry under a text is found. -/
theorem Dict.find?_ofList {β : Type} (es : List (Text × β)) (k : Text) :
    (Dict.ofList es).find? k = es.reverse.lookup k := by
  induction es using List.reverseRecOn with
  | nil => rfl
  | append_singleton es e ih =>
    have hinsert : Dict.ofList (es ++ [e]) = (Dict.ofList es).insert e.1 e.2 := by
      rw [Dict.ofList, List.foldl_append]
      rfl
    rw [hinsert, Dict.find?_insert, ih, List.reverse_append, List.reverse_singleton,
      List.singleton_append, List.lookup_cons]
    by_cases hk : k = e.1
    · rw [if_pos hk, beq_iff_eq.mpr hk]
    · rw [if_neg hk, beq_eq_false_iff_ne.mpr hk]

/-- A dictionary has a value under those texts that are listed. -/
theorem Dict.mem_keys_iff {β : Type} {d : Dict β} {k : Text} :
    k ∈ d.keys ↔ (d.find? k).isSome := by
  rw [Dict.keys, List.mem_map, Option.isSome_iff_exists]
  constructor
  · rintro ⟨⟨_, v⟩, hentry, rfl⟩
    exact ⟨v, Dict.find?_eq_some_iff.mpr hentry⟩
  · rintro ⟨v, hv⟩
    exact ⟨(k, v), Dict.find?_eq_some_iff.mp hv, rfl⟩

namespace Sessions

namespace Call

/-! ## What calls tell -/

/-- A conversation is begun by asking for one that may be new, by setting a predicate in it, and by
adding an exchange to it. -/
def begins : Call → Bool
  | .getOrNew _ | .setPredicate _ _ _ | .record _ _ => true
  | _ => false

/-- A call that forgets a conversation. -/
def isRemoval : Call → Bool
  | .remove _ => true
  | _ => false

/-- A call that only looks. -/
def looks : Call → Bool
  | .get _ | .predicate _ _ | .topic _ | .snapshot _ | .default | .ids | .size | .isEmpty => true
  | .getOrNew _ | .setPredicate _ _ _ | .record _ _ | .remove _ => false

/-- What a call does to the conversation it is about. -/
def effect : Call → Session → Session
  | .setPredicate _ name value, s => s.setPredicate name value
  | .record _ turn, s => s.record turn
  | _, s => s

/-- What a call sets. -/
def assignment? : Call → Option (Text × Text)
  | .setPredicate _ name value => some (name, value)
  | _ => none

/-- The exchange that a call adds. -/
def turn? : Call → Option Turn
  | .record _ turn => some turn
  | _ => none

/-- All that some calls set. -/
def assignments (told : List Call) : List (Text × Text) := told.filterMap assignment?

/-- All exchanges that some calls add. -/
def turns (told : List Call) : List Turn := told.filterMap turn?

/-- The calls about a conversation since it was last forgotten. -/
def lately (id : Text) (cs : List Call) : List Call :=
  (cs.filter fun c => c.id? = some id).rtakeWhile fun c => !c.isRemoval

/-- The value that some calls set last under a name. -/
def lastSet? (name : Text) (told : List Call) : Option Text :=
  (assignments told).reverse.lookup name

/-- The conversation that some calls tell of: what they set, and the last turns they added. -/
def story (id : Text) (limit : Nat) (told : List Call) : Session where
  id := id
  predicates := Dict.ofList (assignments told)
  history := (turns told).rtake limit
  limit := limit

/-- The conversation that some calls tell of, if one of them began it. -/
def story? (id : Text) (limit : Nat) (told : List Call) : Option Session :=
  if told.any begins then some (story id limit told) else none

variable {id : Text} {c : Call} {told : List Call}

/-- A call about a conversation is one more, unless it forgets the conversation. -/
theorem lately_concat (cs : List Call) (h : c.id? = some id) :
    lately id (cs ++ [c]) = if c.isRemoval then [] else lately id cs ++ [c] := by
  unfold lately
  rw [List.filter_append, List.filter_cons_of_pos (by simpa using h), List.filter_nil,
    List.rtakeWhile_concat]
  cases c.isRemoval <;> rfl

/-- A call that is not about a conversation does not count. -/
theorem lately_concat_of_ne (cs : List Call) (h : c.id? ≠ some id) :
    lately id (cs ++ [c]) = lately id cs := by
  unfold lately
  rw [List.filter_append, List.filter_cons_of_neg (by simpa using h), List.filter_nil,
    List.append_nil]

@[simp] theorem assignments_concat (told : List Call) (c : Call) :
    assignments (told ++ [c]) = assignments told ++ c.assignment?.toList := by
  rw [assignments, List.filterMap_append]
  cases c <;> rfl

@[simp] theorem turns_concat (told : List Call) (c : Call) :
    turns (told ++ [c]) = turns told ++ c.turn?.toList := by
  rw [turns, List.filterMap_append]
  cases c <;> rfl

theorem assignment?_of_not_begins (h : c.begins = false) : c.assignment? = none := by
  cases c <;> first | rfl | cases h

theorem turn?_of_not_begins (h : c.begins = false) : c.turn? = none := by
  cases c <;> first | rfl | cases h

/-- A call begins a conversation, or forgets one, or only looks. -/
theorem begins_or_isRemoval_or_looks (c : Call) :
    c.begins = true ∨ c.isRemoval = true ∨ c.looks = true := by
  cases c <;> simp [begins, isRemoval, looks]

theorem not_begins_of_looks (h : c.looks = true) : c.begins = false := by
  cases c <;> first | rfl | cases h

theorem not_isRemoval_of_begins (h : c.begins = true) : c.isRemoval = false := by
  cases c <;> first | rfl | cases h

theorem not_isRemoval_of_looks (h : c.looks = true) : c.isRemoval = false := by
  cases c <;> first | rfl | cases h

theorem effect_of_looks (h : c.looks = true) (s : Session) : c.effect s = s := by
  cases c <;> first | rfl | cases h

/-- Calls none of which begins a conversation tell of a new one. -/
theorem story_eq_new (limit : Nat) (h : told.any begins = false) :
    story id limit told = Session.new id limit := by
  have hbegins : ∀ c ∈ told, c.begins = false := fun c hc =>
    Bool.eq_false_iff.mpr (List.any_eq_false.mp h c hc)
  have hset : assignments told = [] :=
    List.filterMap_eq_nil_iff.mpr fun c hc => assignment?_of_not_begins (hbegins c hc)
  have hturns : turns told = [] :=
    List.filterMap_eq_nil_iff.mpr fun c hc => turn?_of_not_begins (hbegins c hc)
  rw [story, hset, hturns, List.rtake_nil]
  rfl

/-- **One more call** does to the conversation that calls tell of what it does to any. -/
theorem story_concat (id : Text) (limit : Nat) (told : List Call) (c : Call) :
    story id limit (told ++ [c]) = c.effect (story id limit told) := by
  cases c with
  | setPredicate other name value =>
    simp [story, effect, assignment?, turn?, Session.setPredicate, Dict.ofList]
  | record other e =>
    have htold : (story id limit told).Remembers (turns told) limit := ⟨rfl, rfl⟩
    obtain ⟨hhistory, hlimit⟩ := htold.record e
    refine Session.ext ?_ ?_ ?_ ?_
    · exact (Session.id_record (story id limit told) e).symm
    · show _ = ((story id limit told).record e).predicates
      rw [Session.predicates_record]
      simp [story, assignment?]
    · show _ = ((story id limit told).record e).history
      rw [hhistory]
      simp [story, turn?]
    · exact hlimit.symm
  | _ => simp [story, effect, assignment?, turn?]

/-- After a call that begins a conversation there is one. -/
theorem story?_concat_of_begins (limit : Nat) (h : c.begins = true) :
    story? id limit (told ++ [c]) = some (c.effect (story id limit told)) := by
  simp [story?, h, story_concat]

/-- A call that only looks tells nothing. -/
theorem story?_concat_of_looks (limit : Nat) (h : c.looks = true) :
    story? id limit (told ++ [c]) = story? id limit told := by
  simp [story?, story_concat, effect_of_looks h, not_begins_of_looks h]

end Call

open Call

/-! ## Stores that recall what they were told -/

/-- A store has under every id the conversation that some calls tell of. -/
structure Recalls (ss : Sessions) (fallback : Text) (limit : Nat) (cs : List Call) : Prop where
  default_eq : ss.default = fallback
  limit_eq : ss.limit = limit
  get?_eq : ∀ id, ss.get? id = story? id limit (lately id cs)

variable {ss : Sessions} {fallback : Text} {limit : Nat} {cs : List Call} {id : Text} {c : Call}

/-- A call that is not about a conversation leaves it as it is. -/
theorem get?_serve_of_id?_ne (h : c.id? ≠ some id) : (ss.serve c).2.get? id = ss.get? id := by
  have hne {other : Text} (h : some other ≠ some id) : id ≠ other := fun heq =>
    h (congrArg some heq.symm)
  cases c with
  | getOrNew other | setPredicate other name value | record other turn =>
    exact (get?_update ..).trans (if_neg (hne h))
  | remove other => exact (get?_remove ..).trans (if_neg (hne h))
  | _ => rfl

/-- A call that begins a conversation changes this one. -/
theorem serve_of_begins (h : c.begins = true) (hid : c.id? = some id) :
    (ss.serve c).2 = ss.update id c.effect := by
  cases c with
  | getOrNew other | setPredicate other name value | record other turn =>
    obtain rfl : other = id := Option.some.inj hid
    rfl
  | _ => cases h

/-- A call that forgets a conversation takes it away. -/
theorem serve_of_isRemoval (h : c.isRemoval = true) (hid : c.id? = some id) :
    (ss.serve c).2 = (ss.remove id).2 := by
  cases c with
  | remove other =>
    obtain rfl : other = id := Option.some.inj hid
    rfl
  | _ => cases h

/-- A call that only looks leaves all as it is. -/
theorem serve_of_looks (h : c.looks = true) : (ss.serve c).2 = ss := by
  cases c <;> first | rfl | cases h

namespace Recalls

theorem empty (fallback : Text) (limit : Nat) :
    Recalls { default := fallback, limit := limit } fallback limit [] :=
  ⟨rfl, rfl, fun _ => rfl⟩

theorem getOrNew_eq (h : ss.Recalls fallback limit cs) (id : Text) :
    ss.getOrNew id = story id limit (lately id cs) := by
  rw [getOrNew, h.get?_eq, h.limit_eq, story?]
  split
  · rfl
  · rename_i hbegins
    exact (story_eq_new limit (Bool.eq_false_iff.mpr hbegins)).symm

/-- **One call.** After a call a store has the conversations that the calls up to this one tell
of. -/
theorem serve (h : ss.Recalls fallback limit cs) (c : Call) :
    (ss.serve c).2.Recalls fallback limit (cs ++ [c]) := by
  refine ⟨?_, ?_, fun id => ?_⟩
  · cases c <;> exact h.default_eq
  · cases c <;> exact h.limit_eq
  · by_cases hid : c.id? = some id
    · rw [lately_concat cs hid]
      obtain hbegins | hremoval | hlooks := c.begins_or_isRemoval_or_looks
      · rw [serve_of_begins hbegins hid, get?_update, if_pos rfl, h.getOrNew_eq,
          if_neg (by simp [not_isRemoval_of_begins hbegins]), story?_concat_of_begins limit hbegins]
      · rw [serve_of_isRemoval hremoval hid, get?_remove_self, if_pos hremoval]
        rfl
      · rw [serve_of_looks hlooks, if_neg (by simp [not_isRemoval_of_looks hlooks]),
          story?_concat_of_looks limit hlooks]
        exact h.get?_eq id
    · rw [lately_concat_of_ne cs hid, get?_serve_of_id?_ne hid]
      exact h.get?_eq id

/-- A store has the conversations that all calls of a run tell of. -/
theorem run (h : ss.Recalls fallback limit cs) (cs' : List Call) :
    (Machine.run Sessions.serve ss cs').2.Recalls fallback limit (cs ++ cs') := by
  -- What was told grows at its end, so the first call of a run is the last that was told.
  induction cs' generalizing ss cs with
  | nil => rwa [List.append_nil]
  | cons c cs' ih =>
    rw [List.append_cons]
    exact ih (h.serve c)

end Recalls

/-! ## What comes of the next call -/

/-- What comes of the next call about a conversation, told by the calls about it since it was last
forgotten. -/
structure Tells (ss : Sessions) (fallback : Text) (limit : Nat) (id : Text) (told : List Call) :
    Prop where
  /-- There is a conversation if one of these calls began it. -/
  begun : (ss.get? id).isSome ↔ ∃ c ∈ told, c.begins
  /-- To look at it begins none. -/
  get : ss.serve (.get id) = (.found (story? id limit told), ss)
  /-- To look at a copy of it begins none. -/
  snapshot : ss.serve (.snapshot id) = (.shown (story? id limit told), ss)
  /-- A predicate has the value that was set last, or else the value of predicates that were never
  set. To ask for it begins no conversation. -/
  predicate : ∀ name, ss.serve (.predicate id name) =
    (.value ((lastSet? name told).getD fallback), ss)
  /-- The topic is what was set last for it, or else empty. To ask for it begins no conversation. -/
  topic : ss.serve (.topic id) = (.value ((lastSet? Session.topicName told).getD []), ss)
  /-- The conversation may be had, whether it was begun or not. -/
  getOrNew : (ss.serve (.getOrNew id)).1 = .found (some (story id limit told))
  /-- It is forgotten if there is one. -/
  remove : (ss.serve (.remove id)).1 = .removed (told.any begins)
  /-- The conversation has the id and the limit, what was set, and the last turns that were added;
  the turn with the number `n` is the `n`-th from the end. -/
  session : ∀ s, ss.get? id = some s → s.id = id ∧ s.limit = limit ∧
    (∀ name, s.predicate? name = lastSet? name told) ∧
    s.history = (turns told).rtake limit ∧
    ∀ n, s.turn? n =
      if 1 ≤ n ∧ n ≤ s.history.length then s.history[s.history.length - n]? else none

/-- What is found is the conversation that the calls tell of, if one of them began it. -/
theorem story?_eq_some_iff {told : List Call} {s : Session} :
    story? id limit told = some s ↔ told.any begins ∧ s = story id limit told := by
  rw [story?]
  split
  · rename_i hbegins
    simp [hbegins, eq_comm]
  · rename_i hbegins
    simp [hbegins]

/-- A predicate is the same whether it is asked for in the conversation that some calls tell of, or
in none because they began none. -/
theorem bind_predicate?_story? (id : Text) (limit : Nat) (told : List Call) (name : Text) :
    ((story? id limit told).bind fun s => s.predicate? name) = lastSet? name told := by
  have hstory : (story id limit told).predicate? name = lastSet? name told :=
    Dict.find?_ofList _ name
  rw [story?]
  split
  · exact hstory
  · rename_i hbegins
    rw [story_eq_new limit (Bool.eq_false_iff.mpr hbegins)] at hstory
    exact hstory

/-- A store that has the conversations that calls tell of answers by them. -/
theorem Recalls.tells (h : ss.Recalls fallback limit cs) (id : Text) :
    ss.Tells fallback limit id (lately id cs) where
  begun := by
    rw [h.get?_eq, Option.isSome_iff_exists]
    simp [story?_eq_some_iff]
  get := by rw [Sessions.serve, h.get?_eq]
  snapshot := by rw [Sessions.serve, h.get?_eq]
  predicate name := by
    rw [Sessions.serve, Sessions.predicate, h.get?_eq, bind_predicate?_story?, h.default_eq]
  topic := by
    rw [Sessions.serve, Sessions.topic, h.get?_eq, ← bind_predicate?_story? id limit]
    cases story? id limit (lately id cs) <;> rfl
  getOrNew := by rw [Sessions.serve, h.getOrNew_eq]
  remove := by
    show Outcome.removed (ss.get? id).isSome = _
    rw [h.get?_eq, story?]
    split <;> simp_all
  session s hs := by
    rw [h.get?_eq] at hs
    obtain ⟨-, rfl⟩ := story?_eq_some_iff.mp hs
    exact ⟨rfl, rfl, fun name => Dict.find?_ofList _ name, rfl, Session.turn?_eq _⟩

/-- **A store is a map of conversations.** After any calls to a store that was empty, what comes of
the next call about a conversation is told by the calls about this one since it was last forgotten;
calls that only look leave all as it is; and exactly those ids are listed, in order and without
repetition, and counted, of which one of these calls began the conversation. -/
theorem run_serve_tells (fallback : Text) (limit : Nat) (cs : List Call) :
    let ss := (Machine.run Sessions.serve { default := fallback, limit := limit } cs).2
    (∀ id, ss.Tells fallback limit id (lately id cs)) ∧
      (∀ c : Call, c.looks → (ss.serve c).2 = ss) ∧
      ss.serve .default = (.value fallback, ss) ∧
      ss.serve .ids = (.listed ss.ids, ss) ∧
      ss.ids.Pairwise (· < ·) ∧
      (∀ id, id ∈ ss.ids ↔ ∃ c ∈ lately id cs, c.begins) ∧
      ss.serve .size = (.counted ss.ids.length, ss) ∧
      ss.serve .isEmpty = (.answered ss.ids.isEmpty, ss) := by
  intro ss
  have hrecalls : ss.Recalls fallback limit cs := (Recalls.empty fallback limit).run cs
  refine ⟨hrecalls.tells, fun c hlooks => serve_of_looks hlooks, ?_, rfl, ?_, fun id => ?_, ?_, ?_⟩
  · rw [Sessions.serve, hrecalls.default_eq]
  · exact List.pairwise_map.mpr ss.byId.sorted
  · rw [ids, Dict.mem_keys_iff]
    exact (hrecalls.tells id).begun
  · rw [ids, Dict.keys, List.length_map]
    rfl
  · rw [ids, Dict.keys, List.isEmpty_map]
    rfl

end Sessions

end Colloquy
