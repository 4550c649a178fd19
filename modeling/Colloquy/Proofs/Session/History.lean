import Colloquy.Document.Session
import Mathlib.Data.List.DropRight

/-!
# The history of a conversation

A conversation remembers its last turns, and no more of them than its limit. A conversation in which
every turn was recorded keeps to this by itself. One that is read from a document may come with more
turns than its limit allows: with the next turn these are cut back to the limit, unless the limit is
zero.

* `Session.history_record_eq_rtake` — recording a turn leaves the last turns.
* `Session.turn?_eq` — the turns by their numbers, counted from the end.
* `Session.Remembers` — a conversation remembers the last of some turns.
* `Session.record_keeps_limit_iff` — which conversations keep to their limit with the next turn.
-/

namespace Colloquy

/-- Of the last things and one more, the last are those of all things and one more. -/
theorem rtake_rtake_concat {β : Type} (xs : List β) (x : β) (n : Nat) :
    (xs.rtake n ++ [x]).rtake n = (xs ++ [x]).rtake n := by
  cases n with
  | zero => rw [List.rtake_zero, List.rtake_zero]
  | succ n =>
    have hlast : (xs.rtake (n + 1)).rtake n = xs.rtake n := by
      simp only [List.rtake_eq_reverse_take_reverse, List.reverse_reverse, List.take_take]
      rw [Nat.min_eq_left (Nat.le_succ n)]
    rw [List.rtake_concat_succ, List.rtake_concat_succ, hlast]

namespace Session

/-- With a limit above zero the last turns are kept, however many there were before. -/
theorem history_record_eq_rtake {s : Session} (h : s.limit ≠ 0) (e : Turn) :
    (s.record e).history = (s.history ++ [e]).rtake s.limit := by
  rw [history_record h, List.rtake, List.length_append, List.length_singleton]

/-- With a limit of zero nothing is recorded. -/
theorem record_eq_self {s : Session} (h : s.limit = 0) (e : Turn) : s.record e = s :=
  if_pos h

/-- The turn with the number `n` is the `n`-th from the end of the history. -/
theorem turn?_eq (s : Session) (n : Nat) :
    s.turn? n =
      if 1 ≤ n ∧ n ≤ s.history.length then s.history[s.history.length - n]? else none := by
  cases n with
  | zero => rfl
  | succ n =>
    rw [turn?]
    by_cases hn : n < s.history.length
    · rw [if_pos ⟨Nat.succ_pos n, hn⟩, List.getElem?_reverse hn, Nat.sub_sub, Nat.add_comm 1 n]
    · rw [if_neg fun h => hn h.2, List.getElem?_eq_none]
      rw [List.length_reverse]
      exact Nat.not_lt.mp hn

/-! ## Turns that are remembered -/

/-- A conversation remembers the last of some turns, as many as its limit allows. -/
structure Remembers (s : Session) (told : List Turn) (limit : Nat) : Prop where
  history : s.history = told.rtake limit
  limit : s.limit = limit

namespace Remembers

variable {s : Session} {told : List Turn} {limit : Nat}

theorem new (id : Text) (limit : Nat) : (Session.new id limit).Remembers [] limit :=
  ⟨(List.rtake_nil limit).symm, rfl⟩

theorem setPredicate (h : s.Remembers told limit) (name value : Text) :
    (s.setPredicate name value).Remembers told limit :=
  ⟨h.history, h.limit⟩

/-- One more turn makes room for itself. -/
theorem record (h : s.Remembers told limit) (e : Turn) :
    (s.record e).Remembers (told ++ [e]) limit := by
  refine ⟨?_, by rw [limit_record, h.limit]⟩
  by_cases hlimit : s.limit = 0
  · rw [record_eq_self hlimit, h.history, ← h.limit, hlimit, List.rtake_zero, List.rtake_zero]
  · rw [history_record_eq_rtake hlimit, h.history, h.limit, rtake_rtake_concat]

/-- The turns that are remembered are found by their numbers. -/
theorem turn?_succ (h : s.Remembers told limit) (n : Nat) :
    s.turn? (n + 1) = (told.reverse.take limit)[n]? := by
  rw [turn?, h.history, List.rtake_eq_reverse_take_reverse, List.reverse_reverse]

theorem input?_succ (h : s.Remembers told limit) (n : Nat) :
    s.input? (n + 1) = ((told.reverse.take limit)[n]?).map Turn.input := by
  rw [input?, h.turn?_succ]

theorem reply?_succ (h : s.Remembers told limit) (n : Nat) :
    s.reply? (n + 1) = ((told.reverse.take limit)[n]?).map Turn.reply := by
  rw [reply?, h.turn?_succ]

end Remembers

/-! ## Conversations that come with too many turns -/

/-- **Recording a turn brings the history back to its limit, unless that is zero.** In any
conversation, however it came about, the history that is left is the end of the one before and the
new turn, as long as the limit allows, if the limit is above zero or there was no history; and these
are the only conversations that keep to their limit. With a limit of zero a conversation stays as it
is. All else in it is as before. -/
theorem record_keeps_limit_iff (s : Session) (e : Turn) :
    ((s.record e).history = (s.history ++ [e]).rtake s.limit ↔ s.limit ≠ 0 ∨ s.history = []) ∧
      ((s.record e).history.length ≤ s.limit ↔ s.limit ≠ 0 ∨ s.history = []) ∧
      (s.limit = 0 → s.record e = s) ∧
      (s.record e).id = s.id ∧ (s.record e).predicates = s.predicates ∧
      (s.record e).limit = s.limit := by
  refine ⟨?_, ?_, fun h => record_eq_self h e, id_record s e, predicates_record s e,
    limit_record s e⟩
  · by_cases hlimit : s.limit = 0
    · rw [record_eq_self hlimit, hlimit, List.rtake_zero]
      simp
    · simp [hlimit, history_record_eq_rtake hlimit]
  · by_cases hlimit : s.limit = 0
    · rw [record_eq_self hlimit, hlimit, Nat.le_zero, List.length_eq_zero_iff]
      simp
    · have hlast : ((s.history ++ [e]).rtake s.limit).length ≤ s.limit := by
        rw [List.rtake, List.length_drop]
        omega
      rw [history_record_eq_rtake hlimit]
      simp [hlimit, hlast]

/-- A turn that was recorded, and one that is recorded next. -/
def greeting : Turn := ⟨"hi".toList, "hello".toList⟩

def goodbye : Turn := ⟨"bye".toList, "so long".toList⟩

/-- A document with a conversation that has a turn, though its limit is zero. -/
def overfull : Json :=
  .record [("id", .ofString "s1"), ("predicates", .obj []),
    ("history", .ofList Turn.toJson [greeting]), ("history_limit", .ofNat 0)]

/-- The turn stays in that conversation when the next is recorded, and the next is not. -/
theorem record_overfull :
    ∃ s, Session.ofJson? overfull = some s ∧ s.limit = 0 ∧ (s.record goodbye).history = [greeting] ∧
      (s.record goodbye).history ≠ (s.history ++ [goodbye]).rtake s.limit := by
  refine ⟨⟨"s1".toList, ∅, [greeting], 0⟩, ?_, rfl, rfl, ?_⟩
  · rfl
  · exact List.cons_ne_nil greeting []

end Session

end Colloquy
