import Colloquy.Text.Basic

/-!
# Dictionaries

Values under texts, kept in the order of the texts, so that two dictionaries with the same values
are the same dictionary and a listing of one is always sorted. The order of texts is that of their
code points.

Main statements: `find?_insert`, `find?_erase`, and `ext_find?` (a dictionary is what it answers).
-/

namespace Colloquy

/-- Values under texts, in the order of the texts. -/
@[ext] structure Dict (β : Type) where
  entries : List (Text × β)
  sorted : entries.Pairwise fun a b => a.1 < b.1

namespace Dict

variable {β : Type}

/-! ## Sorted entries -/

/-- A value put at its place among sorted entries, instead of one that stood under the same text. -/
def insertEntry (k : Text) (v : β) : List (Text × β) → List (Text × β)
  | [] => [(k, v)]
  | (j, w) :: es =>
    if k < j then (k, v) :: (j, w) :: es
    else if k = j then (k, v) :: es
    else (j, w) :: insertEntry k v es

/-- The value of the first entry under a text. -/
def valueIn? (k : Text) : List (Text × β) → Option β
  | [] => none
  | (j, w) :: es => if k = j then some w else valueIn? k es

theorem mem_insertEntry {k : Text} {v : β} {e : Text × β} {es : List (Text × β)}
    (h : e ∈ insertEntry k v es) : e = (k, v) ∨ e ∈ es := by
  induction es with
  | nil => simpa [insertEntry] using h
  | cons d es ih =>
    obtain ⟨j, w⟩ := d
    rw [insertEntry] at h
    split at h
    · simpa using h
    · split at h
      · rcases List.mem_cons.mp h with h | h
        · exact .inl h
        · exact .inr (List.mem_cons_of_mem _ h)
      · rcases List.mem_cons.mp h with h | h
        · exact .inr (h ▸ List.mem_cons_self)
        · exact (ih h).imp_right (List.mem_cons_of_mem _)

theorem pairwise_insertEntry (k : Text) (v : β) {es : List (Text × β)}
    (h : es.Pairwise fun a b => a.1 < b.1) :
    (insertEntry k v es).Pairwise fun a b => a.1 < b.1 := by
  induction es with
  | nil => simp [insertEntry]
  | cons d es ih =>
    obtain ⟨j, w⟩ := d
    obtain ⟨hd, hes⟩ := List.pairwise_cons.mp h
    rw [insertEntry]
    split
    · rename_i hlt
      refine List.pairwise_cons.mpr ⟨fun e he => ?_, h⟩
      rcases List.mem_cons.mp he with rfl | he
      · exact hlt
      · exact List.lt_trans hlt (hd e he)
    · rename_i hge
      split
      · rename_i heq
        subst heq
        exact List.pairwise_cons.mpr ⟨hd, hes⟩
      · rename_i hne
        refine List.pairwise_cons.mpr ⟨fun e he => ?_, ih hes⟩
        rcases mem_insertEntry he with rfl | he
        · exact Std.lt_of_le_of_ne (Std.not_lt.mp hge) (Ne.symm hne)
        · exact hd e he

/-! ## Operations -/

/-- No values. -/
def empty : Dict β := ⟨[], .nil⟩

instance : EmptyCollection (Dict β) := ⟨empty⟩

/-- The value under a text. -/
def find? (d : Dict β) (k : Text) : Option β :=
  valueIn? k d.entries

/-- Put a value under a text, instead of the one that stood there. -/
def insert (d : Dict β) (k : Text) (v : β) : Dict β :=
  ⟨insertEntry k v d.entries, pairwise_insertEntry k v d.sorted⟩

/-- Take away the value under a text. -/
def erase (d : Dict β) (k : Text) : Dict β :=
  ⟨d.entries.filter fun e => e.1 ≠ k, d.sorted.filter _⟩

/-- The number of values. -/
def size (d : Dict β) : Nat := d.entries.length

/-- No values at all. -/
def isEmpty (d : Dict β) : Bool := d.entries.isEmpty

/-- The texts under which there are values, in order. -/
def keys (d : Dict β) : List Text := d.entries.map (·.1)

/-- Values put in one after the other: of two under one text the later stays. -/
def ofList (es : List (Text × β)) : Dict β :=
  es.foldl (fun d e => d.insert e.1 e.2) ∅

/-! ## The view through look-ups -/

@[simp] theorem find?_empty (k : Text) : (∅ : Dict β).find? k = none := rfl

/-- Where there are no values, none is found. -/
theorem find?_of_isEmpty {d : Dict β} (h : d.isEmpty = true) (k : Text) : d.find? k = none := by
  rw [find?, List.isEmpty_iff.mp h]
  rfl

theorem valueIn?_insertEntry (k : Text) (v : β) (es : List (Text × β)) (i : Text) :
    valueIn? i (insertEntry k v es) = if i = k then some v else valueIn? i es := by
  induction es with
  | nil => rfl
  | cons d es ih =>
    obtain ⟨j, w⟩ := d
    grind [insertEntry, valueIn?]

/-- A value put in is found under its text, and all others are found as before. -/
theorem find?_insert (d : Dict β) (k : Text) (v : β) (i : Text) :
    (d.insert k v).find? i = if i = k then some v else d.find? i :=
  valueIn?_insertEntry k v d.entries i

theorem valueIn?_filter_ne (k : Text) (es : List (Text × β)) (i : Text) :
    valueIn? i (es.filter fun e => e.1 ≠ k) = if i = k then none else valueIn? i es := by
  induction es with
  | nil => simp [valueIn?]
  | cons d es ih =>
    obtain ⟨j, w⟩ := d
    grind [valueIn?]

/-- What was taken away is found no more, and all others are found as before. -/
theorem find?_erase (d : Dict β) (k i : Text) :
    (d.erase k).find? i = if i = k then none else d.find? i :=
  valueIn?_filter_ne k d.entries i

theorem valueIn?_eq_none_of_lt {k : Text} {es : List (Text × β)} (h : ∀ e ∈ es, k < e.1) :
    valueIn? k es = none := by
  induction es with
  | nil => rfl
  | cons e es ih =>
    obtain ⟨j, w⟩ := e
    have hj : k ≠ j := Std.ne_of_lt (h (j, w) List.mem_cons_self)
    rw [valueIn?, if_neg hj]
    exact ih fun e he => h e (List.mem_cons_of_mem _ he)

theorem valueIn?_eq_some_iff {k : Text} {v : β} {es : List (Text × β)}
    (hes : es.Pairwise fun a b => a.1 < b.1) : valueIn? k es = some v ↔ (k, v) ∈ es := by
  induction es with
  | nil => simp [valueIn?]
  | cons e es ih =>
    obtain ⟨j, w⟩ := e
    obtain ⟨hj, hes⟩ := List.pairwise_cons.mp hes
    rw [valueIn?, List.mem_cons]
    split
    · rename_i hkj
      subst hkj
      have hnot : (k, v) ∉ es := fun hmem => List.lt_irrefl k (hj (k, v) hmem)
      simp [hnot, eq_comm]
    · rename_i hkj
      simp [ih hes, hkj]

/-- What is found under a text is its entry. -/
theorem find?_eq_some_iff {d : Dict β} {k : Text} {v : β} :
    d.find? k = some v ↔ (k, v) ∈ d.entries :=
  valueIn?_eq_some_iff d.sorted

theorem eq_of_valueIn?_eq {es fs : List (Text × β)} (hes : es.Pairwise fun a b => a.1 < b.1)
    (hfs : fs.Pairwise fun a b => a.1 < b.1) (h : ∀ k, valueIn? k es = valueIn? k fs) :
    es = fs := by
  induction es generalizing fs with
  | nil =>
    cases fs with
    | nil => rfl
    | cons f fs => simpa [valueIn?] using h f.1
  | cons e es ih =>
    obtain ⟨k, v⟩ := e
    obtain ⟨he, hes⟩ := List.pairwise_cons.mp hes
    cases fs with
    | nil => simpa [valueIn?] using h k
    | cons f fs =>
      obtain ⟨j, w⟩ := f
      obtain ⟨hf, htail⟩ := List.pairwise_cons.mp hfs
      have hkj : ¬ k < j := fun hlt => by
        have hnone : valueIn? k ((j, w) :: fs) = none :=
          valueIn?_eq_none_of_lt fun g hg => by
            rcases List.mem_cons.mp hg with rfl | hg
            · exact hlt
            · exact List.lt_trans hlt (hf g hg)
        have hk := h k
        rw [hnone] at hk
        simp [valueIn?] at hk
      have hjk : ¬ j < k := fun hlt => by
        have hnone : valueIn? j ((k, v) :: es) = none :=
          valueIn?_eq_none_of_lt fun g hg => by
            rcases List.mem_cons.mp hg with rfl | hg
            · exact hlt
            · exact List.lt_trans hlt (he g hg)
        have hj := h j
        rw [hnone] at hj
        simp [valueIn?] at hj
      obtain rfl : k = j := Std.le_antisymm (Std.not_lt.mp hjk) (Std.not_lt.mp hkj)
      obtain rfl : v = w := by simpa [valueIn?] using h k
      refine congrArg _ (ih hes htail fun i => ?_)
      by_cases hi : i = k
      · subst hi
        rw [valueIn?_eq_none_of_lt he, valueIn?_eq_none_of_lt hf]
      · simpa [valueIn?, hi] using h i

/-- Two dictionaries that answer alike are the same. -/
theorem ext_find? {d e : Dict β} (h : ∀ k, d.find? k = e.find? k) : d = e :=
  Dict.ext (eq_of_valueIn?_eq d.sorted e.sorted h)

/-- Of two values put under one text the later stays. -/
@[simp] theorem insert_insert (d : Dict β) (k : Text) (v w : β) :
    (d.insert k v).insert k w = d.insert k w := by
  refine ext_find? fun i => ?_
  simp only [find?_insert]
  split <;> rfl

instance [DecidableEq β] : DecidableEq (Dict β) := fun d e =>
  decidable_of_iff (d.entries = e.entries) Dict.ext_iff.symm

end Dict

end Colloquy
