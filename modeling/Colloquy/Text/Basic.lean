import Colloquy.Unicode.Blank

/-!
# Texts

A text is the list of its characters, the form on which every rule about texts is stated. This
module cuts texts up and puts them together again: splitting at characters of a class, the words of
a text, trimming, and runs of white space.
-/

namespace Colloquy

open Unicode

/-- A text is the list of its characters. -/
abbrev Text := List Char

namespace Text

/-! ## Splitting -/

/-- Put a character in front of the first of several parts. -/
def consHead (c : Char) : List Text → List Text
  | [] => [[c]]
  | part :: parts => (c :: part) :: parts

/-- The parts between the characters of a class. A text with `n` such characters has `n + 1` parts,
some of which may be empty. -/
def splitWhere (p : Char → Bool) (t : Text) : List Text :=
  t.foldr (fun c parts => if p c then [] :: parts else consHead c parts) [[]]

/-- The non-empty parts between the characters of a class. -/
def pieces (p : Char → Bool) (t : Text) : List Text :=
  (splitWhere p t).filter (· ≠ [])

/-- The words of a text: what stands between white space. -/
def words (t : Text) : List Text :=
  t.pieces isBlank

/-- Words written one after the other with a single space between them. -/
def unwords (ws : List Text) : Text :=
  List.intercalate [' '] ws

/-! ## Trimming -/

/-- A text without the white space it begins with. -/
def trimStart (t : Text) : Text :=
  t.dropWhile isBlank

/-- A text without the white space it ends with. -/
def trimEnd (t : Text) : Text :=
  (t.reverse.dropWhile isBlank).reverse

/-- A text without the white space at its two ends. -/
def trim (t : Text) : Text :=
  t.trimStart.trimEnd

/-- Nothing but white space. -/
def isBlankText (t : Text) : Bool :=
  t.all isBlank

/-- Every run of white space becomes one space. Read from the end, white space before what was
already written as a space adds nothing. -/
def collapse (t : Text) : Text :=
  t.foldr (fun c rest => if !isBlank c then c :: rest
    else if rest.head? = some ' ' then rest else ' ' :: rest) []

/-! ## Small laws -/

@[simp] theorem splitWhere_nil (p : Char → Bool) : splitWhere p [] = [[]] := rfl

theorem splitWhere_cons (p : Char → Bool) (c : Char) (cs : Text) :
    splitWhere p (c :: cs) =
      if p c then [] :: splitWhere p cs else consHead c (splitWhere p cs) := rfl

theorem consHead_ne_nil (c : Char) (parts : List Text) : consHead c parts ≠ [] := by
  cases parts <;> simp [consHead]

theorem splitWhere_ne_nil (p : Char → Bool) (t : Text) : splitWhere p t ≠ [] := by
  cases t with
  | nil => simp
  | cons c cs =>
    rw [splitWhere_cons]
    split
    · simp
    · exact consHead_ne_nil c _

theorem ne_nil_of_mem_pieces {p : Char → Bool} {t part : Text} (h : part ∈ t.pieces p) :
    part ≠ [] := by
  simpa using (List.mem_filter.mp h).2

theorem ne_nil_of_mem_words {t w : Text} (h : w ∈ t.words) : w ≠ [] :=
  ne_nil_of_mem_pieces h

end Text

end Colloquy
