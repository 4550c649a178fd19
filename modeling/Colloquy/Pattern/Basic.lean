import Colloquy.Text.Casing

/-!
# Patterns

A pattern describes inputs word by word. It is written as words with white space between them:

* a word of letters and digits stands for itself, in any letter case;
* `BOT_NAME` stands for the name of the bot;
* `*` or `_` stands for one or more words;
* `^` or `#` stands for any number of words, none included.
-/

namespace Colloquy

open Unicode

/-- One place of a pattern. -/
inductive Slot where
  /-- A word, in upper case. -/
  | word (form : Text)
  /-- The name of the bot. -/
  | botName
  /-- A wildcard for at least one word. -/
  | oneOrMore
  /-- A wildcard for any number of words. -/
  | zeroOrMore
  deriving DecidableEq, Repr

namespace Slot

/-- How the place for the name of the bot is written. -/
def botNameText : Text := "BOT_NAME".toList

/-- The two wildcards. -/
def isWildcard : Slot → Bool
  | .oneOrMore | .zeroOrMore => true
  | .word _ | .botName => false

/-- A slot as it is written. -/
def text : Slot → Text
  | .word form => form
  | .botName => botNameText
  | .oneOrMore => ['*']
  | .zeroOrMore => ['^']

/-- The slot that a word of a pattern writes. -/
def ofWord? (w : Text) : Option Slot :=
  if w = ['*'] ∨ w = ['_'] then some .oneOrMore
  else if w = ['^'] ∨ w = ['#'] then some .zeroOrMore
  else if w = botNameText then some .botName
  else if w.all isAlphanumeric then some (.word w.upper)
  else none

end Slot

/-- A pattern is the list of its slots. -/
abbrev Pattern := List Slot

/-- A word in the text of a pattern that writes no slot. -/
structure Unreadable where
  pattern : Text
  word : Text
  deriving DecidableEq, Repr

/-- How a pattern that does not follow the rules is reported. -/
def invalidPattern (pattern reason : Text) : Text :=
  "invalid pattern '".toList ++ pattern ++ "': ".toList ++ reason

/-- What is reported for the text of a pattern with a word that writes no slot. -/
def Unreadable.message (e : Unreadable) : Text :=
  invalidPattern e.pattern ("'".toList ++ e.word ++ "' is neither a word nor a wildcard".toList)

namespace Pattern

/-- The pattern that a text writes. The first word that writes no slot is reported. -/
def read (t : Text) : Except Unreadable Pattern :=
  t.words.mapM fun w =>
    match Slot.ofWord? w with
    | some s => .ok s
    | none => .error ⟨t, w⟩

/-- A pattern as it is written: its slots with single spaces between them. -/
def text (p : Pattern) : Text :=
  Text.unwords (p.map Slot.text)

/-- The pattern of any input that has a word. -/
def anything : Pattern := [.oneOrMore]

/-- The number of wildcards. -/
def numWildcards (p : Pattern) : Nat :=
  p.countP Slot.isWildcard

/-- Two wildcards in a row. -/
def hasWildcardPair (p : Pattern) : Bool :=
  (p.zip p.tail).any fun pair => pair.1.isWildcard && pair.2.isWildcard

/-- The pattern, or `anything` in the place of an empty one. -/
def orAnything (p : Pattern) : Pattern :=
  if p = [] then anything else p

end Pattern

end Colloquy
