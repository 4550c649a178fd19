import Colloquy.Calendar
import Colloquy.Phrasebook.Reading
import Colloquy.Random.Tape
import Colloquy.Session.Basic
import Colloquy.Template.Basic
import Colloquy.Trie.Search

/-!
# Rendering: what is given and what is changed

A rendering is given its surroundings, which it does not change, and it changes a state: the
conversation, how much of the tape of random words was read, and the notices about it.
-/

namespace Colloquy

/-! ## Notices -/

/-- Something worth knowing about an answer. -/
inductive Notice where
  /-- No rule matches the input. -/
  | noMatch (input : Text)
  /-- A reduction was nested more deeply than the limit allows. -/
  | recursionLimit (input : Text) (limit : Nat)
  /-- There were more reductions than the limit allows. -/
  | reductionLimit (input : Text) (limit : Nat)
  deriving DecidableEq, Repr

namespace Notice

/-- How a limit that was reached is told. -/
def limitLine (kind : String) (limit : Nat) (input : Text) : Text :=
  (kind ++ " limit of ").toList ++ (toString limit).toList ++
    " reached while reducing '".toList ++ input ++ "'".toList

/-- A notice in words. -/
def line : Notice → Text
  | .noMatch input => "no rule matched '".toList ++ input ++ "'".toList
  | .recursionLimit input limit => limitLine "recursion" limit input
  | .reductionLimit input limit => limitLine "reduction" limit input

end Notice

/-! ## What is given -/

/-- The limits and manners of rendering. -/
structure Manner where
  /-- How deeply reductions may be nested. -/
  recursionLimit : Nat := 50
  /-- How many reductions an answer may take. -/
  reductionLimit : Nat := 1000
  /-- What stands in the place of a reduction beyond a limit. -/
  fallback : Text := []
  /-- The value of predicates that were never set. -/
  defaultPredicate : Text := []
  /-- Whether setting a predicate also renders its value. -/
  setRendersValue : Bool := true
  version : Text := "Parley 0.1.0".toList
  deriving DecidableEq, Repr

/-- The properties of a bot. -/
abbrev Profile := Dict Text

namespace Profile

/-- The property that holds the name of a bot. -/
def nameKey : Text := "name".toList

/-- The properties of a bot of which nothing is known. -/
def nameless : Profile := Dict.empty.insert nameKey "Nameless".toList

end Profile

/-- What a rendering is given. -/
structure Surroundings where
  trie : Trie Template
  books : Phrasebooks
  profile : Profile
  clock : Instant
  manner : Manner
  /-- The random words. -/
  tape : Tape

namespace Surroundings

/-- The words of the name of the bot; none if it has no name. -/
def botName (w : Surroundings) : List Word :=
  ((w.profile.find? Profile.nameKey).map w.books.normal.read).getD []

/-- The query for a text in a conversation: the last sentence of the latest reply is its context. -/
def query (w : Surroundings) (s : Session) (t : Text) : Query :=
  Query.ofWords (w.books.normal.read t) (w.books.normal.readLast s.lastReply)
    (w.books.normal.read s.topic)

end Surroundings

/-- What a template is rendered for: a query, and what the wildcards of its rule stand for. -/
structure Scene where
  query : Query
  bindings : Bindings

namespace Scene

/-- The text of a wildcard, empty if there is no such wildcard. -/
def wildcard (s : Scene) (segment : Segment) (index : Nat) : Text :=
  s.bindings.textOf s.query segment index

end Scene

/-! ## What is changed -/

/-- What a rendering has changed so far. -/
structure Rendering where
  session : Session
  /-- How many random words were read. -/
  drawn : Nat := 0
  /-- The sentence that is being answered. -/
  input : Text := []
  /-- How many reductions the answer took so far. -/
  reductions : Nat := 0
  /-- Whether notice was given that there were too many. -/
  exhausted : Bool := false
  /-- The notices, in order. -/
  notices : List Notice := []

/-- A part of a rendering, in which other things may be kept track of as well, by `m`. -/
abbrev RenderT (m : Type → Type) := StateT Rendering m

/-- A part of a rendering. -/
abbrev RenderM := RenderT Id

namespace RenderT

variable {m : Type → Type} [Monad m]

/-- What was changed so far. -/
def current : RenderT m Rendering := get

/-- The conversation. -/
def session : RenderT m Session := do
  return (← current).session

/-- Change the conversation. -/
def modifySession (f : Session → Session) : RenderT m Unit :=
  modify fun r => { r with session := f r.session }

/-- Give notice of something. -/
def note (n : Notice) : RenderT m Unit :=
  modify fun r => { r with notices := r.notices ++ [n] }

/-- Choose among `n` things with the next random words. -/
def choose (tape : Tape) (n : Nat) : RenderT m Nat :=
  modifyGet fun r =>
    let (i, drawn) := tape.choose n r.drawn
    (i, { r with drawn })

end RenderT

end Colloquy
