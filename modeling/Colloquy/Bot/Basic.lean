import Colloquy.Bot.Rule
import Colloquy.Bot.Settings
import Colloquy.Random.ChaCha
import Colloquy.Render.Answer
import Colloquy.Session.Store

/-!
# The bot

A bot learns rules and answers what is said to it, sentence by sentence, in any number of
conversations.
-/

namespace Colloquy

/-- A bot. -/
structure Bot where
  settings : Settings
  trie : Trie Template
  sessions : Sessions
  books : Phrasebooks
  profile : Profile
  clock : Instant
  /-- How many words of its own tape were read, each to begin a tape for one reply. -/
  drawn : Nat := 0

/-- A rule that was not learned, by its address. -/
structure Refusal where
  address : Address
  error : RuleError
  deriving DecidableEq, Repr

/-- What became of the rules of a batch. -/
structure Tally where
  added : Nat := 0
  replaced : Nat := 0
  /-- The rules that were not learned, in order. -/
  refused : List Refusal := []
  deriving DecidableEq, Repr

/-- What a bot says, and the notices about it. -/
structure Answer where
  text : Text
  notices : List Notice
  deriving DecidableEq, Repr

namespace Bot

/-- The conversation of those who do not say which one they mean. -/
def commonSession : Text := "_global".toList

/-- A bot that has learned nothing. -/
def new (settings : Settings) (books : Phrasebooks) (profile : Profile) (clock : Instant) : Bot :=
  { settings, books, profile, clock
    trie := Trie.empty settings.matchOptions
    sessions := { default := settings.defaultPredicate, limit := settings.historyLimit } }

/-! ## Learning -/

/-- Take in a rule whose template is well-formed. -/
def store (settings : Settings) (t : Trie Template) (r : Rule) :
    Except RuleError (Placement × Trie Template) := do
  r.template.check.mapError .template
  (t.insert r.address r.template settings.policy).mapError .address

/-- Take in a rule, and count what became of it. -/
def learnRule (settings : Settings) (s : Trie Template × Tally) (r : Rule) :
    Trie Template × Tally :=
  let (t, tally) := s
  match store settings t r with
  | .ok (.fresh _, t) => (t, { tally with added := tally.added + 1 })
  | .ok (.replacing _, t) => (t, { tally with replaced := tally.replaced + 1 })
  | .error e => (t, { tally with refused := tally.refused ++ [⟨r.address, e⟩] })

/-- Learn a batch of rules, one after the other. -/
def learn (b : Bot) (rules : List Rule) : Tally × Bot :=
  let (trie, tally) := rules.foldl (learnRule b.settings) (b.trie, {})
  (tally, { b with trie })

/-! ## Answering -/

/-- What the replies of a bot are rendered in. -/
def surroundings (b : Bot) (tape : Tape) : Surroundings :=
  { trie := b.trie, books := b.books, profile := b.profile, clock := b.clock
    manner := b.settings.manner, tape }

/-- What is answered one by one: the sentences of an input, or all of it if it has none. -/
def parts (input : Text) : List Text :=
  if input.sentences = [] then [input.trim] else input.sentences

/-- Answer a sentence and record the turn in the conversation. -/
def answerAndRecord (w : Surroundings) (sentence : Text) : RenderM Text := do
  let reply ← w.answer sentence
  RenderT.modifySession fun s => s.record ⟨sentence, reply⟩
  return reply

/-- The replies that are not empty, with two spaces between them. -/
def joinReplies (replies : List Text) : Text :=
  List.intercalate [' ', ' '] (replies.filter (· ≠ []))

/-- Answer an input in a conversation, with the random words of a tape from a position on. Also
gives the position after the words that were read. -/
def answerFrom (b : Bot) (tape : Tape) (start : Nat) (id input : Text) : Answer × Nat × Bot :=
  let w := b.surroundings tape
  let r : Rendering := { session := b.sessions.getOrNew id, drawn := start }
  let (replies, r) := ((parts input).mapM (answerAndRecord w)).run r
  (⟨joinReplies replies, r.notices⟩, r.drawn,
    { b with sessions := b.sessions.put id r.session })

/-- The tape from which a bot draws a seed for every answer. -/
def ownTape (b : Bot) : Tape :=
  ChaCha.tape (b.settings.seed?.getD 0)

/-- Answer an input in a conversation, with random words of its own. -/
def answer (b : Bot) (id input : Text) : Answer × Bot :=
  let tape := ChaCha.tape (b.ownTape.word b.drawn)
  let (answer, _, b) := { b with drawn := b.drawn + 1 }.answerFrom tape 0 id input
  (answer, b)

end Bot

end Colloquy
