import Colloquy.Bot.Calls
import Colloquy.Document.Bot
import Colloquy.Document.Phrasebook
import Colloquy.Document.Session
import Colloquy.Json.Writer
import Colloquy.Proofs.Bot.Conversations
import Colloquy.Proofs.Bot.Learning
import Colloquy.Proofs.Bot.Sentences
import Colloquy.Proofs.Bot.Transcript
import Colloquy.Proofs.Machine
import Colloquy.Proofs.Pattern.Writing
import Colloquy.Proofs.Render.Limits
import Colloquy.Proofs.Render.Notices
import Colloquy.Proofs.Render.Raising
import Colloquy.Proofs.Render.Relation
import Colloquy.Proofs.Render.Seeing
import Colloquy.Proofs.Text.Sentences
import Colloquy.Proofs.Text.Words
import Colloquy.Proofs.Trie.Addition
import Colloquy.Proofs.Trie.Backtracking
import Colloquy.Proofs.Trie.Derivation
import Colloquy.Proofs.Trie.Exploration
import Colloquy.Proofs.Trie.Growth
import Colloquy.Proofs.Trie.Ledger
import Colloquy.Proofs.Trie.Moves
import Colloquy.Proofs.Trie.Numbers
import Colloquy.Proofs.Trie.Preference
import Colloquy.Proofs.Trie.Sameness
import Colloquy.Proofs.Trie.Shape
import Colloquy.Proofs.Trie.Storage
import Colloquy.Proofs.Trie.Ways
import Colloquy.Proofs.Unicode.Capitals
import Colloquy.Proofs.Render.Effects
import Colloquy.Proofs.Bot.Batches
import Colloquy.Proofs.Bot.Relearning
import Colloquy.Proofs.Pattern.Authoring
import Colloquy.Proofs.Template.Writing
import Colloquy.Proofs.Render.Synonyms
import Colloquy.Proofs.Unicode.Smalls
import Colloquy.Proofs.Phrasebook.Phrases
import Colloquy.Proofs.Text.Runs
import Colloquy.Proofs.Phrasebook.Lookup
import Colloquy.Proofs.Phrasebook.Scanning
import Colloquy.Proofs.Phrasebook.Seams
import Colloquy.Proofs.Phrasebook.Segmenting
import Colloquy.Proofs.Text.Casing
import Colloquy.Proofs.Phrasebook.Swapping
import Colloquy.Proofs.Phrasebook.Passages
import Colloquy.Proofs.Phrasebook.Admission
import Colloquy.Proofs.Text.Joining
import Colloquy.Proofs.Phrasebook.Writing
import Colloquy.Proofs.Text.Collapsing
import Colloquy.Proofs.Phrasebook.Layout
import Colloquy.Proofs.Text.Ascii
import Colloquy.Proofs.Trie.Forms
import Colloquy.Proofs.Phrasebook.LetterCase
import Colloquy.Session.Calls
import Colloquy.Proofs.Session.History
import Colloquy.Proofs.Trie.Bindings
import Colloquy.Proofs.Session.Stories
import Colloquy.Proofs.Template.Checking
import Colloquy.Proofs.Trie.Absence
import Colloquy.Proofs.Trie.Visits
import Colloquy.Proofs.Text.Shapes
import Colloquy.Proofs.Trie.Stack
