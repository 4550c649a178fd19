import Colloquy.Json.Decode
import Colloquy.Phrasebook.English

/-!
# Phrasebooks in documents

A phrasebook is an object of replacements by phrase. It is read in the order of the phrases, so that
of two phrases that are one and the same in lower case the greater counts.
-/

namespace Colloquy

namespace Phrasebook

/-- A phrasebook as it is written in a document. -/
def toJson (b : Phrasebook) : Json :=
  .obj (b.entries.entries.map fun e => (e.1, .str e.2))

/-- The phrasebook that a document writes. -/
def ofJson? (j : Json) : Option Phrasebook := do
  let pairs ← j.asTextPairs?
  (ofList (Dict.ofList pairs).entries).toOption

end Phrasebook

namespace Phrasebooks

/-- Four phrasebooks as they are written in a document. -/
def toJson (bs : Phrasebooks) : Json :=
  .record [("normal", bs.normal.toJson), ("person", bs.person.toJson),
    ("person2", bs.person2.toJson), ("gender", bs.gender.toJson)]

/-- The four phrasebooks that a document writes: one that is left out is the English one. -/
def ofJson? (j : Json) : Option Phrasebooks := do
  let fs ← j.fields? ["normal", "person", "person2", "gender"]
  let english := English.phrasebooks
  return {
    normal := ← fs.withDefault "normal" Phrasebook.ofJson? english.normal
    person := ← fs.withDefault "person" Phrasebook.ofJson? english.person
    person2 := ← fs.withDefault "person2" Phrasebook.ofJson? english.person2
    gender := ← fs.withDefault "gender" Phrasebook.ofJson? english.gender }

end Phrasebooks

end Colloquy
