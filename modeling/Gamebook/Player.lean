/-
This file holds the hero and the titles that a hero can be born into.
-/

import Gamebook.Inventory
import Gamebook.Random.Choice
import Gamebook.Template
import Gamebook.Text.Blank

namespace Gamebook

/-- A starting title comes with a settlement. -/
structure StartingTitle where
  name : String
  population : UInt32
  food : UInt32
  gold : UInt32
  strength : UInt32
  honor : UInt32
  feats : UInt32 := 0
  deriving DecidableEq

namespace StartingTitle

def first : StartingTitle := ⟨"the Ironborn", 24, 18, 8, 9, 6, 0⟩

def all : List StartingTitle :=
  [first,
   ⟨"the Oathkeeper", 28, 16, 7, 6, 9, 0⟩,
   ⟨"the Sea Wolf", 21, 22, 9, 7, 6, 0⟩,
   ⟨"the Stormforged", 26, 17, 8, 10, 5, 0⟩,
   ⟨"the Hearth-Blessed", 35, 20, 5, 5, 8, 0⟩,
   ⟨"the Boneless", 18, 10, 4, 2, 3, 0⟩,
   ⟨"the Oathbreaker", 20, 12, 12, 5, 2, 0⟩,
   ⟨"the Starved", 17, 6, 9, 4, 4, 0⟩,
   ⟨"the Coward", 19, 14, 6, 3, 3, 0⟩,
   ⟨"the Ragged", 16, 9, 3, 4, 5, 0⟩]

/-- A hero can hold this many feats before content raises the limit. -/
def maxFeats : UInt32 := 3

/-- Strength and honor start at their ceilings. -/
def stats (title : StartingTitle) : Stats :=
  Stats.ofList
    [(.population, title.population), (.food, title.food), (.gold, title.gold),
     (.strength, title.strength), (.maxStrength, title.strength),
     (.honor, title.honor), (.maxHonor, title.honor),
     (.feats, title.feats), (.maxFeats, maxFeats)]

def roll (source : RandomSource) : StartingTitle × RandomSource :=
  match source.choose all with
  | (some title, rest) => (title, rest)
  | (none, rest) => (first, rest)

end StartingTitle

structure Player where
  name : String
  birth : Birth
  title : String
  stats : Stats
  inventory : Inventory := Inventory.empty
  deriving DecidableEq

namespace Player

/-- A hero whose name is blank is nameless. -/
def ofPrologue (name : String) (birth : Birth) (title : StartingTitle) : Player where
  name := (Text.trimmed? name).getD "Nameless"
  birth := birth
  title := title.name
  stats := title.stats

def templateContext (player : Player) : TemplateContext :=
  ⟨player.birth, player.name, player.title⟩

end Player

end Gamebook
