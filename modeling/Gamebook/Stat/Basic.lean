/-
This file names the nine stats of a playthrough and the texts that stand for them.
A stat is written by its key in content files and by its name to players.
-/

import Gamebook.Text.Fold
import Gamebook.Text.Blank

namespace Gamebook

/-- These are all the numbers that content can read or change. -/
inductive Stat where
  | population
  | food
  | gold
  | strength
  | honor
  | feats
  | maxStrength
  | maxHonor
  | maxFeats
  deriving DecidableEq

/-- The stats in the order in which they are listed. -/
def Stat.all : List Stat :=
  [.population, .food, .gold, .strength, .honor, .feats, .maxStrength, .maxHonor, .maxFeats]

def Stat.index : Stat → Fin 9
  | .population => 0
  | .food => 1
  | .gold => 2
  | .strength => 3
  | .honor => 4
  | .feats => 5
  | .maxStrength => 6
  | .maxHonor => 7
  | .maxFeats => 8

/-- The key stands for the stat in content files. -/
def Stat.key : Stat → String
  | .population => "population"
  | .food => "food"
  | .gold => "gold"
  | .strength => "strength"
  | .honor => "honor"
  | .feats => "feats"
  | .maxStrength => "max_strength"
  | .maxHonor => "max_honor"
  | .maxFeats => "max_feats"

/-- The name stands for the stat in texts for players. -/
def Stat.name : Stat → String
  | .population => "Population"
  | .food => "Food"
  | .gold => "Gold"
  | .strength => "Strength"
  | .honor => "Honor"
  | .feats => "Feats"
  | .maxStrength => "MaxStrength"
  | .maxHonor => "MaxHonor"
  | .maxFeats => "MaxFeats"

/-- A key is looked up without its surrounding blanks and without regard to ASCII case. -/
def Stat.ofKey? (key : String) : Option Stat :=
  Stat.all.find? fun stat => Text.sameFolded stat.key (Text.trim key)

/-- The ceiling of a capped stat is the current value of another stat. -/
def Stat.ceiling? : Stat → Option Stat
  | .strength => some .maxStrength
  | .honor => some .maxHonor
  | .feats => some .maxFeats
  | _ => none

/-- This is the stat whose ceiling is the given one. -/
def Stat.capped? : Stat → Option Stat
  | .maxStrength => some .strength
  | .maxHonor => some .honor
  | .maxFeats => some .feats
  | _ => none

theorem Stat.mem_all (stat : Stat) : stat ∈ Stat.all := by
  cases stat <;> decide

theorem Stat.index_injective {left right : Stat} (same : left.index = right.index) :
    left = right := by
  cases left <;> cases right <;> simp [Stat.index] at same ⊢

theorem Stat.capped?_eq_some_iff {maximum stat : Stat} :
    maximum.capped? = some stat ↔ stat.ceiling? = some maximum := by
  cases maximum <;> cases stat <;> decide

end Gamebook
