/-
This file holds items that are ready to be carried.
-/

import Gamebook.Vocabulary

namespace Gamebook

structure Item where
  id : String
  name : String
  description : String
  art : String
  /-- A cursed item cannot be taken off. -/
  isCursed : Bool
  /-- An item without a number of charges is never used up. -/
  charges : Option Nat
  onUse : List Effect
  onEquip : List Effect
  onUnequip : List Effect
  deriving DecidableEq

def Item.isConsumable (item : Item) : Bool :=
  item.charges.isSome

/-- These are all effects that the item can ever have. -/
def Item.effects (item : Item) : List Effect :=
  item.onUse ++ item.onEquip ++ item.onUnequip

end Gamebook
