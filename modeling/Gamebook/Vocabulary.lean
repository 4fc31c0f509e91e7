/-
This file holds the words in which content speaks about the hero:
conditions that gate an option and effects that follow from it.
-/

import Gamebook.Stat.Values

namespace Gamebook

inductive Condition where
  /-- The stat must be at least the amount. -/
  | threshold (stat : Stat) (minimum : UInt32)
  /-- An item with this id must be carried. -/
  | hasItem (item : String)
  /-- The title of the hero must be exactly this one. -/
  | hasTitle (title : String)
  /-- The hero must stand at a node of this kind. -/
  | atNode (kind : String)
  deriving DecidableEq

inductive Effect where
  /-- The stat is gained, or lost when the amount is negative. -/
  | statChange (stat : Stat) (amount : Int32)
  /-- The item with this id goes into the first free slot. -/
  | grantItem (item : String)
  | changeTitle (title : String)
  /-- The event with this id is asked for as the next one. -/
  | triggerEvent (event : String)
  deriving DecidableEq

/-- This says whether the effect reads as good news. -/
def Effect.isPositive : Effect → Bool
  | .statChange _ amount => decide (0 ≤ amount.toInt)
  | _ => true

/-- These are the ids of the items that the effects grant by themselves. -/
def grantedItems (effects : List Effect) : List String :=
  effects.filterMap fun
    | .grantItem item => some item
    | _ => none

/-- These are the ids of the events that the effects ask for by themselves. -/
def triggeredEvents (effects : List Effect) : List String :=
  effects.filterMap fun
    | .triggerEvent event => some event
    | _ => none

end Gamebook
