/-
This file holds the kinds of locations on the map.
-/

import Gamebook.Node.Neighbours

namespace Gamebook

structure Node where
  kind : String
  name : String
  description : String
  art : String
  neighbours : Neighbours
  /-- A forced event fires in place of a pick from the pool. -/
  forcedEvent : Option String
  pool : List String
  deriving DecidableEq

/-- These are the ids of the events that content names for the node. -/
def Node.eventIds (node : Node) : List String :=
  node.forcedEvent.toList ++ node.pool

end Gamebook
