/-
This file holds content as authors write it.
Nothing is checked here beyond the types of the fields, and every field that may be left out has
the value that stands for its absence.
-/

import Gamebook.Node.Neighbours

namespace Gamebook

/-- This is one selectable option inside an event file. -/
structure OptionDefinition where
  displayText : String
  resolutionText : String
  order : Int32
  conditions : List String := []
  costs : List String := []
  displayCost : Bool := false
  effects : List String := []
  /-- A blank id means that the option does not chain. -/
  nextEvent : String := ""
  deriving DecidableEq

structure EventDefinition where
  id : String
  name : String
  description : String
  options : List OptionDefinition := []
  deriving DecidableEq

structure ItemDefinition where
  id : String
  name : String
  description : String
  art : String := ""
  isCursed : Bool := false
  /-- A negative number of charges means that the item is never used up. -/
  charges : Int32 := -1
  onUse : List String := []
  onEquip : List String := []
  onUnequip : List String := []
  deriving DecidableEq

/-- This is one kind of location and the events that can fire there. -/
structure NodeDefinition where
  kind : String
  name : String
  description : String
  neighbours : Neighbours := Neighbours.empty
  /-- A blank id means that no event is forced. -/
  forcedEvent : String := ""
  pool : List String := []
  art : String := ""
  deriving DecidableEq

/-- These are the required texts of an event with the names of their fields. -/
def EventDefinition.requiredFields (definition : EventDefinition) : List (String × String) :=
  [("Id", definition.id), ("Name", definition.name), ("Description", definition.description)] ++
    definition.options.flatMap fun option =>
      [("DisplayText", option.displayText), ("ResolutionText", option.resolutionText)]

def ItemDefinition.requiredFields (definition : ItemDefinition) : List (String × String) :=
  [("Id", definition.id), ("Name", definition.name), ("Description", definition.description)]

def NodeDefinition.requiredFields (definition : NodeDefinition) : List (String × String) :=
  [("Kind", definition.kind), ("Name", definition.name), ("Description", definition.description)]

end Gamebook
