/-
This file holds events that are ready to be played.
Their texts are rendered, their entries are read, and their options are in ascending order.
-/

import Gamebook.Vocabulary

namespace Gamebook

structure EventOption where
  displayText : String
  resolutionText : String
  order : Int32
  displayCost : Bool
  /-- All must hold for the option to be shown. -/
  conditions : List Condition
  /-- All must be payable for the option to be chosen. -/
  costs : List StatAmount
  effects : List Effect
  nextEvent : Option String
  deriving DecidableEq

def EventOption.costText (option : EventOption) : String :=
  String.intercalate ", " (option.costs.map StatAmount.text)

structure Event where
  id : String
  name : String
  description : String
  options : List EventOption
  deriving DecidableEq

def Event.option? (event : Event) (order : Int32) : Option EventOption :=
  event.options.find? fun option => option.order == order

end Gamebook
