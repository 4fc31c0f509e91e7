/-
This file turns authored definitions into content that can be played.
A definition that lacks its id is refused at once. All refused entries of a definition are
reported together, and only then are the orders of the options compared.
-/

import Gamebook.Binary32.Decimal
import Gamebook.Definition
import Gamebook.Entry
import Gamebook.Event
import Gamebook.Item
import Gamebook.Node.Basic
import Gamebook.Template

namespace Gamebook

/-- This is one refused part of a definition together with the place where it stands. -/
inductive Misentry where
  | inOption (event : String) (order : Int32) (error : EntryError)
  | inItem (item : String) (error : EntryError)
  | badWeight (node : String) (neighbour : String) (weight : Binary32)
  deriving DecidableEq

def Misentry.message : Misentry → String
  | .inOption event order error =>
      s!"Event '{event}' option {order.toInt}: {error.message}"
  | .inItem item error => s!"Item '{item}': {error.message}"
  | .badWeight node neighbour weight =>
      s!"Node '{node}': bad weight {weight.text} for neighbour '{neighbour}' in PossibleNeighbours. Weights must be zero or more."

/-- These are the reasons for which a definition is refused. -/
inductive CompileError where
  | missingEventId
  | missingItemId
  | missingNodeKind
  | duplicateOrder (event : String) (order : Int32)
  | invalidEntries (owner : String) (misentries : List Misentry)
  deriving DecidableEq

def CompileError.message : CompileError → String
  | .missingEventId => "Event Id is required."
  | .missingItemId => "Item Id is required."
  | .missingNodeKind => "Node Kind is required."
  | .duplicateOrder event order =>
      s!"Event '{event}' has duplicate option Order={order.toInt}."
  | .invalidEntries _ misentries =>
      String.intercalate "\n" (misentries.map Misentry.message)

/-- The three lists of an option are all read before any of them is refused. -/
def OptionDefinition.compile (definition : OptionDefinition) (context : TemplateContext) :
    Except (List EntryError) EventOption :=
  let conditions := readConditions "Conditions" definition.conditions
  let costs := readCosts "Costs" definition.costs
  let effects := readEffects "Effects" definition.effects
  match conditions, costs, effects with
  | .ok conditions, .ok costs, .ok effects =>
      .ok {
        displayText := context.render definition.displayText
        resolutionText := context.render definition.resolutionText
        order := definition.order
        displayCost := definition.displayCost
        conditions := conditions
        costs := costs
        effects := effects
        nextEvent := Text.trimmed? definition.nextEvent }
  | _, _, _ => .error (failures conditions ++ failures costs ++ failures effects)

/-- Options keep their authored order as long as their numbers agree. -/
def sortOptions (options : List EventOption) : List EventOption :=
  options.mergeSort fun left right => decide (left.order ≤ right.order)

/-- In a sorted list this is the least order that two options share. -/
def sharedOrder? : List EventOption → Option Int32
  | first :: second :: rest =>
      if first.order = second.order then some first.order else sharedOrder? (second :: rest)
  | _ => none

def EventDefinition.compile (definition : EventDefinition) (context : TemplateContext) :
    Except CompileError Event :=
  match Text.trimmed? definition.id with
  | none => .error .missingEventId
  | some id =>
      let compiled := definition.options.map fun option =>
        (option.compile context).mapError fun errors =>
          errors.map (Misentry.inOption id option.order)
      match gather compiled with
      | .error misentries => .error (.invalidEntries id misentries.flatten)
      | .ok options =>
          match sharedOrder? (sortOptions options) with
          | some order => .error (.duplicateOrder id order)
          | none =>
              .ok {
                id := id
                name := context.render definition.name
                description := context.render definition.description
                options := sortOptions options }

/-- The texts of an item are not rendered. -/
def ItemDefinition.compile (definition : ItemDefinition) : Except CompileError Item :=
  match Text.trimmed? definition.id with
  | none => .error .missingItemId
  | some id =>
      let onUse := readEffects "EffectsOnUse" definition.onUse
      let onEquip := readEffects "EffectsOnEquip" definition.onEquip
      let onUnequip := readEffects "EffectsOnUnequip" definition.onUnequip
      match onUse, onEquip, onUnequip with
      | .ok onUse, .ok onEquip, .ok onUnequip =>
          .ok {
            id := id
            name := definition.name
            description := definition.description
            art := definition.art
            isCursed := definition.isCursed
            charges :=
              if 0 ≤ definition.charges.toInt then some definition.charges.toInt.toNat else none
            onUse := onUse
            onEquip := onEquip
            onUnequip := onUnequip }
      | _, _, _ =>
          .error (.invalidEntries id
            ((failures onUse ++ failures onEquip ++ failures onUnequip).map (Misentry.inItem id)))

/-- A weight must be a finite number that is not below zero. -/
def isUsableWeight (weight : Binary32) : Bool :=
  weight.isFinite && weight.isNonnegative

/-- The texts of a node are not rendered. The kinds of its neighbours are trimmed one by one. -/
def NodeDefinition.compile (definition : NodeDefinition) : Except CompileError Node :=
  match Text.trimmed? definition.kind with
  | none => .error .missingNodeKind
  | some kind =>
      match definition.neighbours.entries.filter fun entry => !isUsableWeight entry.2 with
      | [] =>
          .ok {
            kind := kind
            name := definition.name
            description := definition.description
            art := definition.art
            neighbours :=
              Neighbours.ofList
                (definition.neighbours.entries.map fun entry => (Text.trim entry.1, entry.2))
            forcedEvent := Text.trimmed? definition.forcedEvent
            pool := definition.pool.filterMap Text.trimmed? }
      | refused =>
          .error (.invalidEntries kind
            (refused.map fun entry => .badWeight kind entry.1 entry.2))

end Gamebook
