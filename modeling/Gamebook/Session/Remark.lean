/-
This file holds what a session says to its player.
Each remark is a fact of the session, and its lines are the words for it.
-/

import Gamebook.Content.Basic
import Gamebook.Scene

namespace Gamebook

/-- An option is shown together with whether its costs can be paid. -/
structure ShownOption where
  option : EventOption
  isAffordable : Bool
  deriving DecidableEq

inductive Remark where
  | loaded (events items nodes : Nat)
  | hero (name title : String) (seed : UInt64)
  | noNode (kind : String)
  | arrived (kind : String)
  | nothingHappens
  | notAtNode
  | nowhereToGo (kind : String)
  | noEvent (id : String)
  | noEventInProgress
  | shown (name description : String) (options : List ShownOption)
  | noVisibleOption (order : Int32)
  | cannotAfford (cost : String)
  | refused (error : EvaluationError)
  | resolved (resolution : Resolution)
  | reloadRefused (error : LoadError)
  | storyEnds
  | eventEnds
  | autoNeedsPlace
  | stuck (event : String)
  | autoPicks (order : Int32)
  | stats (player : Player) (location : Option String)
  | inventory (carried : Inventory)
  | putAway (name : String)
  | emptySlot (slot : Nat)
  | reloaded (events items nodes : Nat)
  | kept (error : LoadError)
  | usage (command argument : String)
  | help
  | unknownCommand (word : String)
  | goodbye
  deriving DecidableEq

def ShownOption.line (shown : ShownOption) : String :=
  let option := shown.option
  let cost := if option.displayCost && !option.costs.isEmpty then s!" [{option.costText}]" else ""
  let locked := if shown.isAffordable then "" else " (cannot afford)"
  s!"  {option.order.toInt}. {option.displayText}{cost}{locked}"

def EffectLine.line (line : EffectLine) : String :=
  let mark := if line.isPositive then "+" else "-"
  s!"  {mark} {line.text}"

/-- The name of a stat is filled up to twelve characters. -/
def statLine (stats : Stats) (stat : Stat) : String :=
  let filled := String.ofList (stat.name.toList ++ List.replicate (12 - stat.name.length) ' ')
  s!"  {filled} {(stats.get stat).toNat}"

def slotLine (slot : Nat) : Option Item → String
  | none => s!"  {slot}: (empty)"
  | some item =>
      let charges := match item.charges with
        | some count => s!" ({count} uses left)"
        | none => ""
      let cursed := if item.isCursed then " [cursed]" else ""
      s!"  {slot}: {item.name}{charges}{cursed}"

def helpLines : List String :=
  ["Commands:",
   "  <n>             Choose option n of the current event",
   "  look            Show the current event again",
   "  event <id>      Start an event",
   "  node <kind>     Arrive at a node and fire its event",
   "  travel          Move to a neighbouring node",
   "  auto [steps]    Let the seeded rng choose for a while",
   "  stats           Show stats",
   "  inv             Show inventory",
   "  use <slot>      Use the item in a slot",
   "  unequip <slot>  Take off the item in a slot",
   "  reload          Reload content from disk",
   "  quit            Exit"]

def Remark.lines : Remark → List String
  | .loaded events items nodes => [s!"Loaded {events} events, {items} items, {nodes} nodes"]
  | .hero name title seed =>
      [s!"You are {name} {title}. Seed: {seed.toNat}", "Type 'help' for commands.", ""]
  | .noNode kind => [s!"No node of kind '{kind}'."]
  | .arrived kind => [s!"You arrive at {kind}."]
  | .nothingHappens => ["Nothing happens here."]
  | .notAtNode => ["You are not at any node. Use 'node <kind>' first."]
  | .nowhereToGo kind => [s!"There is nowhere to go from {kind}."]
  | .noEvent id => [s!"No event with id '{id}'."]
  | .noEventInProgress => ["No event in progress."]
  | .shown name description options =>
      ["", s!"=== {name} ===", description, ""] ++ options.map ShownOption.line ++ [""]
  | .noVisibleOption order => [s!"No visible option {order.toInt}."]
  | .cannotAfford cost => [s!"You cannot afford that: {cost}."]
  | .refused error => [s!"ERROR: {error.message}"]
  | .resolved resolution =>
      ["", resolution.text] ++ resolution.lines.map EffectLine.line ++ [""]
  | .reloadRefused error => [s!"ERROR: {error.message}"]
  | .storyEnds => ["Your saga ends here."]
  | .eventEnds => ["The event ends. Type 'travel' to move on."]
  | .autoNeedsPlace => ["Use 'node <kind>' or 'event <id>' before auto play."]
  | .stuck event => [s!"No affordable option; stuck at '{event}'."]
  | .autoPicks order => [s!"> auto picks {order.toInt}"]
  | .stats player location =>
      [s!"{player.name} {player.title}"] ++ Stat.all.map (statLine player.stats) ++
        location.toList.map fun kind => s!"  At: {kind}"
  | .inventory carried => carried.slots.toList.mapIdx slotLine
  | .putAway name => [s!"You put away {name}."]
  | .emptySlot slot => [s!"Slot {slot} is empty."]
  | .reloaded events items nodes =>
      [s!"Reloaded {events} events, {items} items, {nodes} nodes"]
  | .kept error => [s!"ERROR: {error.message}", "Keeping the previous content."]
  | .usage command argument => [s!"Usage: {command} <{argument}>"]
  | .help => helpLines
  | .unknownCommand word => [s!"Unknown command '{word}'. Type 'help' for commands."]
  | .goodbye => ["Goodbye."]

end Gamebook
