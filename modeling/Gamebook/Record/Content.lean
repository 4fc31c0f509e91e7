/-
This file says how events, items and nodes are written in the record notation.
The fields stand in the order in which a missing one is noticed.
-/

import Gamebook.Definition
import Gamebook.Record.Group

namespace Gamebook.Record

def texts : Reader (List String) := list text

def optionFields : List (Field OptionDefinition) :=
  [.required "DisplayText" text fun value option => { option with displayText := value },
   .required "ResolutionText" text fun value option => { option with resolutionText := value },
   .required "Order" whole fun value option => { option with order := value },
   .optional "Conditions" texts fun value option => { option with conditions := value },
   .optional "Costs" texts fun value option => { option with costs := value },
   .optional "DisplayCost" flag fun value option => { option with displayCost := value },
   .optional "Effects" texts fun value option => { option with effects := value },
   .optional "NextEventId" text fun value option => { option with nextEvent := value }]

def option : Reader OptionDefinition :=
  record "GameEventOptionDefinition" optionFields ⟨"", "", 0, [], [], false, [], ""⟩

def eventFields : List (Field EventDefinition) :=
  [.required "Id" text fun value event => { event with id := value },
   .required "Name" text fun value event => { event with name := value },
   .required "Description" text fun value event => { event with description := value },
   .optional "Options" (list option) fun value event => { event with options := value }]

def event : Reader EventDefinition :=
  record "Event" eventFields ⟨"", "", "", []⟩

def itemFields : List (Field ItemDefinition) :=
  [.required "Id" text fun value item => { item with id := value },
   .required "Name" text fun value item => { item with name := value },
   .required "Description" text fun value item => { item with description := value },
   .optional "Art" text fun value item => { item with art := value },
   .optional "IsCursed" flag fun value item => { item with isCursed := value },
   .optional "ConsumableCharges" whole fun value item => { item with charges := value },
   .optional "EffectsOnUse" texts fun value item => { item with onUse := value },
   .optional "EffectsOnEquip" texts fun value item => { item with onEquip := value },
   .optional "EffectsOnUnequip" texts fun value item => { item with onUnequip := value }]

def item : Reader ItemDefinition :=
  record "Item" itemFields { id := "", name := "", description := "" }

def nodeFields : List (Field NodeDefinition) :=
  [.required "Kind" text fun value node => { node with kind := value },
   .required "Name" text fun value node => { node with name := value },
   .required "Description" text fun value node => { node with description := value },
   .optional "PossibleNeighbours" weights fun value node => { node with neighbours := value },
   .optional "ForcedFirstEvent" text fun value node => { node with forcedEvent := value },
   .optional "EventsPool" texts fun value node => { node with pool := value },
   .optional "Art" text fun value node => { node with art := value }]

def node : Reader NodeDefinition :=
  record "Node" nodeFields { kind := "", name := "", description := "" }

end Gamebook.Record
