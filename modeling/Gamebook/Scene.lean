/-
This file plays options and items on the state of a hero.
Effects are settled one by one. The equip effects of an item that finds a slot come right after
its grant, and an item that finds none is dropped without effects.
Every function returns the state in which it stopped, also when it failed.
-/

import Gamebook.Catalog.Basic
import Gamebook.Player

namespace Gamebook

inductive EvaluationError where
  | notAffordable (order : Int32) (stat : Stat) (needed : UInt32) (available : UInt32)
  | unknownItem (item : String)
  | slotOutOfRange (slot : Nat)
  | cursedItem (item : String)
  deriving DecidableEq

def EvaluationError.message : EvaluationError → String
  | .notAffordable order stat needed available =>
      s!"Option {order.toInt} was applied without being affordable: needs {needed.toNat} {stat.name}, has {available.toNat}."
  | .unknownItem item => s!"No item found with id '{item}'."
  | .slotOutOfRange slot => s!"Inventory slot {slot} is out of range."
  | .cursedItem item => s!"Item '{item}' is cursed and cannot be removed."

/-- A scene is what content can read and change of the hero, and where it happens. -/
structure Scene where
  stats : Stats
  inventory : Inventory
  title : String
  /-- The kind of the node on which the hero stands. -/
  location : Option String
  /-- The event that was last asked for by an effect. -/
  triggered : Option String
  deriving DecidableEq

/-- No event is asked for when a scene opens. -/
def Player.scene (player : Player) (location : Option String) : Scene :=
  ⟨player.stats, player.inventory, player.title, location, none⟩

def Player.after (player : Player) (scene : Scene) : Player :=
  { player with stats := scene.stats, inventory := scene.inventory, title := scene.title }

def Condition.holds (scene : Scene) : Condition → Bool
  | .threshold stat minimum => decide (minimum ≤ scene.stats.get stat)
  | .hasItem item => scene.inventory.contains item
  | .hasTitle title => scene.title == title
  | .atNode kind => scene.location == some kind

/-- This settles the effects in order and stops at an item that is not known. -/
def settle (items : ItemCatalog) (effects : List Effect) (scene : Scene) :
    Scene × Except EvaluationError Unit :=
  match effects with
  | [] => (scene, .ok ())
  | .statChange stat amount :: rest =>
      settle items rest { scene with stats := scene.stats.change stat amount }
  | .changeTitle title :: rest => settle items rest { scene with title := title }
  | .triggerEvent event :: rest => settle items rest { scene with triggered := some event }
  | .grantItem id :: rest =>
      match items.find? id with
      | none => (scene, .error (.unknownItem id))
      | some item =>
          match _added : scene.inventory.add? item with
          | none => settle items rest scene
          | some placed =>
              settle items (item.onEquip ++ rest) { scene with inventory := placed.2 }
termination_by (scene.inventory.free, effects.length)
decreasing_by
  · exact Prod.Lex.right _ (by simp)
  · exact Prod.Lex.right _ (by simp)
  · exact Prod.Lex.right _ (by simp)
  · exact Prod.Lex.right _ (by simp)
  · have fewer := Inventory.free_of_add? _added
    exact Prod.Lex.left _ _ (by omega)

/-- This is what a player reads about the effect. -/
def Effect.text? (items : ItemCatalog) : Effect → Option String
  | .statChange stat amount =>
      let sign := if 0 ≤ amount.toInt then "+" else ""
      some s!"{sign}{amount.toInt} {stat.name}"
  | .grantItem id =>
      let name := match items.find? id with
        | some item => item.name
        | none => id
      some s!"You got {name}"
  | .changeTitle title => some s!"You are known as {title}"
  | .triggerEvent _ => none

/-- The first granted item that is not known is reported before anything changes. -/
def unknownGrant? (items : ItemCatalog) (effects : List Effect) : Option String :=
  (grantedItems effects).find? fun id => !items.contains id

structure EffectLine where
  text : String
  isPositive : Bool
  deriving DecidableEq

structure Resolution where
  text : String
  lines : List EffectLine
  nextEvent : Option String
  deriving DecidableEq

def effectLines (items : ItemCatalog) (effects : List Effect) : List EffectLine :=
  effects.filterMap fun effect =>
    (effect.text? items).map fun text => ⟨text, effect.isPositive⟩

namespace EventOption

def isVisible (option : EventOption) (scene : Scene) : Bool :=
  option.conditions.all (Condition.holds scene)

def isAffordable (option : EventOption) (scene : Scene) : Bool :=
  scene.stats.canPay option.costs

/-- The costs are paid before the effects are settled. The chain of the option wins over an
event that an effect asked for. -/
def apply (option : EventOption) (items : ItemCatalog) (scene : Scene) :
    Scene × Except EvaluationError Resolution :=
  match option.costs.find? fun cost => decide (scene.stats.get cost.stat < cost.amount) with
  | some cost =>
      (scene, .error
        (.notAffordable option.order cost.stat cost.amount (scene.stats.get cost.stat)))
  | none =>
      match unknownGrant? items option.effects with
      | some item => (scene, .error (.unknownItem item))
      | none =>
          let paid := { scene with stats := scene.stats.pay option.costs }
          match settle items option.effects paid with
          | (after, .error error) => (after, .error error)
          | (after, .ok ()) =>
              (after, .ok {
                text := option.resolutionText
                lines := effectLines items option.effects
                nextEvent := option.nextEvent.or after.triggered })

end EventOption

/-- The options that are shown keep their order. -/
def Event.visibleOptions (event : Event) (scene : Scene) : List EventOption :=
  event.options.filter fun option => option.isVisible scene

namespace Scene

/-- A charge is spent after the use effects are settled. A free slot does nothing. -/
def useItem (items : ItemCatalog) (slot : Nat) (scene : Scene) :
    Scene × Except EvaluationError Unit :=
  if Inventory.capacity ≤ slot then (scene, .error (.slotOutOfRange slot))
  else
    match scene.inventory.item? slot with
    | none => (scene, .ok ())
    | some item =>
        match unknownGrant? items item.onUse with
        | some unknown => (scene, .error (.unknownItem unknown))
        | none =>
            match settle items item.onUse scene with
            | (after, .error error) => (after, .error error)
            | (after, .ok ()) =>
                ({ after with inventory := after.inventory.spendCharge slot }, .ok ())

/-- The slot is free again before the unequip effects are settled. -/
def unequipItem (items : ItemCatalog) (slot : Nat) (scene : Scene) :
    Scene × Except EvaluationError (Option Item) :=
  if Inventory.capacity ≤ slot then (scene, .error (.slotOutOfRange slot))
  else
    match scene.inventory.item? slot with
    | none => (scene, .ok none)
    | some item =>
        if item.isCursed then (scene, .error (.cursedItem item.id))
        else
          match unknownGrant? items item.onUnequip with
          | some unknown => (scene, .error (.unknownItem unknown))
          | none =>
              let freed := { scene with inventory := (scene.inventory.remove slot).2 }
              match settle items item.onUnequip freed with
              | (after, .error error) => (after, .error error)
              | (after, .ok ()) => (after, .ok (some item))

end Scene

end Gamebook
