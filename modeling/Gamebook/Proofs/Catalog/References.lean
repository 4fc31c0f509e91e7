/-
This file says which references of an entry must lead to known ids.
-/

import Gamebook.Catalog.Basic
import Mathlib.Data.Option.Basic

namespace Gamebook

/-- What is picked from effects of one kind is named by an effect of this kind. -/
theorem mem_filterMap_iff {named? : Effect → Option String} {build : String → Effect} {id : String}
    {effects : List Effect} (named : ∀ effect, named? effect = some id ↔ effect = build id) :
    id ∈ effects.filterMap named? ↔ build id ∈ effects := by
  simp only [List.mem_filterMap, named, exists_eq_right]

theorem mem_grantedItems {effects : List Effect} {id : String} :
    id ∈ grantedItems effects ↔ Effect.grantItem id ∈ effects :=
  mem_filterMap_iff fun effect => by cases effect <;> simp

theorem mem_triggeredEvents {effects : List Effect} {id : String} :
    id ∈ triggeredEvents effects ↔ Effect.triggerEvent id ∈ effects :=
  mem_filterMap_iff fun effect => by cases effect <;> simp

/-- An event dangles only by the chain of an option. -/
theorem Event.dangling?_eq_none_iff {known : String → Bool} {event : Event} :
    CatalogEntry.dangling? known event = none ↔
      ∀ option ∈ event.options, ∀ target, option.nextEvent = some target → known target = true := by
  simp only [CatalogEntry.dangling?, List.findSome?_eq_none_iff]
  refine forall₂_congr fun option _ => ?_
  cases option.nextEvent <;> simp

/-- An item dangles only by a grant among its own effects. -/
theorem Item.dangling?_eq_none_iff {known : String → Bool} {item : Item} :
    CatalogEntry.dangling? known item = none ↔
      ∀ id, Effect.grantItem id ∈ item.effects → known id = true := by
  simp [CatalogEntry.dangling?, mem_grantedItems]

/-- A node dangles only by one of its neighbours. -/
theorem Node.dangling?_eq_none_iff {known : String → Bool} {node : Node} :
    CatalogEntry.dangling? known node = none ↔
      ∀ kind ∈ node.neighbours.kinds, known kind = true := by
  simp [CatalogEntry.dangling?]

end Gamebook
