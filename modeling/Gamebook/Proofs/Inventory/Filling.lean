/-
This file describes how items of a catalog come into an inventory.
Nothing that is carried moves while the lowest free slots are filled one after the other.
-/

import Gamebook.Catalog.Basic
import Gamebook.Proofs.Inventory.Slots
import Mathlib.Logic.Relation

namespace Gamebook.Inventory

/-- One entry of the catalog goes into the lowest free slot. -/
inductive Places (items : ItemCatalog) (inventory : Inventory) : Inventory → Prop
  | place (slot : Fin 3) (entry : Item) (listed : entry ∈ items.entries)
      (free : inventory.item? slot.val = none)
      (lowest : ∀ lower < slot.val, (inventory.item? lower).isSome = true) :
      Places items inventory (inventory.set slot (some entry))

/-- Any number of entries go into the slots that are free, one after the other. -/
def Fills (items : ItemCatalog) : Inventory → Inventory → Prop :=
  Relation.ReflTransGen (Places items)

theorem Fills.refl (items : ItemCatalog) (inventory : Inventory) :
    Fills items inventory inventory :=
  Relation.ReflTransGen.refl

/-- An item that finds a slot is one more entry in the inventory. -/
theorem Fills.add? {items : ItemCatalog} {inventory larger : Inventory} {entry : Item} {slot : Fin 3}
    (listed : entry ∈ items.entries) (added : inventory.add? entry = some (slot, larger)) :
    Fills items inventory larger := by
  obtain ⟨⟨free, lowest⟩, rfl⟩ := add?_eq_some_iff.mp added
  exact Relation.ReflTransGen.single (.place slot entry listed free lowest)

theorem Places.item?_of_carried {items : ItemCatalog} {before after : Inventory}
    (places : Places items before after) {slot : Nat} {item : Item}
    (carried : before.item? slot = some item) : after.item? slot = some item := by
  obtain ⟨free, entry, listed, isFree, lowest⟩ := places
  have apart : free.val ≠ slot := by
    rintro rfl
    rw [isFree] at carried
    cases carried
  rw [item?_set_of_ne apart, carried]

/-- Filling leaves every item where it is carried. -/
theorem Fills.item?_of_carried {items : ItemCatalog} {before after : Inventory}
    (fills : Fills items before after) {slot : Nat} {item : Item}
    (carried : before.item? slot = some item) : after.item? slot = some item := by
  induction fills with
  | refl => exact carried
  | tail _ places inductionHypothesis => exact places.item?_of_carried inductionHypothesis

/-- Whatever is carried after filling was carried before or is an entry of the catalog. -/
theorem Fills.carried_or_listed {items : ItemCatalog} {before after : Inventory}
    (fills : Fills items before after) {slot : Nat} {item : Item}
    (carried : after.item? slot = some item) :
    before.item? slot = some item ∨ item ∈ items.entries := by
  induction fills with
  | refl => exact .inl carried
  | tail _ places inductionHypothesis =>
      obtain ⟨free, entry, listed, isFree, lowest⟩ := places
      rw [item?_set] at carried
      split at carried
      · cases carried
        exact .inr listed
      · exact inductionHypothesis carried

end Gamebook.Inventory
