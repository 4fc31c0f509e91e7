/-
This file holds the items that a hero carries.
There are three slots. A new item goes into the first free one, and a cursed one cannot be taken out.
-/

import Gamebook.Item

namespace Gamebook

structure Inventory where
  slots : Vector (Option Item) 3
  deriving DecidableEq

namespace Inventory

def capacity : Nat := 3

def empty : Inventory := ⟨Vector.replicate 3 none⟩

def item? (inventory : Inventory) (slot : Nat) : Option Item :=
  inventory.slots[slot]?.getD none

def free (inventory : Inventory) : Nat :=
  inventory.slots.countP Option.isNone

def isFull (inventory : Inventory) : Bool :=
  inventory.slots.all Option.isSome

def items (inventory : Inventory) : List Item :=
  inventory.slots.toList.filterMap id

def contains (inventory : Inventory) (id : String) : Bool :=
  inventory.items.any fun item => item.id == id

def firstFree? (inventory : Inventory) : Option (Fin 3) :=
  (List.finRange 3).find? fun slot => inventory.slots[slot].isNone

def set (inventory : Inventory) (slot : Fin 3) (content : Option Item) : Inventory :=
  ⟨inventory.slots.set slot content⟩

/-- A full inventory takes no further item. -/
def add? (inventory : Inventory) (item : Item) : Option (Fin 3 × Inventory) :=
  inventory.firstFree?.map fun slot => (slot, inventory.set slot (some item))

/-- Nothing happens to a slot that is free or out of range, or whose item is cursed. -/
def remove (inventory : Inventory) (slot : Nat) : Option Item × Inventory :=
  if within : slot < 3 then
    match inventory.slots[slot] with
    | some item =>
        if item.isCursed then (none, inventory)
        else (some item, inventory.set ⟨slot, within⟩ none)
    | none => (none, inventory)
  else (none, inventory)

/-- An item that loses its last charge is gone. -/
def spent (item : Item) : Option Item :=
  match item.charges with
  | none => some item
  | some charges =>
      if charges ≤ 1 then none else some { item with charges := some (charges - 1) }

/-- This spends one charge of the item in the slot, if it has charges. -/
def spendCharge (inventory : Inventory) (slot : Nat) : Inventory :=
  if within : slot < 3 then
    inventory.set ⟨slot, within⟩ (inventory.slots[slot].bind spent)
  else inventory

theorem free_of_add? {inventory larger : Inventory} {item : Item} {slot : Fin 3}
    (added : inventory.add? item = some (slot, larger)) : larger.free + 1 = inventory.free := by
  simp only [add?, Option.map_eq_some_iff, Prod.mk.injEq] at added
  obtain ⟨found, first, -, rfl⟩ := added
  rw [firstFree?] at first
  have isFree : inventory.slots[found].isNone = true :=
    List.find?_some (p := fun slot : Fin 3 => inventory.slots[slot].isNone) first
  have positive : 0 < inventory.slots.countP Option.isNone :=
    Vector.countP_pos_iff.mpr ⟨_, Vector.getElem_mem found.isLt, isFree⟩
  have same : inventory.slots[found.val].isNone = true := isFree
  rw [free, free, set, Vector.countP_set, same]
  simp only [if_true, Option.isNone_some, Bool.false_eq_true, if_false, Nat.add_zero]
  omega

end Inventory

end Gamebook
