/-
This file says what each change of an inventory does to the content of every slot.
-/

import Gamebook.Inventory
import Mathlib.Data.List.FinRange

namespace Gamebook.Inventory

theorem item?_of_lt {inventory : Inventory} {slot : Nat} (within : slot < 3) :
    inventory.item? slot = inventory.slots[slot] := by
  simp [item?, within]

theorem item?_of_le {inventory : Inventory} {slot : Nat} (outside : 3 ≤ slot) :
    inventory.item? slot = none := by
  simp [item?, outside]

theorem lt_of_item? {inventory : Inventory} {slot : Nat} {item : Item}
    (carried : inventory.item? slot = some item) : slot < 3 := by
  by_contra outside
  rw [item?_of_le (Nat.le_of_not_lt outside)] at carried
  cases carried

@[simp] theorem item?_empty (slot : Nat) : empty.item? slot = none := by
  by_cases within : slot < 3
  · rw [item?_of_lt within, empty, Vector.getElem_replicate]
  · exact item?_of_le (Nat.le_of_not_lt within)

/-- Only the slot that is set changes. -/
theorem item?_set (inventory : Inventory) (slot : Fin 3) (content : Option Item) (other : Nat) :
    (inventory.set slot content).item? other =
      if slot.val = other then content else inventory.item? other := by
  by_cases within : other < 3
  · rw [item?_of_lt within, item?_of_lt within, set, Vector.getElem_set]
  · have apart : slot.val ≠ other := fun same => within (same ▸ slot.isLt)
    rw [item?_of_le (Nat.le_of_not_lt within), item?_of_le (Nat.le_of_not_lt within), if_neg apart]

theorem item?_set_of_ne {inventory : Inventory} {slot : Fin 3} {content : Option Item} {other : Nat}
    (apart : slot.val ≠ other) : (inventory.set slot content).item? other = inventory.item? other := by
  rw [item?_set, if_neg apart]

/-- The slots show all of an inventory. -/
theorem ext_item? {left right : Inventory} (same : ∀ slot, left.item? slot = right.item? slot) :
    left = right := by
  obtain ⟨leftSlots⟩ := left
  obtain ⟨rightSlots⟩ := right
  congr 1
  apply Vector.ext
  intro slot within
  have shown := same slot
  rwa [item?_of_lt within, item?_of_lt within] at shown

/-- The first free slot is free, and all slots below it are taken. -/
theorem firstFree?_eq_some_iff {inventory : Inventory} {slot : Fin 3} :
    inventory.firstFree? = some slot ↔
      inventory.item? slot.val = none ∧
        ∀ lower < slot.val, (inventory.item? lower).isSome = true := by
  rw [firstFree?, List.find?_eq_some_iff_getElem, item?_of_lt slot.isLt]
  simp only [Fin.getElem_fin, Option.isNone_iff_eq_none, List.getElem_finRange, List.length_finRange,
    Bool.not_eq_true', Option.isNone_eq_false_iff]
  refine and_congr_right fun _ => ⟨?_, ?_⟩
  · rintro ⟨position, within, same, taken⟩ lower below
    have sameValue : position = slot.val := congrArg Fin.val same
    have lowerTaken := taken lower (sameValue ▸ below)
    rw [item?_of_lt (Nat.lt_trans below slot.isLt)]
    exact lowerTaken
  · intro taken
    refine ⟨slot.val, slot.isLt, rfl, fun lower below => ?_⟩
    have lowerTaken := taken lower below
    rwa [item?_of_lt (Nat.lt_trans below slot.isLt)] at lowerTaken

/-- An added item goes into the lowest free slot. -/
theorem add?_eq_some_iff {inventory larger : Inventory} {item : Item} {slot : Fin 3} :
    inventory.add? item = some (slot, larger) ↔
      (inventory.item? slot.val = none ∧
        ∀ lower < slot.val, (inventory.item? lower).isSome = true) ∧
        larger = inventory.set slot (some item) := by
  rw [← firstFree?_eq_some_iff]
  simp only [add?, Option.map_eq_some_iff, Prod.mk.injEq]
  constructor
  · rintro ⟨found, first, rfl, rfl⟩
    exact ⟨first, rfl⟩
  · rintro ⟨first, rfl⟩
    exact ⟨slot, first, rfl, rfl⟩

/-- An item finds no slot exactly when none is free. -/
theorem add?_eq_none_iff {inventory : Inventory} {item : Item} :
    inventory.add? item = none ↔ inventory.free = 0 := by
  rw [add?, Option.map_eq_none_iff, firstFree?, List.find?_eq_none, free, Vector.countP_eq_zero]
  constructor
  · intro taken content listed
    obtain ⟨slot, within, rfl⟩ := Vector.mem_iff_getElem.mp listed
    exact taken ⟨slot, within⟩ (List.mem_finRange _)
  · intro taken slot _
    exact taken _ (Vector.getElem_mem slot.isLt)

/-- Only the slot of an item that is not cursed is freed. -/
theorem remove_eq_of_item? {inventory : Inventory} {slot : Nat} {item : Item}
    (carried : inventory.item? slot = some item) (free : item.isCursed = false) :
    inventory.remove slot = (some item, inventory.set ⟨slot, lt_of_item? carried⟩ none) := by
  have within := lt_of_item? carried
  rw [item?_of_lt within] at carried
  simp [remove, within, carried, free]

theorem remove_of_free {inventory : Inventory} {slot : Nat}
    (free : inventory.item? slot = none) : inventory.remove slot = (none, inventory) := by
  rw [remove]
  split
  next within =>
    rw [item?_of_lt within] at free
    simp only [free]
  next => rfl

/-- A charge is only spent in the slot that is used. -/
theorem item?_spendCharge (inventory : Inventory) (slot other : Nat) :
    (inventory.spendCharge slot).item? other =
      if slot = other then (inventory.item? slot).bind spent else inventory.item? other := by
  rw [spendCharge]
  split
  next within =>
    rw [item?_set, item?_of_lt within]
  next outside =>
    rw [item?_of_le (Nat.le_of_not_lt outside)]
    split
    next same => rw [← same, item?_of_le (Nat.le_of_not_lt outside), Option.bind_none]
    next => rfl

/-- An inventory stays as it is when the slot that is used keeps its content. -/
theorem spendCharge_of_kept {inventory : Inventory} {slot : Nat}
    (kept : (inventory.item? slot).bind spent = inventory.item? slot) :
    inventory.spendCharge slot = inventory := by
  apply ext_item?
  intro other
  rw [item?_spendCharge]
  split
  next same => rw [kept, same]
  next => rfl

theorem spendCharge_of_free {inventory : Inventory} {slot : Nat}
    (free : inventory.item? slot = none) : inventory.spendCharge slot = inventory :=
  spendCharge_of_kept (by rw [free, Option.bind_none])

theorem spent_of_lasting {item : Item} (lasting : item.charges = none) : spent item = some item := by
  simp [spent, lasting]

theorem spendCharge_of_lasting {inventory : Inventory} {slot : Nat} {item : Item}
    (carried : inventory.item? slot = some item) (lasting : item.charges = none) :
    inventory.spendCharge slot = inventory :=
  spendCharge_of_kept (by rw [carried, Option.bind_some, spent_of_lasting lasting])

end Gamebook.Inventory
