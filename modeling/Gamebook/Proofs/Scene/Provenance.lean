/-
This file accounts for every item in an inventory. Whatever is carried is a copy of an entry of
the catalog that differs at most by the charges that were spent, and it only leaves its slot when
that slot is unequipped or used.
-/

import Gamebook.Proofs.Scene.Operation
import Mathlib.Data.Option.Basic

namespace Gamebook

/-- A copy differs from its entry at most by the charges that were spent. -/
structure Item.IsCopyOf (item entry : Item) : Prop where
  same : item = { entry with charges := item.charges }
  charges : Option.Rel (· ≤ ·) item.charges entry.charges

theorem Item.IsCopyOf.refl (entry : Item) : entry.IsCopyOf entry where
  same := rfl
  charges := by
    cases entry.charges with
    | none => exact .none
    | some charges => exact .some (Nat.le_refl charges)

theorem Item.IsCopyOf.id_eq {item entry : Item} (copy : item.IsCopyOf entry) : item.id = entry.id := by
  rw [copy.same]

/-- Spending a charge leaves a copy of the same entry. -/
theorem Item.IsCopyOf.spent {item entry left : Item} (copy : item.IsCopyOf entry)
    (spends : Inventory.spent item = some left) : left.IsCopyOf entry := by
  rw [Inventory.spent] at spends
  split at spends
  next => exact Option.some.inj spends ▸ copy
  next charges counted =>
    split at spends
    next => cases spends
    next =>
      cases spends
      refine ⟨by rw [copy.same], ?_⟩
      have fewer := copy.charges
      rw [counted] at fewer
      cases entryCharges : entry.charges with
      | none => simp [entryCharges] at fewer
      | some authored =>
          rw [entryCharges, Option.rel_some_some] at fewer
          exact .some (by omega)

namespace Inventory

/-- Every carried item is a copy of an entry of the catalog. -/
def Sourced (items : ItemCatalog) (inventory : Inventory) : Prop :=
  ∀ slot item, inventory.item? slot = some item → ∃ entry ∈ items.entries, item.IsCopyOf entry

theorem sourced_empty (items : ItemCatalog) : empty.Sourced items := by
  intro slot item carried
  simp at carried

end Inventory

/-- What holds of all entries, and of whatever is left of an item that spends a charge, an operation
keeps true of all carried items. -/
theorem Operation.Moves.forall_carried {items : ItemCatalog} {before after : Inventory}
    {operation : Operation} {result : Except EvaluationError Outcome}
    (moves : Operation.Moves items before operation result after) {P : Item → Prop}
    (entries : ∀ item ∈ items.entries, P item)
    (spent : ∀ item left, P item → Inventory.spent item = some left → P left)
    (carried : ∀ slot item, before.item? slot = some item → P item) :
    ∀ slot item, after.item? slot = some item → P item := by
  have filled : ∀ {earlier later : Inventory}, earlier.Fills items later →
      (∀ slot item, earlier.item? slot = some item → P item) →
        ∀ slot item, later.item? slot = some item → P item := by
    intro earlier later fills known slot item found
    rcases fills.carried_or_listed found with before | listed
    · exact known slot item before
    · exact entries item listed
  cases moves with
  | apply fills => exact filled fills carried
  | settle fills => exact filled fills carried
  | use _ fills =>
      intro slot item found
      rw [Inventory.item?_spendCharge] at found
      split at found
      · obtain ⟨used, usedFound, spends⟩ := Option.bind_eq_some_iff.mp found
        exact spent used item (filled fills carried _ used usedFound) spends
      · exact filled fills carried slot item found
  | unequip taken _ _ fills =>
      refine filled fills fun slot item found => ?_
      rw [Inventory.item?_set] at found
      split at found
      · cases found
      · exact carried slot item found
  | _ => exact carried

theorem Operation.Moves.sourced {items : ItemCatalog} {before after : Inventory} {operation : Operation}
    {result : Except EvaluationError Outcome}
    (moves : Operation.Moves items before operation result after)
    (sourced : before.Sourced items) : after.Sourced items := by
  refine moves.forall_carried (fun entry listed => ⟨entry, listed, .refl entry⟩) ?_ sourced
  rintro item left ⟨entry, listed, copy⟩ spends
  exact ⟨entry, listed, copy.spent spends⟩

/-- Whatever is carried after any operations comes from the catalog. -/
theorem Scene.play_sourced {items : ItemCatalog} (sound : items.Sound) {scene : Scene}
    (sourced : scene.inventory.Sourced items) (operations : List Operation) :
    (scene.play items operations).inventory.Sourced items := by
  refine Scene.play_induction (motive := fun scene => scene.inventory.Sourced items) sourced ?_
  intro operation _ later kept
  exact (operation.moves_run sound later).sourced kept

/-- This is what an operation with a result can do to an item in a slot. -/
inductive Operation.Fate (operation : Operation) (result : Except EvaluationError Outcome)
    (slot : Nat) (item : Item) : Option Item → Prop
  | stays : Fate operation result slot item (some item)
  | spent (used : operation = .useItem slot) (succeeded : result = .ok .done) (charges : Nat)
      (counted : item.charges = some charges) (several : 1 < charges) :
      Fate operation result slot item (some { item with charges := some (charges - 1) })
  | usedUp (used : operation = .useItem slot) (succeeded : result = .ok .done) (charges : Nat)
      (counted : item.charges = some charges) (last : charges ≤ 1) :
      Fate operation result slot item none
  /-- The slot is free again for an item that the unequip effects grant. -/
  | unequipped (taken : operation = .unequipItem slot)
      (succeeded : result = .ok (.unequipped (some item))) (free : item.isCursed = false)
      (content : Option Item) : Fate operation result slot item content

/-- No operation does anything else to an item that is carried. -/
theorem Operation.Moves.fate {items : ItemCatalog} {before after : Inventory} {operation : Operation}
    {result : Except EvaluationError Outcome}
    (moves : Operation.Moves items before operation result after) {slot : Nat} {item : Item}
    (carried : before.item? slot = some item) :
    operation.Fate result slot item (after.item? slot) := by
  cases moves with
  | apply fills =>
      rw [fills.item?_of_carried carried]
      exact .stays
  | settle fills =>
      rw [fills.item?_of_carried carried]
      exact .stays
  | @use used other filled _ fills =>
      rw [Inventory.item?_spendCharge]
      split
      next same =>
        subst same
        rw [fills.item?_of_carried carried, Option.bind_some, Inventory.spent]
        split
        next => exact .stays
        next charges counted =>
          split
          next last => exact .usedUp rfl rfl charges counted last
          next several => exact .spent rfl rfl charges counted (Nat.lt_of_not_le several)
      next apart =>
        rw [fills.item?_of_carried carried]
        exact .stays
  | @unequip taken other _ otherCarried free fills =>
      by_cases same : taken.val = slot
      · subst same
        cases carried.symm.trans otherCarried
        exact .unequipped rfl rfl free _
      · rw [fills.item?_of_carried ((Inventory.item?_set_of_ne same).trans carried)]
        exact .stays
  | _ =>
      rw [carried]
      exact .stays

/-- From an empty inventory on, every carried item is a copy of the entry with its id. Each further
operation only fills the lowest free slots, apart from the slot that it uses or unequips, and no
carried item is lost or changed in any other way. -/
theorem Catalog.Built.carried_items_accounted {items : ItemCatalog} (built : items.Built)
    {start : Scene} (begins : start.inventory = Inventory.empty) (operations : List Operation) :
    (∀ slot item, (start.play items operations).inventory.item? slot = some item →
      ∃ entry, items.find? item.id = some entry ∧ item.IsCopyOf entry) ∧
    ∀ operation : Operation,
      operation.Moves items (start.play items operations).inventory
        (operation.run items (start.play items operations)).2
        (start.play items (operations ++ [operation])).inventory ∧
      ∀ slot item, (start.play items operations).inventory.item? slot = some item →
        operation.Fate (operation.run items (start.play items operations)).2 slot item
          ((start.play items (operations ++ [operation])).inventory.item? slot) := by
  have sound := built.sound
  have sourced := start.play_sourced sound (begins ▸ Inventory.sourced_empty items) operations
  refine ⟨fun slot item carried => ?_, fun operation => ?_⟩
  · obtain ⟨entry, listed, copy⟩ := sourced slot item carried
    have found := (Catalog.find?_eq_some_iff sound.distinct).mpr ⟨listed, rfl⟩
    exact ⟨entry, copy.id_eq ▸ found, copy⟩
  · rw [Scene.play_append_singleton]
    have moves := operation.moves_run sound (start.play items operations)
    exact ⟨moves, fun slot item carried => moves.fate carried⟩

/-- This ring fades with every wish, and it calls another when it is taken off. -/
def fadingRing : Item where
  id := "ring"
  name := "Ring"
  description := "It fades a little with every wish."
  art := ""
  isCursed := false
  charges := some 2
  onUse := [.statChange .gold 1]
  onEquip := []
  onUnequip := [.grantItem "ring"]

def bareScene : Scene where
  stats := Stats.zero
  inventory := Inventory.empty
  title := "Thrall"
  location := none
  triggered := none

theorem carried_items_accounted_ring :
    Catalog.ofList [fadingRing] = .ok ⟨[fadingRing]⟩ ∧ bareScene.inventory = Inventory.empty ∧
      (bareScene.play ⟨[fadingRing]⟩ [.settle (.grantItem "ring")]).inventory.item? 0 =
        some fadingRing ∧
      (Operation.useItem 0).Fate
        ((Operation.useItem 0).run ⟨[fadingRing]⟩
          (bareScene.play ⟨[fadingRing]⟩ [.settle (.grantItem "ring")])).2 0 fadingRing
        ((bareScene.play ⟨[fadingRing]⟩
          ([.settle (.grantItem "ring")] ++ [.useItem 0])).inventory.item? 0) := by
  have made : Catalog.ofList [fadingRing] = .ok ⟨[fadingRing]⟩ := by decide
  have begins : bareScene.inventory = Inventory.empty := by rfl
  have found : Catalog.find? (⟨[fadingRing]⟩ : ItemCatalog) "ring" = some fadingRing := by decide
  have added : bareScene.inventory.add? fadingRing =
      some (0, Inventory.empty.set 0 (some fadingRing)) := by rfl
  have carried : (bareScene.play ⟨[fadingRing]⟩
      [.settle (.grantItem "ring")]).inventory.item? 0 = some fadingRing := by
    show (settle _ [.grantItem "ring"] bareScene).1.inventory.item? 0 = _
    rw [settle_next (.placed found added)]
    show (settle _ [] _).1.inventory.item? 0 = _
    rw [settle]
    show ((bareScene.inventory.receive _ (.grantItem "ring")).item? 0) = _
    rw [Inventory.receive, found, Option.bind_some, added]
    rfl
  have claimed := Catalog.Built.carried_items_accounted (.ofList made) begins
    [.settle (.grantItem "ring")]
  exact ⟨made, begins, carried, (claimed.2 (.useItem 0)).2 0 fadingRing carried⟩

end Gamebook
