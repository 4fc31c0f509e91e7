/-
This file counts the charges of carried items. Only a successful use of its slot takes a charge from
an item, and the last charge takes the item out of the slot. No item is left with nothing, so that an
item without a charge is only carried when it was authored without one.
-/

import Gamebook.Proofs.Catalog.Order
import Gamebook.Proofs.Scene.Atomicity
import Gamebook.Proofs.Scene.Provenance
import Mathlib.Data.List.Induction

namespace Gamebook

/-- This says whether the operation uses the slot and succeeds. -/
def Operation.spends (items : ItemCatalog) (scene : Scene) (slot : Nat) : Operation → Bool
  | .useItem used => used == slot && (scene.useItem items used).2.isOk
  | _ => false

/-- This is the number of successful uses of the slot. -/
def Scene.uses (items : ItemCatalog) (slot : Nat) (scene : Scene) : List Operation → Nat
  | [] => 0
  | operation :: rest =>
      (operation.spends items scene slot).toNat +
        Scene.uses items slot (operation.run items scene).1 rest

/-- This is the item when the given number of charges is left. -/
def Item.left (item : Item) (charges : Nat) : Item :=
  { item with charges := some charges }

/-- A use settles the use effects of the item once, while the item is still in its slot, and then it
spends a charge. -/
def Scene.UsedOnce (items : ItemCatalog) (slot : Nat) (item : Item) (before after : Scene) : Prop :=
  ∃ settled, settle items item.onUse before = (settled, .ok ()) ∧
    settled.inventory.item? slot = some item ∧
    after = { settled with inventory := settled.inventory.spendCharge slot }

/-- After a use the slot holds what is left of the item. -/
theorem Scene.UsedOnce.item? {items : ItemCatalog} {slot : Nat} {item : Item} {before after : Scene}
    (used : before.UsedOnce items slot item after) :
    after.inventory.item? slot = Inventory.spent item := by
  obtain ⟨settled, -, carried, rfl⟩ := used
  rw [Inventory.item?_spendCharge, if_pos rfl, carried, Option.bind_some]

namespace Operation

variable {items : ItemCatalog} (sound : items.Sound) {scene : Scene} {slot : Nat} {item : Item}
  {operation : Operation}

theorem spends_useItem_iff :
    (Operation.useItem slot).spends items scene slot = true ↔
      ((Operation.useItem slot).run items scene).2 = .ok .done := by
  cases result : (scene.useItem items slot).2 <;>
    simp [spends, run, result, Except.isOk, Except.toBool, Except.map]

theorem eq_useItem_of_spends (spending : operation.spends items scene slot = true) :
    operation = .useItem slot := by
  cases operation with
  | useItem used =>
      simp only [spends, Bool.and_eq_true, beq_iff_eq] at spending
      rw [spending.1]
  | _ => cases spending

include sound

theorem usedOnce_of_spends (carried : scene.inventory.item? slot = some item)
    (spending : operation.spends items scene slot = true) :
    scene.UsedOnce items slot item (operation.run items scene).1 := by
  obtain rfl := eq_useItem_of_spends spending
  rcases scene.useItem_cases sound slot with
    ⟨error, -, result⟩ | ⟨-, free, -⟩ | ⟨used, usedCarried, known, settled, rfl, result⟩
  · simp [spends, result, Except.isOk, Except.toBool] at spending
  · cases carried.symm.trans free
  · cases carried.symm.trans usedCarried
    have fills := settle_fills items item.onUse scene
    exact ⟨_, sound.settle_eq known scene, fills.item?_of_carried carried, by rw [run, result]⟩

/-- A use of a carried item succeeds when its use effects grant nothing unknown. -/
theorem spends_useItem (carried : scene.inventory.item? slot = some item)
    (known : ∀ effect ∈ item.onUse, effect.ItemKnown items) :
    (Operation.useItem slot).spends items scene slot = true := by
  rw [spends_useItem_iff, run]
  rcases scene.useItem_cases sound slot with
    ⟨error, refusal, -⟩ | ⟨-, free, -⟩ | ⟨-, -, -, settled, -, result⟩
  · cases refusal with
    | outside beyond => exact absurd (Inventory.lt_of_item? carried) (Nat.not_lt.mpr beyond)
    | unknown other otherCarried id first =>
        cases carried.symm.trans otherCarried
        exact absurd known (Effect.not_itemKnown_of_unknown first.granted.1 first.granted.2)
  · cases carried.symm.trans free
  · rw [result]
    rfl

end Operation

/-- What is left of an item still has a charge to spend, or it never had a number of charges. -/
theorem Inventory.charges_of_spent {item left : Item} (spends : spent item = some left) :
    left.charges ≠ some 0 := by
  rw [spent] at spends
  split at spends
  next lasting =>
    cases spends
    simp [lasting]
  next charges counted =>
    split at spends
    next => cases spends
    next several =>
      cases spends
      simp only [ne_eq, Option.some.injEq]
      omega

/-- An item that is carried without a charge is an entry of the catalog that nobody has used. -/
theorem Scene.mem_entries_of_empty {items : ItemCatalog} (sound : items.Sound) {start : Scene}
    (begins : start.inventory = Inventory.empty) (operations : List Operation) :
    ∀ slot item, (start.play items operations).inventory.item? slot = some item →
      item.charges = some 0 → item ∈ items.entries := by
  refine Scene.play_induction (motive := fun scene => ∀ slot item,
    scene.inventory.item? slot = some item → item.charges = some 0 → item ∈ items.entries) ?_ ?_
  · simp [begins]
  · intro operation _ later kept
    refine (operation.moves_run sound later).forall_carried (fun item listed _ => listed) ?_ kept
    intro item left _ spends empty
    exact absurd empty (Inventory.charges_of_spent spends)

/-- An entry that is granted to empty hands goes into the lowest slot, whatever its equip effects
do. -/
theorem Scene.item?_play_grant {items : ItemCatalog} (sound : items.Sound) {entry : Item}
    (listed : entry ∈ items.entries) {start : Scene} (begins : start.inventory = Inventory.empty) :
    (start.play items [.settle (.grantItem entry.id)]).inventory.item? 0 = some entry := by
  have found : items.find? entry.id = some entry :=
    (Catalog.find?_eq_some_iff sound.distinct).mpr ⟨listed, rfl⟩
  have added : start.inventory.add? entry = some (0, Inventory.empty.set 0 (some entry)) := by
    rw [begins]
    rfl
  have fills := settle_fills items (entry.onEquip ++ []) (start.perform items (.grantItem entry.id))
  show (settle items [.grantItem entry.id] start).1.inventory.item? 0 = some entry
  rw [settle_next (.placed found added)]
  refine fills.item?_of_carried ?_
  rw [Scene.perform_inventory, Inventory.receive_of_added found added]
  rfl

/-- Only a definition without a charge is compiled to an item without a charge. -/
theorem ItemDefinition.charges_of_compile {definition : ItemDefinition} {item : Item}
    (compiled : definition.compile = .ok item) :
    item.charges = some 0 ↔ definition.charges = 0 := by
  rw [compile] at compiled
  split at compiled
  next => cases compiled
  next =>
    dsimp only at compiled
    split at compiled
    next =>
      cases compiled
      have zero : definition.charges = 0 ↔ definition.charges.toInt = 0 := by
        rw [← Int32.toInt_inj, Int32.toInt_zero]
      rw [zero]
      by_cases counted : 0 ≤ definition.charges.toInt
      · rw [if_pos counted, Option.some.injEq]
        omega
      · rw [if_neg counted]
        exact iff_of_false (by simp) (by omega)
    next => cases compiled

/-- An item that is carried without a charge was authored without one. -/
theorem exists_definition_of_empty {definitions : List ItemDefinition} {entries : List Item}
    (compiled : definitions.map ItemDefinition.compile = entries.map .ok)
    (sound : Catalog.Sound (⟨entries⟩ : ItemCatalog)) {start : Scene}
    (begins : start.inventory = Inventory.empty) {operations : List Operation} {slot : Nat}
    {item : Item} (carried : (start.play ⟨entries⟩ operations).inventory.item? slot = some item)
    (empty : item.charges = some 0) :
    ∃ definition ∈ definitions, definition.charges = 0 ∧ definition.compile = .ok item := by
  have listed : item ∈ entries :=
    start.mem_entries_of_empty sound begins operations slot item carried empty
  have outcome : .ok item ∈ definitions.map ItemDefinition.compile :=
    compiled ▸ List.mem_map_of_mem listed
  obtain ⟨definition, given, compiles⟩ := List.mem_map.mp outcome
  exact ⟨definition, given, (ItemDefinition.charges_of_compile compiles).mp empty, compiles⟩

/-- From empty hands on, an item without a charge is carried only when it was authored without one
and nobody has used it, and its first use takes it out of its slot. Such an item can come to be carried
exactly when one is authored. -/
theorem empty_only_as_authored {definitions : List ItemDefinition} {entries : List Item}
    {items : ItemCatalog} (compiled : definitions.map ItemDefinition.compile = entries.map .ok)
    (made : Catalog.ofList entries = .ok items) {start : Scene}
    (begins : start.inventory = Inventory.empty) :
    (∀ operations slot item, (start.play items operations).inventory.item? slot = some item →
      item.charges = some 0 →
        (∃ definition ∈ definitions, definition.charges = 0 ∧ definition.compile = .ok item) ∧
        ((Operation.useItem slot).spends items (start.play items operations) slot = true →
          (start.play items (operations ++ [.useItem slot])).inventory.item? slot = none)) ∧
    ((∃ operations slot item, (start.play items operations).inventory.item? slot = some item ∧
        item.charges = some 0) ↔
      ∃ definition ∈ definitions, definition.charges = 0) := by
  obtain ⟨rfl, sound⟩ := Catalog.ofList_eq_ok_iff.mp made
  refine ⟨fun operations slot item carried empty =>
    ⟨exists_definition_of_empty compiled sound begins carried empty, fun spending => ?_⟩, ?_, ?_⟩
  · rw [Scene.play_append_singleton, (Operation.usedOnce_of_spends sound carried spending).item?,
      Inventory.spent, empty]
    rfl
  · rintro ⟨operations, slot, item, carried, empty⟩
    obtain ⟨definition, given, zero, -⟩ :=
      exists_definition_of_empty compiled sound begins carried empty
    exact ⟨definition, given, zero⟩
  · rintro ⟨definition, given, zero⟩
    have compiles : definition.compile ∈ entries.map .ok := compiled ▸ List.mem_map_of_mem given
    obtain ⟨entry, listed, same⟩ := List.mem_map.mp compiles
    exact ⟨_, 0, entry, Scene.item?_play_grant sound listed begins,
      (ItemDefinition.charges_of_compile same.symm).mpr zero⟩

def aleDefinition : ItemDefinition where
  id := "ale"
  name := "Ale"
  description := "It warms the heart twice."
  charges := 2

/-- The last sip of this ale is already gone. -/
def dregsDefinition : ItemDefinition where
  id := "dregs"
  name := "Dregs"
  description := "Somebody has left them in the horn."
  charges := 0
  onUse := ["food:+1"]

def ale : Item where
  id := "ale"
  name := "Ale"
  description := "It warms the heart twice."
  art := ""
  isCursed := false
  charges := some 2
  onUse := []
  onEquip := []
  onUnequip := []

def dregs : Item where
  id := "dregs"
  name := "Dregs"
  description := "Somebody has left them in the horn."
  art := ""
  isCursed := false
  charges := some 0
  onUse := [.statChange .food 1]
  onEquip := []
  onUnequip := []

theorem empty_only_as_authored_dregs :
    [aleDefinition, dregsDefinition].map ItemDefinition.compile = [ale, dregs].map .ok ∧
      Catalog.ofList [ale, dregs] = .ok ⟨[ale, dregs]⟩ ∧
      bareScene.inventory = Inventory.empty ∧
      (bareScene.play ⟨[ale, dregs]⟩ [.settle (.grantItem "dregs")]).inventory.item? 0 =
        some dregs ∧
      (∃ definition ∈ [aleDefinition, dregsDefinition], definition.charges = 0 ∧
        definition.compile = .ok dregs) ∧
      (bareScene.play ⟨[ale, dregs]⟩
        ([.settle (.grantItem "dregs")] ++ [.useItem 0])).inventory.item? 0 = none := by
  have compiled :
      [aleDefinition, dregsDefinition].map ItemDefinition.compile = [ale, dregs].map .ok := by
    decide +kernel
  have made : Catalog.ofList [ale, dregs] = .ok ⟨[ale, dregs]⟩ := by decide
  have sound := Catalog.sound_of_ofList made
  have begins : bareScene.inventory = Inventory.empty := rfl
  have listed : dregs ∈ [ale, dregs] := by simp
  have carried := Scene.item?_play_grant sound listed begins
  have known : ∀ effect ∈ dregs.onUse, effect.ItemKnown ⟨[ale, dregs]⟩ :=
    unknownGrant?_eq_none_iff.mp (by decide)
  have claimed := (empty_only_as_authored compiled made begins).1 _ 0 dregs carried rfl
  exact ⟨compiled, made, begins, carried, claimed.1,
    claimed.2 (Operation.spends_useItem sound carried known)⟩

/-- The dregs are carried without a charge, and they can be used all the same. -/
theorem dregs_used_without_charge :
    [dregsDefinition].map ItemDefinition.compile = [dregs].map .ok ∧
      Catalog.ofList [dregs] = .ok ⟨[dregs]⟩ ∧ bareScene.inventory = Inventory.empty ∧
      ∃ operations,
        (bareScene.play ⟨[dregs]⟩ operations).inventory.item? 0 = some dregs ∧
        dregs.charges = some 0 ∧
        (Operation.useItem 0).spends ⟨[dregs]⟩ (bareScene.play ⟨[dregs]⟩ operations) 0 = true := by
  have made : Catalog.ofList [dregs] = .ok ⟨[dregs]⟩ := by decide
  have sound := Catalog.sound_of_ofList made
  have begins : bareScene.inventory = Inventory.empty := rfl
  have carried := Scene.item?_play_grant sound (List.mem_singleton_self dregs) begins
  have known : ∀ effect ∈ dregs.onUse, effect.ItemKnown ⟨[dregs]⟩ :=
    unknownGrant?_eq_none_iff.mp (by decide)
  exact ⟨by decide +kernel, made, begins, _, carried, rfl,
    Operation.spends_useItem sound carried known⟩

end Gamebook
