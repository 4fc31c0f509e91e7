/-
This file says when an option, a use and an unequipping are refused.
In a sound catalog every grant that is let through succeeds together with all grants that follow it,
so that a refusal always comes before the first change.
-/

import Gamebook.Proofs.Scene.Settlement

namespace Gamebook

/-- This is the first cost that is greater than the current value of its stat. -/
def Stats.FirstUnpaid (stats : Stats) (costs : List StatAmount) (cost : StatAmount) : Prop :=
  stats.get cost.stat < cost.amount ∧ ∃ paid later, costs = paid ++ cost :: later ∧
    ∀ earlier ∈ paid, earlier.amount ≤ stats.get earlier.stat

/-- This is the first item among the effects' own grants that is not in the catalog. -/
def FirstUnknown (items : ItemCatalog) (effects : List Effect) (id : String) : Prop :=
  items.contains id = false ∧ ∃ known later, effects = known ++ .grantItem id :: later ∧
    ∀ effect ∈ known, effect.ItemKnown items

theorem FirstUnknown.granted {items : ItemCatalog} {effects : List Effect} {id : String}
    (first : FirstUnknown items effects id) :
    Effect.grantItem id ∈ effects ∧ items.contains id = false := by
  obtain ⟨unknown, known, later, rfl, -⟩ := first
  exact ⟨by simp, unknown⟩

/-- These are the reasons for which an option is refused. -/
inductive EventOption.Refusal (items : ItemCatalog) (scene : Scene) (option : EventOption) :
    EvaluationError → Prop
  | unpaid (cost : StatAmount) (first : scene.stats.FirstUnpaid option.costs cost) :
      Refusal items scene option
        (.notAffordable option.order cost.stat cost.amount (scene.stats.get cost.stat))
  | unknown (payable : ∀ cost ∈ option.costs, cost.amount ≤ scene.stats.get cost.stat)
      (id : String) (first : FirstUnknown items option.effects id) :
      Refusal items scene option (.unknownItem id)

/-- These are the reasons for which the item in a slot cannot be used. -/
inductive Scene.UseRefusal (items : ItemCatalog) (scene : Scene) (slot : Nat) :
    EvaluationError → Prop
  | outside (beyond : 3 ≤ slot) : UseRefusal items scene slot (.slotOutOfRange slot)
  | unknown (item : Item) (carried : scene.inventory.item? slot = some item) (id : String)
      (first : FirstUnknown items item.onUse id) : UseRefusal items scene slot (.unknownItem id)

/-- These are the reasons for which the item in a slot cannot be taken off. -/
inductive Scene.UnequipRefusal (items : ItemCatalog) (scene : Scene) (slot : Nat) :
    EvaluationError → Prop
  | outside (beyond : 3 ≤ slot) : UnequipRefusal items scene slot (.slotOutOfRange slot)
  | cursed (item : Item) (carried : scene.inventory.item? slot = some item)
      (isCursed : item.isCursed = true) : UnequipRefusal items scene slot (.cursedItem item.id)
  | unknown (item : Item) (carried : scene.inventory.item? slot = some item)
      (free : item.isCursed = false) (id : String)
      (first : FirstUnknown items item.onUnequip id) :
      UnequipRefusal items scene slot (.unknownItem id)

theorem Stats.firstUnpaid_of_find? {stats : Stats} {costs : List StatAmount} {cost : StatAmount}
    (found : (costs.find? fun cost => decide (stats.get cost.stat < cost.amount)) = some cost) :
    stats.FirstUnpaid costs cost := by
  obtain ⟨unpaid, paid, later, same, earlier⟩ := List.find?_eq_some_iff_append.mp found
  refine ⟨of_decide_eq_true unpaid, paid, later, same, fun other listed => ?_⟩
  simpa using earlier other listed

/-- A grant that is reported before anything changes is the first unknown one. -/
theorem firstUnknown_of_unknownGrant? {items : ItemCatalog} {effects : List Effect} {id : String}
    (found : unknownGrant? items effects = some id) : FirstUnknown items effects id := by
  obtain ⟨unknown, known, later, same, earlier⟩ := List.find?_eq_some_iff_append.mp found
  obtain ⟨front, back, rfl, rfl, rest⟩ := List.filterMap_eq_append_iff.mp same
  obtain ⟨between, effect, tail, rfl, silent, named, -⟩ := List.filterMap_eq_cons_iff.mp rest
  have grant : effect = .grantItem id := by
    cases effect <;> simp_all
  subst grant
  refine ⟨by simpa using unknown, front ++ between, tail, by simp, fun effect listed => ?_⟩
  rintro other rfl
  rcases List.mem_append.mp listed with inFront | inBetween
  · simpa using earlier other (mem_grantedItems.mpr inFront)
  · simpa using silent _ inBetween

theorem unknownGrant?_eq_none_iff {items : ItemCatalog} {effects : List Effect} :
    unknownGrant? items effects = none ↔ ∀ effect ∈ effects, effect.ItemKnown items := by
  simp only [unknownGrant?, List.find?_eq_none, mem_grantedItems, Effect.ItemKnown]
  constructor
  · rintro allKnown effect listed id rfl
    simpa using allKnown id listed
  · intro allKnown id listed
    simpa using allKnown _ listed id rfl

/-- Every grant of a listed item names a known item when the catalog is sound. -/
theorem Catalog.Sound.itemKnown {items : ItemCatalog} (sound : items.Sound) {item : Item}
    (listed : item ∈ items.entries) {effect : Effect} (owned : effect ∈ item.effects) :
    effect.ItemKnown items := by
  rintro id rfl
  exact Item.dangling?_eq_none_iff.mp (sound.closed item listed) id owned

/-- Effects whose own grants are known always settle in a sound catalog. -/
theorem Catalog.Sound.settle_eq {items : ItemCatalog} (sound : items.Sound) {effects : List Effect}
    (known : ∀ effect ∈ effects, effect.ItemKnown items) (scene : Scene) :
    settle items effects scene = ((settle items effects scene).1, .ok ()) := by
  refine Prod.ext rfl (settle_snd_of_known known (fun item listed effect owned => ?_) scene)
  exact sound.itemKnown listed (by simp [Item.effects, owned])

/-- An option is refused in an unchanged scene, or its effects are settled after its costs. -/
theorem EventOption.apply_cases {items : ItemCatalog} (sound : items.Sound) (option : EventOption)
    (scene : Scene) :
    (∃ error, option.Refusal items scene error ∧ option.apply items scene = (scene, .error error)) ∨
    ((∀ cost ∈ option.costs, cost.amount ≤ scene.stats.get cost.stat) ∧
      (∀ effect ∈ option.effects, effect.ItemKnown items) ∧
      ∃ settled, settled =
          (settle items option.effects { scene with stats := scene.stats.pay option.costs }).1 ∧
        option.apply items scene = (settled, .ok {
          text := option.resolutionText
          lines := effectLines items option.effects
          nextEvent := option.nextEvent.or settled.triggered })) := by
  rw [apply]
  split
  next cost unpaid =>
    exact .inl ⟨_, .unpaid cost (Stats.firstUnpaid_of_find? unpaid), rfl⟩
  next paid =>
    have payable : ∀ cost ∈ option.costs, cost.amount ≤ scene.stats.get cost.stat := by
      simpa [List.find?_eq_none] using paid
    split
    next id unknown =>
      exact .inl ⟨_, .unknown payable id (firstUnknown_of_unknownGrant? unknown), rfl⟩
    next noUnknown =>
      have known := unknownGrant?_eq_none_iff.mp noUnknown
      refine .inr ⟨payable, known, _, rfl, ?_⟩
      dsimp only
      rw [sound.settle_eq known]

/-- A use is refused in an unchanged scene, or finds a free slot, or spends a charge in the end. -/
theorem Scene.useItem_cases {items : ItemCatalog} (sound : items.Sound) (slot : Nat)
    (scene : Scene) :
    (∃ error, scene.UseRefusal items slot error ∧
      scene.useItem items slot = (scene, .error error)) ∨
    (slot < 3 ∧ scene.inventory.item? slot = none ∧
      scene.useItem items slot = (scene, .ok ())) ∨
    (∃ item, scene.inventory.item? slot = some item ∧
      (∀ effect ∈ item.onUse, effect.ItemKnown items) ∧
      ∃ settled, settled = (settle items item.onUse scene).1 ∧
        scene.useItem items slot =
          ({ settled with inventory := settled.inventory.spendCharge slot }, .ok ())) := by
  rw [useItem]
  split
  next beyond => exact .inl ⟨_, .outside beyond, rfl⟩
  next within =>
    split
    next free => exact .inr (.inl ⟨Nat.lt_of_not_le within, free, rfl⟩)
    next item carried =>
      split
      next id unknown =>
        exact .inl ⟨_, .unknown item carried id (firstUnknown_of_unknownGrant? unknown), rfl⟩
      next noUnknown =>
        have known := unknownGrant?_eq_none_iff.mp noUnknown
        refine .inr (.inr ⟨item, carried, known, _, rfl, ?_⟩)
        rw [sound.settle_eq known]

/-- An unequipping is refused in an unchanged scene, or finds a free slot, or frees it first. -/
theorem Scene.unequipItem_cases {items : ItemCatalog} (sound : items.Sound) (slot : Nat)
    (scene : Scene) :
    (∃ error, scene.UnequipRefusal items slot error ∧
      scene.unequipItem items slot = (scene, .error error)) ∨
    (slot < 3 ∧ scene.inventory.item? slot = none ∧
      scene.unequipItem items slot = (scene, .ok none)) ∨
    (∃ item, scene.inventory.item? slot = some item ∧ item.isCursed = false ∧
      (∀ effect ∈ item.onUnequip, effect.ItemKnown items) ∧
      scene.unequipItem items slot =
        ((settle items item.onUnequip
          { scene with inventory := (scene.inventory.remove slot).2 }).1, .ok (some item))) := by
  rw [unequipItem]
  split
  next beyond => exact .inl ⟨_, .outside beyond, rfl⟩
  next within =>
    split
    next free => exact .inr (.inl ⟨Nat.lt_of_not_le within, free, rfl⟩)
    next item carried =>
      split
      next isCursed => exact .inl ⟨_, .cursed item carried isCursed, rfl⟩
      next notCursed =>
        have free := Bool.eq_false_iff.mpr notCursed
        split
        next id unknown =>
          exact .inl
            ⟨_, .unknown item carried free id (firstUnknown_of_unknownGrant? unknown), rfl⟩
        next noUnknown =>
          have known := unknownGrant?_eq_none_iff.mp noUnknown
          refine .inr (.inr ⟨item, carried, free, known, ?_⟩)
          dsimp only
          rw [sound.settle_eq known]

end Gamebook
