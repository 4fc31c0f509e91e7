/-
This file takes the settling of effects apart into single effects.
Which effects are performed depends on the inventory alone, and settling performs them in order.
-/

import Gamebook.Proofs.Catalog.References
import Gamebook.Proofs.Catalog.Soundness
import Gamebook.Proofs.Inventory.Filling
import Gamebook.Scene

namespace Gamebook

/-- This is the inventory after one effect, without the equip effects of a granted item. -/
def Inventory.receive (items : ItemCatalog) (inventory : Inventory) : Effect → Inventory
  | .grantItem id =>
      match (items.find? id).bind inventory.add? with
      | none => inventory
      | some placed => placed.2
  | _ => inventory

theorem Inventory.receive_of_full {items : ItemCatalog} {inventory : Inventory} {id : String}
    {item : Item} (found : items.find? id = some item) (full : inventory.add? item = none) :
    inventory.receive items (.grantItem id) = inventory := by
  simp [receive, found, full]

theorem Inventory.receive_of_added {items : ItemCatalog} {inventory filled : Inventory} {id : String}
    {item : Item} {slot : Fin 3} (found : items.find? id = some item)
    (added : inventory.add? item = some (slot, filled)) :
    inventory.receive items (.grantItem id) = filled := by
  simp [receive, found, added]

/-- This performs one effect without the equip effects of a granted item. -/
def Scene.perform (items : ItemCatalog) (scene : Scene) (effect : Effect) : Scene :=
  match effect with
  | .statChange stat amount => { scene with stats := scene.stats.change stat amount }
  | .changeTitle title => { scene with title := title }
  | .triggerEvent event => { scene with triggered := some event }
  | .grantItem _ => { scene with inventory := scene.inventory.receive items effect }

/-- These are the effects that settling performs. The equip effects of an item that finds a slot
come right after its grant, and nothing comes after a grant of an unknown item. -/
def performed (items : ItemCatalog) (effects : List Effect) (inventory : Inventory) : List Effect :=
  match effects with
  | [] => []
  | .statChange stat amount :: rest => .statChange stat amount :: performed items rest inventory
  | .changeTitle title :: rest => .changeTitle title :: performed items rest inventory
  | .triggerEvent event :: rest => .triggerEvent event :: performed items rest inventory
  | .grantItem id :: rest =>
      match items.find? id with
      | none => []
      | some item =>
          match _added : inventory.add? item with
          | none => .grantItem id :: performed items rest inventory
          | some placed => .grantItem id :: performed items (item.onEquip ++ rest) placed.2
termination_by (inventory.free, effects.length)
decreasing_by
  · exact Prod.Lex.right _ (by simp)
  · exact Prod.Lex.right _ (by simp)
  · exact Prod.Lex.right _ (by simp)
  · exact Prod.Lex.right _ (by simp)
  · have fewer := Inventory.free_of_add? _added
    exact Prod.Lex.left _ _ (by omega)

/-- An effect is followed by the equip effects of the item that it puts into a slot. -/
inductive Follows (items : ItemCatalog) (inventory : Inventory) : Effect → List Effect → Prop
  | statChange (stat : Stat) (amount : Int32) : Follows items inventory (.statChange stat amount) []
  | changeTitle (title : String) : Follows items inventory (.changeTitle title) []
  | triggerEvent (event : String) : Follows items inventory (.triggerEvent event) []
  | dropped {id : String} {item : Item} (found : items.find? id = some item)
      (full : inventory.add? item = none) : Follows items inventory (.grantItem id) []
  | placed {id : String} {item : Item} {placed : Fin 3 × Inventory}
      (found : items.find? id = some item) (added : inventory.add? item = some placed) :
      Follows items inventory (.grantItem id) item.onEquip

/-- What holds of all equip effects holds of whatever follows an effect. -/
theorem Follows.forall_following {items : ItemCatalog} {P : Effect → Prop}
    (nested : ∀ item ∈ items.entries, ∀ effect ∈ item.onEquip, P effect) {inventory : Inventory}
    {effect : Effect} {following : List Effect}
    (follows : Follows items inventory effect following) : ∀ effect ∈ following, P effect := by
  cases follows with
  | placed found added => exact nested _ (Catalog.mem_of_find? found).1
  | _ => exact List.forall_mem_nil P

/-- The first effect is performed, and settling goes on with what follows it. -/
theorem settle_next {items : ItemCatalog} {scene : Scene} {effect : Effect} {following : List Effect}
    (follows : Follows items scene.inventory effect following) (rest : List Effect) :
    settle items (effect :: rest) scene =
      settle items (following ++ rest) (scene.perform items effect) := by
  cases follows with
  | statChange => rw [settle]; rfl
  | changeTitle => rw [settle]; rfl
  | triggerEvent => rw [settle]; rfl
  | dropped found full =>
      rw [settle]
      simp only [found]
      split
      next => simp [Scene.perform, Inventory.receive_of_full found full]
      next added => simp [full] at added
  | placed found added =>
      rw [settle]
      simp only [found]
      split
      next full => simp [added] at full
      next others otherAdded =>
        cases added.symm.trans otherAdded
        simp [Scene.perform, Inventory.receive_of_added found added]

theorem performed_next {items : ItemCatalog} {inventory : Inventory} {effect : Effect}
    {following : List Effect} (follows : Follows items inventory effect following)
    (rest : List Effect) :
    performed items (effect :: rest) inventory =
      effect :: performed items (following ++ rest) (inventory.receive items effect) := by
  cases follows with
  | statChange => rw [performed]; rfl
  | changeTitle => rw [performed]; rfl
  | triggerEvent => rw [performed]; rfl
  | dropped found full =>
      rw [performed]
      simp only [found]
      split
      next => simp [Inventory.receive_of_full found full]
      next added => simp [full] at added
  | placed found added =>
      rw [performed]
      simp only [found]
      split
      next full => simp [added] at full
      next others otherAdded =>
        cases added.symm.trans otherAdded
        simp [Inventory.receive_of_added found added]

theorem settle_unknown {items : ItemCatalog} {id : String} (unknown : items.find? id = none)
    (rest : List Effect) (scene : Scene) :
    settle items (.grantItem id :: rest) scene = (scene, .error (.unknownItem id)) := by
  simp [settle, unknown]

theorem performed_unknown {items : ItemCatalog} {id : String} (unknown : items.find? id = none)
    (rest : List Effect) (inventory : Inventory) :
    performed items (.grantItem id :: rest) inventory = [] := by
  simp [performed, unknown]

/-- The induction follows settling: it is done, or it stops at an unknown item, or it goes on with
what follows the first effect. -/
theorem settlement_induction (items : ItemCatalog) {motive : List Effect → Inventory → Prop}
    (done : ∀ inventory, motive [] inventory)
    (stopped : ∀ id rest inventory, items.find? id = none → motive (.grantItem id :: rest) inventory)
    (next : ∀ effect following rest inventory, Follows items inventory effect following →
      motive (following ++ rest) (inventory.receive items effect) →
        motive (effect :: rest) inventory)
    (effects : List Effect) (inventory : Inventory) : motive effects inventory := by
  induction effects, inventory using performed.induct items with
  | case1 inventory => exact done inventory
  | case2 inventory stat amount rest inductionHypothesis =>
      exact next _ [] rest inventory (.statChange stat amount) inductionHypothesis
  | case3 inventory title rest inductionHypothesis =>
      exact next _ [] rest inventory (.changeTitle title) inductionHypothesis
  | case4 inventory event rest inductionHypothesis =>
      exact next _ [] rest inventory (.triggerEvent event) inductionHypothesis
  | case5 inventory id rest unknown => exact stopped id rest inventory unknown
  | case6 inventory id rest item found full inductionHypothesis =>
      refine next _ [] rest inventory (.dropped found full) ?_
      simpa [Inventory.receive_of_full found full] using inductionHypothesis
  | case7 inventory id rest item found placed added inductionHypothesis =>
      refine next _ item.onEquip rest inventory (.placed found added) ?_
      simpa [Inventory.receive_of_added found added] using inductionHypothesis

@[simp] theorem Scene.perform_inventory (items : ItemCatalog) (scene : Scene) (effect : Effect) :
    (scene.perform items effect).inventory = scene.inventory.receive items effect := by
  cases effect <;> rfl

/-- Settling leaves the scene in which the performed effects end. -/
theorem settle_fst (items : ItemCatalog) (effects : List Effect) (scene : Scene) :
    (settle items effects scene).1 =
      (performed items effects scene.inventory).foldl (Scene.perform items) scene := by
  generalize carried : scene.inventory = inventory
  induction effects, inventory using settlement_induction items generalizing scene with
  | done inventory => simp [settle, performed]
  | stopped id rest inventory unknown =>
      rw [settle_unknown unknown, performed_unknown unknown, List.foldl_nil]
  | next effect following rest inventory follows inductionHypothesis =>
      rw [settle_next (carried ▸ follows), performed_next follows, List.foldl_cons]
      exact inductionHypothesis _ (by rw [Scene.perform_inventory, carried])

/-- What holds of the given effects and of all equip effects holds of every performed effect. -/
theorem forall_performed {items : ItemCatalog} {P : Effect → Prop} {effects : List Effect}
    (given : ∀ effect ∈ effects, P effect)
    (nested : ∀ item ∈ items.entries, ∀ effect ∈ item.onEquip, P effect) (inventory : Inventory) :
    ∀ effect ∈ performed items effects inventory, P effect := by
  induction effects, inventory using settlement_induction items with
  | done inventory => simp [performed]
  | stopped id rest inventory unknown => simp [performed_unknown unknown]
  | next effect following rest inventory follows inductionHypothesis =>
      rw [List.forall_mem_cons] at given
      have pending := List.forall_mem_append.mpr ⟨follows.forall_following nested, given.2⟩
      rw [performed_next follows, List.forall_mem_cons]
      exact ⟨given.1, inductionHypothesis pending⟩

/-- An item is known when it is in the catalog. Every other effect needs no item. -/
def Effect.ItemKnown (items : ItemCatalog) (effect : Effect) : Prop :=
  ∀ id, effect = .grantItem id → items.contains id = true

theorem Effect.itemKnown_of_find? {items : ItemCatalog} {id : String} {item : Item}
    (found : items.find? id = some item) : (Effect.grantItem id).ItemKnown items := by
  intro other same
  cases same
  simp [Catalog.contains, found]

/-- Settling succeeds when every grant names a known item, also among the equip effects. -/
theorem settle_snd_of_known {items : ItemCatalog} {effects : List Effect}
    (given : ∀ effect ∈ effects, effect.ItemKnown items)
    (nested : ∀ item ∈ items.entries, ∀ effect ∈ item.onEquip, effect.ItemKnown items)
    (scene : Scene) : (settle items effects scene).2 = .ok () := by
  generalize carried : scene.inventory = inventory
  induction effects, inventory using settlement_induction items generalizing scene with
  | done inventory => rw [settle]
  | stopped id rest inventory unknown =>
      have known := given _ List.mem_cons_self id rfl
      simp [Catalog.contains, unknown] at known
  | next effect following rest inventory follows inductionHypothesis =>
      rw [List.forall_mem_cons] at given
      have pending := List.forall_mem_append.mpr ⟨follows.forall_following nested, given.2⟩
      rw [settle_next (carried ▸ follows)]
      exact inductionHypothesis pending _ (by rw [Scene.perform_inventory, carried])

theorem Inventory.fills_receive (items : ItemCatalog) (inventory : Inventory) (effect : Effect) :
    Fills items inventory (inventory.receive items effect) := by
  cases effect with
  | grantItem id =>
      rw [receive]
      split
      next => exact Fills.refl items inventory
      next placed added =>
        obtain ⟨item, found, place⟩ := Option.bind_eq_some_iff.mp added
        exact Fills.add? (Catalog.mem_of_find? found).1 place
  | _ => exact Fills.refl items inventory

/-- Settling only ever fills free slots. -/
theorem settle_fills (items : ItemCatalog) (effects : List Effect) (scene : Scene) :
    Inventory.Fills items scene.inventory (settle items effects scene).1.inventory := by
  rw [settle_fst]
  refine List.foldlRecOn (motive := fun later : Scene =>
    Inventory.Fills items scene.inventory later.inventory)
    _ _ (Inventory.Fills.refl items _) fun later filled effect _ => ?_
  rw [Scene.perform_inventory]
  exact filled.trans (later.inventory.fills_receive items effect)

/-- An event that is asked for after settling was asked for before or by a performed effect. -/
theorem settle_triggered {items : ItemCatalog} {effects : List Effect} {scene : Scene} {id : String}
    (asked : (settle items effects scene).1.triggered = some id) :
    scene.triggered = some id ∨ Effect.triggerEvent id ∈ performed items effects scene.inventory := by
  rw [settle_fst] at asked
  revert asked
  refine List.foldlRecOn (motive := fun later : Scene => later.triggered = some id → _)
    _ _ .inl fun later inductionHypothesis effect listed asked => ?_
  cases effect with
  | triggerEvent event =>
      cases asked
      exact .inr listed
  | _ => exact inductionHypothesis asked

end Gamebook
