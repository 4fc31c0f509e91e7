/-
This file lists the operations that a game performs on a scene. It says how each of them moves the
items of the inventory and what it leaves asked for.
-/

import Gamebook.Proofs.Scene.Refusal

namespace Gamebook

/-- A game performs these operations in any order. -/
inductive Operation where
  | apply (option : EventOption)
  /-- A single effect is settled outside of any option. -/
  | settle (effect : Effect)
  | useItem (slot : Nat)
  | unequipItem (slot : Nat)
  | gain (stat : Stat) (amount : UInt32)
  | spend (stat : Stat) (amount : UInt32)
  /-- The scene opens anew at another place, and no event is asked for. -/
  | reopen (location : Option String)

/-- This is what an operation answers when it succeeds. -/
inductive Outcome where
  | done
  | resolved (resolution : Resolution)
  | unequipped (item : Option Item)

namespace Operation

def run (items : ItemCatalog) (scene : Scene) :
    Operation → Scene × Except EvaluationError Outcome
  | .apply option =>
      ((option.apply items scene).1, (option.apply items scene).2.map .resolved)
  | .settle effect =>
      ((Gamebook.settle items [effect] scene).1,
        (Gamebook.settle items [effect] scene).2.map fun _ => .done)
  | .useItem slot =>
      ((scene.useItem items slot).1, (scene.useItem items slot).2.map fun _ => .done)
  | .unequipItem slot =>
      ((scene.unequipItem items slot).1, (scene.unequipItem items slot).2.map .unequipped)
  | .gain stat amount => ({ scene with stats := scene.stats.add stat amount }, .ok .done)
  | .spend stat amount => ({ scene with stats := scene.stats.spend stat amount }, .ok .done)
  | .reopen location => ({ scene with location := location, triggered := none }, .ok .done)

/-- These are the effects that the operation names by itself. -/
def effects (scene : Scene) : Operation → List Effect
  | .apply option => option.effects
  | .settle effect => [effect]
  | .useItem slot => (scene.inventory.item? slot).elim [] Item.onUse
  | .unequipItem slot => (scene.inventory.item? slot).elim [] Item.onUnequip
  | .gain _ _ => []
  | .spend _ _ => []
  | .reopen _ => []

/-- This is the scene in which the effects are settled. By then the costs are paid, and an item
that is taken off has left its slot. -/
def opened (scene : Scene) : Operation → Scene
  | .apply option => { scene with stats := scene.stats.pay option.costs }
  | .settle _ => scene
  | .useItem _ => scene
  | .unequipItem slot => { scene with inventory := (scene.inventory.remove slot).2 }
  | .gain stat amount => { scene with stats := scene.stats.add stat amount }
  | .spend stat amount => { scene with stats := scene.stats.spend stat amount }
  | .reopen location => { scene with location := location, triggered := none }

/-- Only a use changes something after its effects are settled. -/
def closed (settled : Scene) : Operation → Scene
  | .useItem slot => { settled with inventory := settled.inventory.spendCharge slot }
  | _ => settled

/-- An operation that is not refused answers this. -/
def answer (items : ItemCatalog) (scene settled : Scene) : Operation → Outcome
  | .apply option => .resolved {
      text := option.resolutionText
      lines := effectLines items option.effects
      nextEvent := option.nextEvent.or settled.triggered }
  | .unequipItem slot => .unequipped (scene.inventory.item? slot)
  | _ => .done

/-- These are the effects that the operation performs when it is not refused. -/
def performed (items : ItemCatalog) (scene : Scene) (operation : Operation) : List Effect :=
  Gamebook.performed items (operation.effects scene) (operation.opened scene).inventory

/-- An operation is refused for the reasons of its kind. -/
inductive Refusal (items : ItemCatalog) (scene : Scene) : Operation → EvaluationError → Prop
  | apply {option : EventOption} {error : EvaluationError}
      (refusal : option.Refusal items scene error) : Refusal items scene (.apply option) error
  | settle {id : String} (unknown : items.contains id = false) :
      Refusal items scene (.settle (.grantItem id)) (.unknownItem id)
  | useItem {slot : Nat} {error : EvaluationError}
      (refusal : scene.UseRefusal items slot error) : Refusal items scene (.useItem slot) error
  | unequipItem {slot : Nat} {error : EvaluationError}
      (refusal : scene.UnequipRefusal items slot error) :
      Refusal items scene (.unequipItem slot) error

/-- An operation is refused in an unchanged scene, or its effects are settled in the opened scene. -/
theorem run_cases {items : ItemCatalog} (sound : items.Sound) (operation : Operation)
    (scene : Scene) :
    (∃ error, Refusal items scene operation error ∧
      operation.run items scene = (scene, .error error)) ∨
    ∃ settled, settled = (Gamebook.settle items (operation.effects scene) (operation.opened scene)).1 ∧
      operation.run items scene =
        (operation.closed settled, .ok (operation.answer items scene settled)) := by
  cases operation with
  | apply option =>
      rcases option.apply_cases sound scene with
        ⟨error, refusal, result⟩ | ⟨-, -, settled, same, result⟩
      · exact .inl ⟨error, .apply refusal, by rw [run, result]; rfl⟩
      · exact .inr ⟨settled, same, by rw [run, result]; rfl⟩
  | settle effect =>
      by_cases known : effect.ItemKnown items
      · have settled := sound.settle_eq (List.forall_mem_singleton.mpr known) scene
        exact .inr ⟨_, rfl, by rw [run, settled]; rfl⟩
      · obtain ⟨id, rfl, unknown⟩ : ∃ id, effect = .grantItem id ∧ items.contains id = false := by
          simpa [Effect.ItemKnown] using known
        have missing : items.find? id = none := by simpa [Catalog.contains] using unknown
        exact .inl ⟨_, .settle unknown, by rw [run, settle_unknown missing]; rfl⟩
  | useItem slot =>
      rcases scene.useItem_cases sound slot with
        ⟨error, refusal, result⟩ | ⟨-, free, result⟩ | ⟨item, carried, -, settled, same, result⟩
      · exact .inl ⟨error, .useItem refusal, by rw [run, result]; rfl⟩
      · refine .inr ⟨scene, by rw [effects, free, Option.elim_none, Gamebook.settle]; rfl, ?_⟩
        rw [run, result, closed, Inventory.spendCharge_of_free free]
        rfl
      · exact .inr ⟨settled, by rw [same, effects, carried]; rfl, by rw [run, result]; rfl⟩
  | unequipItem slot =>
      rcases scene.unequipItem_cases sound slot with
        ⟨error, refusal, result⟩ | ⟨-, free, result⟩ | ⟨item, carried, -, -, result⟩
      · exact .inl ⟨error, .unequipItem refusal, by rw [run, result]; rfl⟩
      · refine .inr ⟨scene, ?_, by rw [run, result, answer, free]; rfl⟩
        rw [effects, free, Option.elim_none, Gamebook.settle, opened, Inventory.remove_of_free free]
      · refine .inr ⟨_, rfl, ?_⟩
        rw [run, result, effects, answer, carried]
        rfl
  | gain stat amount => exact .inr ⟨_, rfl, by rw [effects, Gamebook.settle]; rfl⟩
  | spend stat amount => exact .inr ⟨_, rfl, by rw [effects, Gamebook.settle]; rfl⟩
  | reopen location => exact .inr ⟨_, rfl, by rw [effects, Gamebook.settle]; rfl⟩

/-- This is how an operation with a result moves the items of an inventory. An option and an effect
fill free slots. A use then spends a charge of the item that is used, and an unequipping first takes
an item out that is not cursed. Nothing moves when the slot is free or the operation is refused. -/
inductive Moves (items : ItemCatalog) (before : Inventory) :
    Operation → Except EvaluationError Outcome → Inventory → Prop
  | refused {operation : Operation} {error : EvaluationError} :
      Moves items before operation (.error error) before
  | apply {option : EventOption} {resolution : Resolution} {after : Inventory}
      (fills : before.Fills items after) :
      Moves items before (.apply option) (.ok (.resolved resolution)) after
  | settle {effect : Effect} {after : Inventory} (fills : before.Fills items after) :
      Moves items before (.settle effect) (.ok .done) after
  | use {slot : Nat} {item : Item} {filled : Inventory}
      (carried : before.item? slot = some item) (fills : before.Fills items filled) :
      Moves items before (.useItem slot) (.ok .done) (filled.spendCharge slot)
  | useNothing {slot : Nat} (free : before.item? slot = none) :
      Moves items before (.useItem slot) (.ok .done) before
  | unequip (slot : Fin 3) {item : Item} {after : Inventory}
      (carried : before.item? slot.val = some item) (free : item.isCursed = false)
      (fills : (before.set slot none).Fills items after) :
      Moves items before (.unequipItem slot.val) (.ok (.unequipped (some item))) after
  | unequipNothing {slot : Nat} (free : before.item? slot = none) :
      Moves items before (.unequipItem slot) (.ok (.unequipped none)) before
  | gain {stat : Stat} {amount : UInt32} : Moves items before (.gain stat amount) (.ok .done) before
  | spend {stat : Stat} {amount : UInt32} : Moves items before (.spend stat amount) (.ok .done) before
  | reopen {location : Option String} : Moves items before (.reopen location) (.ok .done) before

/-- Every operation moves items in one of these ways. -/
theorem moves_run {items : ItemCatalog} (sound : items.Sound) (operation : Operation)
    (scene : Scene) :
    Moves items scene.inventory operation (operation.run items scene).2
      (operation.run items scene).1.inventory := by
  cases operation with
  | apply option =>
      rcases option.apply_cases sound scene with
        ⟨error, -, result⟩ | ⟨-, -, settled, rfl, result⟩
      · simp only [run, result]
        exact .refused
      · simp only [run, result]
        exact .apply (settle_fills items option.effects
          { scene with stats := scene.stats.pay option.costs })
  | settle effect =>
      have fills := settle_fills items [effect] scene
      rcases run_cases sound (.settle effect) scene with
        ⟨error, -, result⟩ | ⟨settled, rfl, result⟩
      · rw [result]
        exact .refused
      · rw [result]
        exact .settle fills
  | useItem slot =>
      rcases scene.useItem_cases sound slot with
        ⟨error, -, result⟩ | ⟨-, free, result⟩ | ⟨item, carried, -, settled, rfl, result⟩
      · simp only [run, result]
        exact .refused
      · simp only [run, result]
        exact .useNothing free
      · simp only [run, result]
        exact .use carried (settle_fills items item.onUse scene)
  | unequipItem slot =>
      rcases scene.unequipItem_cases sound slot with
        ⟨error, -, result⟩ | ⟨-, free, result⟩ | ⟨item, carried, free, -, result⟩
      · simp only [run, result]
        exact .refused
      · simp only [run, result]
        exact .unequipNothing free
      · have within := Inventory.lt_of_item? carried
        simp only [run, result, Inventory.remove_eq_of_item? carried free]
        exact .unequip ⟨slot, within⟩ carried free (settle_fills items item.onUnequip
          { scene with inventory := scene.inventory.set ⟨slot, within⟩ none })
  | gain stat amount => exact .gain
  | spend stat amount => exact .spend
  | reopen location => exact .reopen

/-- An operation only fails for an unknown item that its own effects grant. -/
theorem unknown_of_run {items : ItemCatalog} (sound : items.Sound) {operation : Operation}
    {scene : Scene} {id : String}
    (failed : (operation.run items scene).2 = .error (.unknownItem id)) :
    Effect.grantItem id ∈ operation.effects scene ∧ items.contains id = false := by
  rcases operation.run_cases sound scene with ⟨error, refusal, result⟩ | ⟨settled, -, result⟩
  · rw [result] at failed
    cases failed
    cases refusal with
    | apply refusal =>
        cases refusal with
        | unknown payable id first => exact first.granted
    | settle unknown => exact ⟨List.mem_singleton_self _, unknown⟩
    | useItem refusal =>
        cases refusal with
        | unknown item carried id first =>
            rw [effects, carried]
            exact first.granted
    | unequipItem refusal =>
        cases refusal with
        | unknown item carried free id first =>
            rw [effects, carried]
            exact first.granted
  · rw [result] at failed
    cases failed

/-- An event that is asked for was asked for before or by a performed effect. -/
theorem triggered_of_run {items : ItemCatalog} (sound : items.Sound) {operation : Operation}
    {scene : Scene} {id : String}
    (asked : (operation.run items scene).1.triggered = some id) :
    scene.triggered = some id ∨ Effect.triggerEvent id ∈ operation.performed items scene := by
  rcases operation.run_cases sound scene with ⟨error, -, result⟩ | ⟨settled, rfl, result⟩
  · rw [result] at asked
    exact .inl asked
  · rw [result] at asked
    have kept : ∀ settled, (operation.closed settled).triggered = settled.triggered := by
      cases operation <;> exact fun _ => rfl
    rw [kept] at asked
    rcases settle_triggered asked with before | listed
    · refine .inl ?_
      cases operation with
      | reopen location => cases before
      | _ => exact before
    · exact .inr listed

/-- Only an option is resolved. Its chain wins over the event that is asked for in the end. -/
theorem nextEvent_of_run {items : ItemCatalog} (sound : items.Sound) {operation : Operation}
    {scene : Scene} {resolution : Resolution}
    (resolved : (operation.run items scene).2 = .ok (.resolved resolution)) :
    ∃ option, operation = .apply option ∧
      resolution.nextEvent = option.nextEvent.or (operation.run items scene).1.triggered := by
  rcases operation.run_cases sound scene with ⟨error, -, result⟩ | ⟨settled, -, result⟩
  · rw [result] at resolved
    cases resolved
  · rw [result] at resolved ⊢
    cases operation with
    | apply option =>
        cases resolved
        exact ⟨option, rfl, rfl⟩
    | _ => cases resolved

end Operation

/-- This is the scene after a list of operations, some of which may have failed. -/
def Scene.play (items : ItemCatalog) (scene : Scene) (operations : List Operation) : Scene :=
  operations.foldl (fun scene operation => (operation.run items scene).1) scene

@[simp] theorem Scene.play_append_singleton (items : ItemCatalog) (scene : Scene)
    (operations : List Operation) (operation : Operation) :
    scene.play items (operations ++ [operation]) =
      (operation.run items (scene.play items operations)).1 := by
  simp [play]

/-- What one operation keeps, a whole list of operations keeps. -/
theorem Scene.play_induction {items : ItemCatalog} {motive : Scene → Prop} {scene : Scene}
    (start : motive scene) {operations : List Operation}
    (step : ∀ operation ∈ operations, ∀ scene, motive scene →
      motive (operation.run items scene).1) : motive (scene.play items operations) :=
  List.foldlRecOn (motive := motive) operations _ start
    fun later kept operation listed => step operation listed later kept

end Gamebook
