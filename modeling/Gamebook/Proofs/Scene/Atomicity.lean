/-
This file shows that an operation that fails changes nothing, and that it fails exactly for
the reasons that can be seen before it begins.
-/

import Gamebook.Proofs.Scene.Refusal

namespace Gamebook

theorem Effect.not_itemKnown_of_unknown {items : ItemCatalog} {effects : List Effect} {id : String}
    (granted : Effect.grantItem id ∈ effects) (unknown : items.contains id = false) :
    ¬∀ effect ∈ effects, effect.ItemKnown items := by
  intro known
  have contained := known _ granted id rfl
  rw [unknown] at contained
  cases contained

/-- What is refused in an unchanged scene or else succeeds only fails by a refusal. -/
theorem refused_of_error {A : Type} {scene : Scene} {Refusal : EvaluationError → Prop}
    {result : Scene × Except EvaluationError A}
    (either : (∃ error, Refusal error ∧ result = (scene, .error error)) ∨
      ∃ value, result.2 = .ok value)
    {error : EvaluationError} (failed : result.2 = .error error) :
    Refusal error ∧ result.1 = scene := by
  rcases either with ⟨other, refusal, rfl⟩ | ⟨value, succeeded⟩
  · cases failed
    exact ⟨refusal, rfl⟩
  · rw [succeeded] at failed
    cases failed

section

variable {items : ItemCatalog} (sound : items.Sound) (scene : Scene)

include sound

/-- An option fails exactly by a cost that is too high or by a grant of an unknown item. -/
theorem EventOption.apply_fails_iff (option : EventOption) :
    (∃ error, (option.apply items scene).2 = .error error) ↔
      (∃ cost ∈ option.costs, scene.stats.get cost.stat < cost.amount) ∨
        ∃ id, Effect.grantItem id ∈ option.effects ∧ items.contains id = false := by
  rcases option.apply_cases sound scene with
    ⟨error, refusal, result⟩ | ⟨payable, known, settled, -, result⟩
  · refine iff_of_true ⟨error, by rw [result]⟩ ?_
    cases refusal with
    | unpaid cost first =>
        obtain ⟨unpaid, paid, later, same, -⟩ := first
        exact .inl ⟨cost, by simp [same], unpaid⟩
    | unknown _ id first => exact .inr ⟨id, first.granted⟩
  · refine iff_of_false (by rw [result]; simp) ?_
    rintro (⟨cost, listed, unpaid⟩ | ⟨id, granted, unknown⟩)
    · exact absurd (payable cost listed) (UInt32.not_le.mpr unpaid)
    · exact Effect.not_itemKnown_of_unknown granted unknown known

theorem EventOption.apply_failure (option : EventOption) {error : EvaluationError}
    (failed : (option.apply items scene).2 = .error error) :
    option.Refusal items scene error ∧ (option.apply items scene).1 = scene := by
  refine refused_of_error ?_ failed
  rcases option.apply_cases sound scene with refused | ⟨-, -, settled, -, result⟩
  · exact .inl refused
  · exact .inr ⟨_, by rw [result]⟩

/-- A use fails exactly outside the inventory or by a grant of an unknown item. -/
theorem Scene.useItem_fails_iff (slot : Nat) :
    (∃ error, (scene.useItem items slot).2 = .error error) ↔
      3 ≤ slot ∨ ∃ item, scene.inventory.item? slot = some item ∧
        ∃ id, Effect.grantItem id ∈ item.onUse ∧ items.contains id = false := by
  rcases scene.useItem_cases sound slot with
    ⟨error, refusal, result⟩ | ⟨within, free, result⟩ | ⟨item, carried, known, settled, -, result⟩
  · refine iff_of_true ⟨error, by rw [result]⟩ ?_
    cases refusal with
    | outside beyond => exact .inl beyond
    | unknown item carried id first => exact .inr ⟨item, carried, id, first.granted⟩
  · refine iff_of_false (by rw [result]; simp) ?_
    rintro (beyond | ⟨item, carried, -⟩)
    · omega
    · simp [free] at carried
  · refine iff_of_false (by rw [result]; simp) ?_
    rintro (beyond | ⟨other, otherCarried, id, granted, unknown⟩)
    · exact absurd (Inventory.lt_of_item? carried) (Nat.not_lt.mpr beyond)
    · cases carried.symm.trans otherCarried
      exact Effect.not_itemKnown_of_unknown granted unknown known

theorem Scene.useItem_failure (slot : Nat) {error : EvaluationError}
    (failed : (scene.useItem items slot).2 = .error error) :
    scene.UseRefusal items slot error ∧ (scene.useItem items slot).1 = scene := by
  refine refused_of_error ?_ failed
  rcases scene.useItem_cases sound slot with
    refused | ⟨-, -, result⟩ | ⟨item, -, -, settled, -, result⟩
  · exact .inl refused
  · exact .inr ⟨_, by rw [result]⟩
  · exact .inr ⟨_, by rw [result]⟩

/-- An unequipping fails exactly outside the inventory, by a curse, or by a grant of an
unknown item. -/
theorem Scene.unequipItem_fails_iff (slot : Nat) :
    (∃ error, (scene.unequipItem items slot).2 = .error error) ↔
      3 ≤ slot ∨ ∃ item, scene.inventory.item? slot = some item ∧ (item.isCursed = true ∨
        ∃ id, Effect.grantItem id ∈ item.onUnequip ∧ items.contains id = false) := by
  rcases scene.unequipItem_cases sound slot with
    ⟨error, refusal, result⟩ | ⟨within, free, result⟩ | ⟨item, carried, free, known, result⟩
  · refine iff_of_true ⟨error, by rw [result]⟩ ?_
    cases refusal with
    | outside beyond => exact .inl beyond
    | cursed item carried isCursed => exact .inr ⟨item, carried, .inl isCursed⟩
    | unknown item carried _ id first => exact .inr ⟨item, carried, .inr ⟨id, first.granted⟩⟩
  · refine iff_of_false (by rw [result]; simp) ?_
    rintro (beyond | ⟨item, carried, -⟩)
    · omega
    · simp [free] at carried
  · refine iff_of_false (by rw [result]; simp) ?_
    rintro (beyond | ⟨other, otherCarried, isCursed | ⟨id, granted, unknown⟩⟩)
    · exact absurd (Inventory.lt_of_item? carried) (Nat.not_lt.mpr beyond)
    · cases carried.symm.trans otherCarried
      simp [free] at isCursed
    · cases carried.symm.trans otherCarried
      exact Effect.not_itemKnown_of_unknown granted unknown known

theorem Scene.unequipItem_failure (slot : Nat) {error : EvaluationError}
    (failed : (scene.unequipItem items slot).2 = .error error) :
    scene.UnequipRefusal items slot error ∧ (scene.unequipItem items slot).1 = scene := by
  refine refused_of_error ?_ failed
  rcases scene.unequipItem_cases sound slot with
    refused | ⟨-, -, result⟩ | ⟨item, -, -, -, result⟩
  · exact .inl refused
  · exact .inr ⟨_, by rw [result]⟩
  · exact .inr ⟨_, by rw [result]⟩

end

/-- An operation fails exactly for the reasons that can be seen before it begins. The error names
the first of them, and the scene stays as it was. -/
theorem Catalog.Built.failures_exact_and_atomic {items : ItemCatalog} (built : items.Built)
    (scene : Scene) :
    (∀ option : EventOption,
      ((∃ error, (option.apply items scene).2 = .error error) ↔
        (∃ cost ∈ option.costs, scene.stats.get cost.stat < cost.amount) ∨
          ∃ id, Effect.grantItem id ∈ option.effects ∧ items.contains id = false) ∧
      ∀ error, (option.apply items scene).2 = .error error →
        option.Refusal items scene error ∧ (option.apply items scene).1 = scene) ∧
    (∀ slot,
      ((∃ error, (scene.useItem items slot).2 = .error error) ↔
        3 ≤ slot ∨ ∃ item, scene.inventory.item? slot = some item ∧
          ∃ id, Effect.grantItem id ∈ item.onUse ∧ items.contains id = false) ∧
      ∀ error, (scene.useItem items slot).2 = .error error →
        scene.UseRefusal items slot error ∧ (scene.useItem items slot).1 = scene) ∧
    (∀ slot,
      ((∃ error, (scene.unequipItem items slot).2 = .error error) ↔
        3 ≤ slot ∨ ∃ item, scene.inventory.item? slot = some item ∧ (item.isCursed = true ∨
          ∃ id, Effect.grantItem id ∈ item.onUnequip ∧ items.contains id = false)) ∧
      ∀ error, (scene.unequipItem items slot).2 = .error error →
        scene.UnequipRefusal items slot error ∧ (scene.unequipItem items slot).1 = scene) := by
  have sound := built.sound
  refine ⟨fun option => ⟨option.apply_fails_iff sound scene, fun _ failed => ?_⟩,
    fun slot => ⟨scene.useItem_fails_iff sound slot, fun _ failed => ?_⟩,
    fun slot => ⟨scene.unequipItem_fails_iff sound slot, fun _ failed => ?_⟩⟩
  · exact option.apply_failure sound scene failed
  · exact scene.useItem_failure sound slot failed
  · exact scene.unequipItem_failure sound slot failed

/-- This horn grants one more of its kind whenever it finds a slot. -/
def echoingHorn : Item where
  id := "horn"
  name := "Horn"
  description := "It never sounds only once."
  art := ""
  isCursed := false
  charges := some 1
  onUse := []
  onEquip := [.grantItem "horn"]
  onUnequip := []

/-- The horn that is carried here came from elsewhere and grants what nobody knows. -/
def hauntedScene : Scene where
  stats := Stats.zero
  inventory :=
    ⟨#v[some { echoingHorn with onUse := [.statChange .food 5, .grantItem "ghost"] }, none, none]⟩
  title := "Thrall"
  location := none
  triggered := some "feast"

theorem failures_exact_and_atomic_ghost :
    Catalog.ofList [echoingHorn] = .ok ⟨[echoingHorn]⟩ ∧
      (hauntedScene.useItem ⟨[echoingHorn]⟩ 0).2 = .error (.unknownItem "ghost") ∧
      hauntedScene.UseRefusal ⟨[echoingHorn]⟩ 0 (.unknownItem "ghost") ∧
      (hauntedScene.useItem ⟨[echoingHorn]⟩ 0).1 = hauntedScene := by
  have made : Catalog.ofList [echoingHorn] = .ok ⟨[echoingHorn]⟩ := by decide
  have failed : (hauntedScene.useItem ⟨[echoingHorn]⟩ 0).2 = .error (.unknownItem "ghost") := by rfl
  have claimed := Catalog.Built.failures_exact_and_atomic (.ofList made) hauntedScene
  exact ⟨made, failed, (claimed.2.1 0).2 _ failed⟩

end Gamebook
