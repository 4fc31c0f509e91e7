/-
This file compares what a resolution tells of gifts with the items that found a slot. The lines are
written down for the effects as they stand in the option, so that they also name an item that was
dropped. As no slot is freed in the meantime, the gifts that are only told of come last.
-/

import Gamebook.Proofs.Scene.Course

namespace Gamebook

/-- These are the items that the given effects put into slots by themselves. -/
def Course.ownPlaced : Course → List Item
  | done => []
  | plain _ rest => rest.ownPlaced
  | dropped _ rest => rest.ownPlaced
  | placed item _ rest => item :: rest.ownPlaced

/-- These are the items that the given effects grant by themselves and that found no slot. -/
def Course.ownDropped : Course → List Item
  | done => []
  | plain _ rest => rest.ownDropped
  | dropped item rest => item :: rest.ownDropped
  | placed _ _ rest => rest.ownDropped

/-- This is what a line says of a gift. -/
def Item.giftText (item : Item) : String :=
  "You got " ++ item.name

/-- This says whether a line reads like one about a gift. -/
def EffectLine.tellsOfGift (line : EffectLine) : Bool :=
  "You got ".toList.isPrefixOf line.text.toList

/-- These are the texts of all lines about gifts. -/
def giftTexts (lines : List EffectLine) : List String :=
  (lines.filter EffectLine.tellsOfGift).map EffectLine.text

theorem Course.ownPlaced_sublist (course : Course) : course.ownPlaced.Sublist course.placedItems := by
  induction course with
  | done => exact .slnil
  | plain effect rest inductionHypothesis => exact inductionHypothesis
  | dropped item rest inductionHypothesis => exact inductionHypothesis
  | placed item equipped rest _ inductionHypothesis =>
      exact (inductionHypothesis.trans (List.sublist_append_right _ _)).cons_cons item

/-- A full inventory takes nothing more. -/
theorem Course.Runs.ownPlaced_of_full {items : ItemCatalog} {inventory after : Inventory}
    {effects : List Effect} {course : Course} (runs : Runs items inventory effects course after)
    (full : inventory.free = 0) : course.ownPlaced = [] := by
  have free := runs.free
  have nothing : course.placedItems = [] := List.length_eq_zero_iff.mp (by omega)
  exact List.sublist_nil.mp (nothing ▸ course.ownPlaced_sublist)

/-- After a gift was dropped the inventory is full. -/
theorem Course.Runs.free_of_ownDropped {items : ItemCatalog} {inventory after : Inventory}
    {effects : List Effect} {course : Course} (runs : Runs items inventory effects course after)
    (dropped : course.ownDropped ≠ []) : after.free = 0 := by
  induction runs with
  | done => exact absurd rfl dropped
  | plain _ _ inductionHypothesis => exact inductionHypothesis dropped
  | dropped _ full others _ =>
      have free := others.free
      have none := Inventory.add?_eq_none_iff.mp full
      omega
  | placed _ _ _ _ _ inductionHypothesis => exact inductionHypothesis dropped

theorem Effect.text?_grant {items : ItemCatalog} {id : String} {item : Item}
    (found : items.find? id = some item) :
    (Effect.grantItem id).text? items = some item.giftText := by
  simp [text?, found, Item.giftText, toString]

theorem tellsOfGift_giftText (item : Item) (isPositive : Bool) :
    EffectLine.tellsOfGift ⟨item.giftText, isPositive⟩ = true := by
  simp [EffectLine.tellsOfGift, Item.giftText]

/-- No other effect has a text that reads like a gift. -/
theorem tellsOfGift_of_grantless {items : ItemCatalog} {effect : Effect} {text : String}
    (grantless : ∀ id, effect ≠ .grantItem id) (told : effect.text? items = some text)
    (isPositive : Bool) : EffectLine.tellsOfGift ⟨text, isPositive⟩ = false := by
  cases effect with
  | statChange stat amount =>
      -- The text begins with the sign of the amount.
      cases told
      cases amount.toInt with
      | ofNat gain => simp [EffectLine.tellsOfGift, toString, List.isPrefixOf]
      | negSucc loss => simp [EffectLine.tellsOfGift, toString, Int.repr, List.isPrefixOf]
  | grantItem id => exact absurd rfl (grantless id)
  | changeTitle title =>
      cases told
      simp [EffectLine.tellsOfGift, toString, List.isPrefixOf]
  | triggerEvent event => cases told

theorem giftTexts_grant {items : ItemCatalog} {id : String} {item : Item}
    (found : items.find? id = some item) (rest : List Effect) :
    giftTexts (effectLines items (.grantItem id :: rest)) =
      item.giftText :: giftTexts (effectLines items rest) := by
  simp [giftTexts, effectLines, Effect.text?_grant found, tellsOfGift_giftText]

theorem giftTexts_grantless {items : ItemCatalog} {effect : Effect}
    (grantless : ∀ id, effect ≠ .grantItem id) (rest : List Effect) :
    giftTexts (effectLines items (effect :: rest)) = giftTexts (effectLines items rest) := by
  cases told : effect.text? items with
  | none => simp [giftTexts, effectLines, told]
  | some text =>
      have reads := tellsOfGift_of_grantless grantless told effect.isPositive
      simp [giftTexts, effectLines, told, reads]

/-- The lines name the gifts that found a slot and then those that were dropped. -/
theorem Course.Runs.giftTexts_eq {items : ItemCatalog} {inventory after : Inventory}
    {effects : List Effect} {course : Course} (runs : Runs items inventory effects course after) :
    giftTexts (effectLines items effects) =
      (course.ownPlaced ++ course.ownDropped).map Item.giftText := by
  induction runs with
  | done => rfl
  | plain grantless _ inductionHypothesis =>
      rw [giftTexts_grantless grantless, inductionHypothesis]
      rfl
  | @dropped _ _ _ item _ rest found full others inductionHypothesis =>
      have none := others.ownPlaced_of_full (Inventory.add?_eq_none_iff.mp full)
      rw [none, List.nil_append] at inductionHypothesis
      rw [giftTexts_grant found, inductionHypothesis, ownPlaced, ownDropped, none]
      rfl
  | placed found _ _ _ _ inductionHypothesis =>
      rw [giftTexts_grant found, inductionHypothesis]
      rfl

/-- Effects that have a course grant nothing unknown by themselves. -/
theorem Course.Runs.itemKnown {items : ItemCatalog} {inventory after : Inventory}
    {effects : List Effect} {course : Course} (runs : Runs items inventory effects course after) :
    ∀ effect ∈ effects, effect.ItemKnown items := by
  induction runs with
  | done => exact List.forall_mem_nil _
  | plain grantless _ inductionHypothesis =>
      exact List.forall_mem_cons.mpr ⟨fun id same => absurd same (grantless id), inductionHypothesis⟩
  | dropped found _ _ inductionHypothesis =>
      exact List.forall_mem_cons.mpr ⟨Effect.itemKnown_of_find? found, inductionHypothesis⟩
  | placed found _ _ _ _ inductionHypothesis =>
      exact List.forall_mem_cons.mpr ⟨Effect.itemKnown_of_find? found, inductionHypothesis⟩

/-- A payable option whose effects have a course is resolved. -/
theorem EventOption.apply_of_runs {option : EventOption} {items : ItemCatalog} {scene : Scene}
    {course : Course} {inventory : Inventory}
    (payable : ∀ cost ∈ option.costs, cost.amount ≤ scene.stats.get cost.stat)
    (runs : Course.Runs items scene.inventory option.effects course inventory) :
    ∃ after resolution, option.apply items scene = (after, .ok resolution) := by
  have paid : option.costs.find? (fun cost => decide (scene.stats.get cost.stat < cost.amount)) =
      none := by
    simpa [List.find?_eq_none] using payable
  have settled := runs.executes.settle_eq { scene with stats := scene.stats.pay option.costs } rfl
  rw [apply, paid, unknownGrant?_eq_none_iff.mpr runs.itemKnown]
  dsimp only
  rw [settled]
  exact ⟨_, _, rfl⟩

/-- A resolution tells of every gift of the option, whether it found a slot or was dropped. So it tells
what happened exactly when nothing was dropped, and otherwise the inventory is full in the end. -/
theorem EventOption.tells_of_every_gift (option : EventOption) (items : ItemCatalog)
    {scene after : Scene} {resolution : Resolution}
    (resolved : option.apply items scene = (after, .ok resolution)) :
    ∃ course,
      (∀ other left, Course.Runs items scene.inventory option.effects other left ↔
        other = course ∧ left = after.inventory) ∧
      giftTexts resolution.lines = (course.ownPlaced ++ course.ownDropped).map Item.giftText ∧
      (giftTexts resolution.lines = course.ownPlaced.map Item.giftText ↔ course.ownDropped = []) ∧
      (course.ownDropped ≠ [] → after.inventory.free = 0) := by
  obtain ⟨settled, rfl⟩ := resolution_of_apply resolved
  obtain ⟨course, only, -⟩ := exists_course (congrArg Prod.snd settled)
  rw [settled] at only
  have runs := (only _ _).mpr ⟨rfl, rfl⟩
  have told := runs.giftTexts_eq
  refine ⟨course, only, told, ?_, runs.free_of_ownDropped⟩
  simp [told]

/-- The hero carries as many drums as he can. -/
def ladenScene : Scene :=
  { burdenedScene with inventory := ⟨#v[some warDrum, some warDrum, some warDrum]⟩ }

def takeDrum : EventOption :=
  { takeHorn with effects := [.grantItem "drum"] }

def takeHornAndDrum : EventOption :=
  { takeHorn with effects := [.grantItem "horn", .changeTitle "the Loud", .grantItem "drum"] }

/-- The horn takes the last slot. Its own drum is dropped, and so is the drum of the option. -/
theorem tells_of_every_gift_horn :
    ∃ after resolution course,
      takeHornAndDrum.apply ⟨[signalHorn, warDrum]⟩ burdenedScene = (after, .ok resolution) ∧
      Course.Runs ⟨[signalHorn, warDrum]⟩ burdenedScene.inventory takeHornAndDrum.effects course
        after.inventory ∧
      giftTexts resolution.lines = ["You got Horn", "You got Drum"] ∧
      course.ownPlaced = [signalHorn] ∧ course.ownDropped = [warDrum] ∧ after.inventory.free = 0 := by
  have horn : Catalog.find? (⟨[signalHorn, warDrum]⟩ : ItemCatalog) "horn" = some signalHorn := by
    decide
  have drum : Catalog.find? (⟨[signalHorn, warDrum]⟩ : ItemCatalog) "drum" = some warDrum := by
    decide
  have added : burdenedScene.inventory.add? signalHorn =
      some (1, ⟨#v[some warDrum, some signalHorn, some warDrum]⟩) := rfl
  have full : (⟨#v[some warDrum, some signalHorn, some warDrum]⟩ : Inventory).add? warDrum = none :=
    rfl
  have runs : Course.Runs ⟨[signalHorn, warDrum]⟩ burdenedScene.inventory
      takeHornAndDrum.effects _ _ :=
    .placed horn added (.plain (by simp) (.dropped drum full .done))
      (.plain (by simp) (.dropped drum full .done))
  obtain ⟨after, resolution, resolved⟩ := EventOption.apply_of_runs (by decide) runs
  obtain ⟨course, only, told, -, full⟩ :=
    takeHornAndDrum.tells_of_every_gift ⟨[signalHorn, warDrum]⟩ resolved
  obtain ⟨rfl, -⟩ := (only _ _).mp runs
  exact ⟨after, resolution, _, resolved, (only _ _).mpr ⟨rfl, rfl⟩, told, rfl, rfl,
    full (List.cons_ne_nil _ _)⟩

/-- A hero without a free hand is told of a drum that he does not get. -/
theorem told_of_dropped_drum :
    ∃ after resolution course,
      takeDrum.apply ⟨[warDrum]⟩ ladenScene = (after, .ok resolution) ∧
      Course.Runs ⟨[warDrum]⟩ ladenScene.inventory takeDrum.effects course after.inventory ∧
      after.inventory = ladenScene.inventory ∧ course.ownPlaced = [] ∧
      giftTexts resolution.lines = ["You got Drum"] := by
  have drum : Catalog.find? (⟨[warDrum]⟩ : ItemCatalog) "drum" = some warDrum := by decide
  have full : ladenScene.inventory.add? warDrum = none := rfl
  have runs : Course.Runs ⟨[warDrum]⟩ ladenScene.inventory takeDrum.effects
      (.dropped warDrum .done) ladenScene.inventory := .dropped drum full .done
  obtain ⟨after, resolution, resolved⟩ := EventOption.apply_of_runs (by decide) runs
  obtain ⟨settled, rfl⟩ := EventOption.resolution_of_apply resolved
  obtain ⟨course, only, -⟩ := exists_course (congrArg Prod.snd settled)
  rw [settled] at only
  have carried : ladenScene.inventory = after.inventory := ((only _ _).mp runs).2
  exact ⟨after, _, .dropped warDrum .done, resolved, carried.symm ▸ runs, carried.symm, rfl,
    runs.giftTexts_eq⟩

end Gamebook
