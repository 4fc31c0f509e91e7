/-
This file follows the calls in which effects are settled. An item that finds a slot has its equip
effects settled before the next effect has its turn, and these may grant further items, also in
circles. Every such descent takes a free slot and none is freed on the way, so that it always ends.
-/

import Gamebook.Proofs.Scene.Execution

namespace Gamebook

/-- This is how effects were settled, one after the other. Only a grant that finds a slot leads to
the calls for its equip effects. -/
inductive Course where
  | done
  | plain (effect : Effect) (rest : Course)
  | dropped (item : Item) (rest : Course)
  | placed (item : Item) (equipped rest : Course)
  deriving DecidableEq

namespace Course

/-- These are all effects that were settled, in the order in which they came. -/
def executed : Course → List Effect
  | done => []
  | plain effect rest => effect :: rest.executed
  | dropped item rest => .grantItem item.id :: rest.executed
  | placed item equipped rest => .grantItem item.id :: (equipped.executed ++ rest.executed)

/-- These are all items that found a slot, however deep their grants were nested. -/
def placedItems : Course → List Item
  | done => []
  | plain _ rest => rest.placedItems
  | dropped _ rest => rest.placedItems
  | placed item equipped rest => item :: (equipped.placedItems ++ rest.placedItems)

/-- This is how deep grants were nested. A grant that drops its item counts as well. -/
def depth : Course → Nat
  | done => 0
  | plain _ rest => rest.depth
  | dropped _ rest => max 1 rest.depth
  | placed _ equipped rest => max (equipped.depth + 1) rest.depth

/-- Every level but the last one placed an item. -/
theorem depth_le (course : Course) : course.depth ≤ course.placedItems.length + 1 := by
  induction course with
  | done => simp [depth]
  | plain effect rest inductionHypothesis => exact inductionHypothesis
  | dropped item rest inductionHypothesis =>
      simp only [depth, placedItems]
      omega
  | placed item equipped rest equippedHypothesis restHypothesis =>
      simp only [depth, placedItems, List.length_cons, List.length_append]
      omega

/-- A course is run from one inventory to another. The calls for the equip effects begin with the
slot filled, and the next effect finds whatever inventory they leave. -/
inductive Runs (items : ItemCatalog) : Inventory → List Effect → Course → Inventory → Prop
  | done {inventory : Inventory} : Runs items inventory [] .done inventory
  | plain {inventory after : Inventory} {effect : Effect} {rest : List Effect} {course : Course}
      (grantless : ∀ id, effect ≠ .grantItem id) (others : Runs items inventory rest course after) :
      Runs items inventory (effect :: rest) (.plain effect course) after
  | dropped {inventory after : Inventory} {id : String} {item : Item} {rest : List Effect}
      {course : Course} (found : items.find? id = some item) (full : inventory.add? item = none)
      (others : Runs items inventory rest course after) :
      Runs items inventory (.grantItem id :: rest) (.dropped item course) after
  | placed {inventory filled between after : Inventory} {slot : Fin 3} {id : String} {item : Item}
      {rest : List Effect} {equipped course : Course} (found : items.find? id = some item)
      (added : inventory.add? item = some (slot, filled))
      (equips : Runs items filled item.onEquip equipped between)
      (others : Runs items between rest course after) :
      Runs items inventory (.grantItem id :: rest) (.placed item equipped course) after

end Course

theorem Item.id_of_find? {items : ItemCatalog} {id : String} {item : Item}
    (found : items.find? id = some item) : item.id = id :=
  (Catalog.mem_of_find? found).2

namespace Course.Runs

variable {items : ItemCatalog} {inventory after : Inventory} {effects : List Effect}
  {course : Course}

/-- A course executes its effects in depth-first order. -/
theorem executes (runs : Runs items inventory effects course after) :
    Executes items inventory effects course.executed after := by
  induction runs with
  | done => exact .done
  | @plain _ _ effect _ _ grantless _ inductionHypothesis =>
      cases effect with
      | statChange stat amount => exact .next (.statChange stat amount) .done inductionHypothesis
      | grantItem id => exact absurd rfl (grantless id)
      | changeTitle title => exact .next (.changeTitle title) .done inductionHypothesis
      | triggerEvent event => exact .next (.triggerEvent event) .done inductionHypothesis
  | dropped found full _ inductionHypothesis =>
      obtain rfl := Item.id_of_find? found
      refine .next (.dropped found full) .done ?_
      rwa [Inventory.receive_of_full found full]
  | placed found added _ _ equippedHypothesis restHypothesis =>
      obtain rfl := Item.id_of_find? found
      refine .next (.placed found added) ?_ restHypothesis
      rwa [Inventory.receive_of_added found added]

/-- Every item that is placed takes one of the free slots. -/
theorem free (runs : Runs items inventory effects course after) :
    after.free + course.placedItems.length = inventory.free := by
  induction runs with
  | done => rfl
  | plain _ _ inductionHypothesis => exact inductionHypothesis
  | dropped _ _ _ inductionHypothesis => exact inductionHypothesis
  | placed _ added _ _ equippedHypothesis restHypothesis =>
      have fewer := Inventory.free_of_add? added
      simp only [placedItems, List.length_cons, List.length_append]
      omega

/-- Besides the given effects, the equip effects of every placed item are executed once. -/
theorem executed_perm (runs : Runs items inventory effects course after) :
    course.executed.Perm (effects ++ course.placedItems.flatMap Item.onEquip) := by
  rw [List.perm_iff_count]
  intro effect
  induction runs with
  | done => rfl
  | plain _ _ inductionHypothesis =>
      simp only [executed, placedItems, List.cons_append, List.count_cons, inductionHypothesis]
  | dropped found _ _ inductionHypothesis =>
      obtain rfl := Item.id_of_find? found
      simp only [executed, placedItems, List.cons_append, List.count_cons, inductionHypothesis]
  | placed found _ _ _ equippedHypothesis restHypothesis =>
      obtain rfl := Item.id_of_find? found
      simp only [executed, placedItems, List.cons_append, List.count_cons, List.count_append,
        List.flatMap_cons, List.flatMap_append] at equippedHypothesis restHypothesis ⊢
      omega

/-- A course is determined by the inventory and the effects. -/
theorem unique {other : Course} {left : Inventory} (runs : Runs items inventory effects course after)
    (again : Runs items inventory effects other left) : other = course ∧ left = after := by
  induction runs generalizing other left with
  | done =>
      cases again
      exact ⟨rfl, rfl⟩
  | plain grantless _ inductionHypothesis =>
      cases again with
      | plain _ others =>
          obtain ⟨rfl, rfl⟩ := inductionHypothesis others
          exact ⟨rfl, rfl⟩
      | dropped => exact absurd rfl (grantless _)
      | placed => exact absurd rfl (grantless _)
  | dropped found full _ inductionHypothesis =>
      cases again with
      | plain grantless => exact absurd rfl (grantless _)
      | dropped foundAgain _ others =>
          cases found.symm.trans foundAgain
          obtain ⟨rfl, rfl⟩ := inductionHypothesis others
          exact ⟨rfl, rfl⟩
      | placed foundAgain added =>
          cases found.symm.trans foundAgain
          cases full.symm.trans added
  | placed found added _ _ equippedHypothesis restHypothesis =>
      cases again with
      | plain grantless => exact absurd rfl (grantless _)
      | dropped foundAgain full =>
          cases found.symm.trans foundAgain
          cases full.symm.trans added
      | placed foundAgain addedAgain equips others =>
          cases found.symm.trans foundAgain
          cases added.symm.trans addedAgain
          obtain ⟨rfl, rfl⟩ := equippedHypothesis equips
          obtain ⟨rfl, rfl⟩ := restHypothesis others
          exact ⟨rfl, rfl⟩

end Course.Runs

/-- Whatever is executed has a course. -/
theorem Executes.exists_runs {items : ItemCatalog} {inventory after : Inventory}
    {effects executed : List Effect} (executes : Executes items inventory effects executed after) :
    ∃ course, Course.Runs items inventory effects course after := by
  induction executes with
  | done => exact ⟨.done, .done⟩
  | @next _ _ _ effect _ _ _ _ follows deeper others deeperHypothesis othersHypothesis =>
      obtain ⟨equipped, equips⟩ := deeperHypothesis
      obtain ⟨rest, continues⟩ := othersHypothesis
      cases follows with
      | dropped found full =>
          cases equips
          rw [Inventory.receive_of_full found full] at continues
          exact ⟨_, .dropped found full continues⟩
      | placed found added =>
          rw [Inventory.receive_of_added found added] at equips
          exact ⟨_, .placed found added equips continues⟩
      | _ =>
          cases equips
          exact ⟨.plain _ rest, .plain (by simp) continues⟩

/-- Effects that settle have exactly one course, and settling performs what it executes. -/
theorem exists_course {items : ItemCatalog} {effects : List Effect} {scene : Scene}
    (settled : (settle items effects scene).2 = .ok ()) :
    ∃ course,
      (∀ other left, Course.Runs items scene.inventory effects other left ↔
        other = course ∧ left = (settle items effects scene).1.inventory) ∧
      settle items effects scene = (course.executed.foldl (Scene.perform items) scene, .ok ()) := by
  obtain ⟨executed, last, executes⟩ := exists_executes settled
  obtain ⟨course, runs⟩ := executes.exists_runs
  have performs := runs.executes.settle_eq scene rfl
  have carried : last = (settle items effects scene).1.inventory := by
    rw [performs, foldl_perform_inventory]
    exact runs.executes.inventory_eq
  refine ⟨course, fun other left => ⟨fun again => ?_, ?_⟩, performs⟩
  · rw [← carried]
    exact runs.unique again
  · rintro ⟨rfl, rfl⟩
    exact carried ▸ runs

/-- Settling an effect always ends, also when items grant each other in circles. It stops at once at
an unknown item. Otherwise it places at most as many items as there are free slots, nests grants at
most one deeper, and executes the equip effects of the placed items once and nothing else. -/
theorem Catalog.Built.granting_ends {items : ItemCatalog} (built : items.Built) (effect : Effect)
    (scene : Scene) :
    (∃ id, effect = .grantItem id ∧ items.contains id = false ∧
      settle items [effect] scene = (scene, .error (.unknownItem id))) ∨
    ∃ course after,
      (∀ other left, Course.Runs items scene.inventory [effect] other left ↔
        other = course ∧ left = after.inventory) ∧
      settle items [effect] scene = (after, .ok ()) ∧
      after = course.executed.foldl (Scene.perform items) scene ∧
      course.executed.Perm (effect :: course.placedItems.flatMap Item.onEquip) ∧
      after.inventory.free + course.placedItems.length = scene.inventory.free ∧
      course.depth ≤ scene.inventory.free + 1 := by
  by_cases known : effect.ItemKnown items
  · have settled := built.sound.settle_eq (List.forall_mem_singleton.mpr known) scene
    obtain ⟨course, only, performs⟩ := exists_course (congrArg Prod.snd settled)
    have runs := (only _ _).mpr ⟨rfl, rfl⟩
    have free := runs.free
    have deep := course.depth_le
    exact .inr ⟨course, _, only, settled, congrArg Prod.fst performs, runs.executed_perm, free,
      by omega⟩
  · obtain ⟨id, rfl, unknown⟩ : ∃ id, effect = .grantItem id ∧ items.contains id = false := by
      simpa [Effect.ItemKnown] using known
    have missing : items.find? id = none := by simpa [Catalog.contains] using unknown
    exact .inl ⟨id, rfl, unknown, settle_unknown missing [] scene⟩

/-- This raven never comes without its brother, and the brother never comes without it. -/
def elderRaven : Item where
  id := "elder"
  name := "Elder Raven"
  description := "It thinks of its brother."
  art := ""
  isCursed := false
  charges := none
  onUse := []
  onEquip := [.grantItem "younger", .statChange .honor 1]
  onUnequip := []

def youngerRaven : Item :=
  { elderRaven with
    id := "younger"
    name := "Younger Raven"
    description := "It remembers its brother."
    onEquip := [.grantItem "elder"] }

def ravens : ItemCatalog := ⟨[elderRaven, youngerRaven]⟩

def freeHandedScene : Scene := { burdenedScene with inventory := Inventory.empty }

/-- The ravens call each other until the third slot is filled, and the fourth one is dropped. -/
theorem granting_ends_ravens :
    Catalog.ofList [elderRaven, youngerRaven] = .ok ravens ∧
      ∃ course after,
        Course.Runs ravens freeHandedScene.inventory [.grantItem "elder"] course after.inventory ∧
        settle ravens [.grantItem "elder"] freeHandedScene = (after, .ok ()) ∧
        course.placedItems = [elderRaven, youngerRaven, elderRaven] ∧
        course.executed = [.grantItem "elder", .grantItem "younger", .grantItem "elder",
          .grantItem "younger", .statChange .honor 1, .statChange .honor 1] ∧
        after.inventory.free = 0 ∧ course.depth = 4 := by
  have made : Catalog.ofList [elderRaven, youngerRaven] = .ok ravens := by decide
  have elder : ravens.find? "elder" = some elderRaven := by decide
  have younger : ravens.find? "younger" = some youngerRaven := by decide
  have first : Inventory.empty.add? elderRaven =
      some (0, Inventory.empty.set 0 (some elderRaven)) := rfl
  have second : (Inventory.empty.set 0 (some elderRaven)).add? youngerRaven =
      some (1, (Inventory.empty.set 0 (some elderRaven)).set 1 (some youngerRaven)) := rfl
  have third : ((Inventory.empty.set 0 (some elderRaven)).set 1 (some youngerRaven)).add? elderRaven =
      some (2, ⟨#v[some elderRaven, some youngerRaven, some elderRaven]⟩) := rfl
  have full : (⟨#v[some elderRaven, some youngerRaven, some elderRaven]⟩ : Inventory).add?
      youngerRaven = none := rfl
  have honor : ∀ id, Effect.statChange .honor 1 ≠ .grantItem id := by simp
  have runs : Course.Runs ravens freeHandedScene.inventory [.grantItem "elder"] _ _ :=
    .placed elder first
      (.placed younger second
        (.placed elder third (.dropped younger full (.plain honor .done)) .done)
        (.plain honor .done))
      .done
  rcases Catalog.Built.granting_ends (.ofList made) (.grantItem "elder") freeHandedScene with
    ⟨id, same, unknown, -⟩ | ⟨course, after, only, settled, -, -, free, -⟩
  · cases same
    rw [Catalog.contains, elder] at unknown
    cases unknown
  · obtain ⟨rfl, -⟩ := (only _ _).mp runs
    refine ⟨made, _, after, (only _ _).mpr ⟨rfl, rfl⟩, settled, rfl, rfl, ?_, rfl⟩
    have slots : freeHandedScene.inventory.free = 3 := by decide
    simp only [Course.placedItems, List.length_cons, List.length_append, List.length_nil] at free
    omega

end Gamebook
