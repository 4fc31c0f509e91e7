/-
This file follows a hero who is given an item and uses it before anything else happens.
-/

import Gamebook.Proofs.Scene.Refusal
import Gamebook.Proofs.Session.Choice
import Gamebook.Proofs.Session.Prompt

namespace Gamebook

/-- An option gives an item when it is free and has no other effect. -/
structure EventOption.Gives (option : EventOption) (item : Item) : Prop where
  free : option.costs = []
  gift : option.effects = [.grantItem item.id]

/-- An item acts by an effect when it has this effect alone, each time it is used, and gives nothing by
it. -/
structure Item.ActsBy (item : Item) (effect : Effect) : Prop where
  quiet : item.onEquip = []
  single : item.onUse = [effect]
  grantless : grantedItems [effect] = []
  lasting : item.charges = none

section

variable {items : ItemCatalog} {option : EventOption} {item : Item} {effect : Effect} {scene : Scene}

/-- A gift that does nothing in its slot is all that changes. -/
theorem EventOption.Gives.apply_eq {slot : Fin 3} {filled : Inventory} (gives : option.Gives item)
    (found : items.find? item.id = some item) (quiet : item.onEquip = [])
    (added : scene.inventory.add? item = some (slot, filled)) :
    option.apply items scene = ({ scene with inventory := filled },
      .ok ⟨option.resolutionText, effectLines items [.grantItem item.id],
        option.nextEvent.or scene.triggered⟩) := by
  have known : unknownGrant? items option.effects = none := by
    rw [gives.gift, unknownGrant?_eq_none_iff]
    exact List.forall_mem_singleton.mpr (Effect.itemKnown_of_find? found)
  have settled : settle items [.grantItem item.id] scene =
      ({ scene with inventory := filled }, .ok ()) := by
    rw [settle_next (.placed found added), quiet]
    simp [settle, Scene.perform, Inventory.receive_of_added found added]
  have unpaid : { scene with stats := scene.stats.pay [] } = scene := rfl
  rw [apply]
  simp only [known]
  simp [gives.free, gives.gift, unpaid, settled]

theorem Item.ActsBy.useItem_eq {slot : Nat} (acts : item.ActsBy effect)
    (carried : scene.inventory.item? slot = some item) :
    scene.useItem items slot = (scene.perform items effect, .ok ()) := by
  have inRange : ¬ Inventory.capacity ≤ slot := Nat.not_le.mpr (Inventory.lt_of_item? carried)
  have grantless := acts.grantless
  have known : unknownGrant? items [effect] = none := by
    rw [unknownGrant?, grantless]
    rfl
  have follows : Follows items scene.inventory effect [] := by
    cases effect with
    | grantItem id => cases grantless
    | _ => constructor
  have settled : settle items [effect] scene = (scene.perform items effect, .ok ()) := by
    rw [settle_next follows, List.nil_append, settle]
  have kept : (scene.perform items effect).inventory = scene.inventory := by
    cases effect with
    | grantItem id => cases grantless
    | _ => rfl
  rw [Scene.useItem, if_neg inRange, carried]
  simp only [acts.single, known, settled]
  rw [kept, Inventory.spendCharge_of_lasting carried acts.lasting, ← kept]

end

namespace Session

section

variable {session : Session}

theorem startEvent_of_loaded {id : String} (loaded : session.content.events.contains id = true) :
    ∃ remarks, session.startEvent id = ⟨{ session with current := some id }, remarks, none⟩ := by
  obtain ⟨event, found⟩ := Option.isSome_iff_exists.mp loaded
  simp only [startEvent, showEvent, found]
  exact ⟨_, rfl⟩

/-- The story goes on with the next event, if that is loaded and the content is up to date. -/
theorem resolve_of_loaded {resolution : Resolution} (tree : FileTree)
    (sameTitle : session.player.title = session.content.context.title)
    (alive : session.player.stats.isGameOver = false)
    (loaded : ∀ id, resolution.nextEvent = some id → session.content.events.contains id = true) :
    ∃ remarks, session.resolve tree resolution =
      ⟨{ session with current := resolution.nextEvent }, remarks, none⟩ := by
  have keepsUp : session.followTitle tree = .quiet session := if_pos sameTitle
  have movesOn : ∃ remarks, session.moveOn resolution =
      ⟨{ session with current := resolution.nextEvent }, remarks, none⟩ := by
    rw [moveOn, alive]
    cases next : resolution.nextEvent with
    | none => exact ⟨_, rfl⟩
    | some id => exact startEvent_of_loaded (loaded id next)
  obtain ⟨remarks, movedOn⟩ := movesOn
  simp only [resolve, Turn.andThen, Turn.say, keepsUp, Turn.quiet, movedOn]
  exact ⟨_, rfl⟩

/-- To use an item that acts by an effect is to perform the effect. -/
theorem step_useSlot_of_actsBy {item : Item} {effect : Effect} {slot : Nat}
    (acts : item.ActsBy effect) (carried : session.player.inventory.item? slot = some item)
    (tree : FileTree) : ∃ remarks, session.step tree (.useSlot (some slot)) =
      ⟨session.afterScene (session.scene.perform session.content.items effect), remarks, none⟩ := by
  rw [step, useSlot, acts.useItem_eq carried]
  exact ⟨_, rfl⟩

end

/-- A session offers a gift when the event in progress gives an item that acts by an effect. -/
structure OffersGift (session : Session) (order : Int32) (option : EventOption) (item : Item)
    (effect : Effect) : Prop where
  offered : ∃ id event, session.current = some id ∧ session.content.events.find? id = some event ∧
    ((event.visibleOptions session.scene).find? fun option => option.order == order) = some option
  gives : option.Gives item
  found : session.content.items.find? item.id = some item
  acts : item.ActsBy effect

/-- This is the session when the hero has been given an item and the story has gone on. -/
def given (session : Session) (option : EventOption) (filled : Inventory) : Session :=
  { session with
    player := { session.player with inventory := filled }
    current := option.nextEvent }

namespace OffersGift

variable {session : Session} {order : Int32} {option : EventOption} {item : Item}
  {effect : Effect} {slot : Fin 3} {filled : Inventory}

variable (offers : session.OffersGift order option item effect)
  (added : session.player.inventory.add? item = some (slot, filled))

include offers added

theorem resolves : session.Resolves order option { session.scene with inventory := filled }
    ⟨option.resolutionText, effectLines session.content.items [.grantItem item.id],
      option.nextEvent⟩ where
  offered := offers.offered
  affordable := by
    rw [EventOption.isAffordable, offers.gives.free]
    rfl
  applied := by
    have asked : option.nextEvent.or session.scene.triggered = option.nextEvent := Option.or_none
    rw [offers.gives.apply_eq offers.found offers.acts.quiet added, asked]

variable (sameTitle : session.player.title = session.content.context.title)
  (alive : session.player.stats.isGameOver = false)
  (loaded : ∀ id, option.nextEvent = some id → session.content.events.contains id = true)

include sameTitle alive loaded

/-- A hero who is given an item goes on to the next event. -/
theorem step_choose (tree : FileTree) : ∃ remarks,
    session.step tree (.choose order) = ⟨session.given option filled, remarks, none⟩ := by
  rw [step, (offers.resolves added).choose_eq]
  exact resolve_of_loaded tree sameTitle alive loaded

/-- The lines of a hero who takes a gift and uses it lead to what the item makes of him. -/
theorem prompt?_eq {tree : FileTree} {start : Session} {lines : List String} {choice use : String}
    (reached : start.prompt? tree lines = some session)
    (chooses : Command.ofLine? choice = some (.choose order))
    (uses : Command.ofLine? use = some (.useSlot (some slot.val))) :
    start.prompt? tree (lines ++ [choice, use]) =
      some ((session.given option filled).afterScene
        ((session.given option filled).scene.perform session.content.items effect)) := by
  have carried : (session.given option filled).player.inventory.item? slot.val = some item := by
    rw [given, (Inventory.add?_eq_some_iff.mp added).2, Inventory.item?_set, if_pos rfl]
  obtain ⟨_, chosen⟩ := offers.step_choose added sameTitle alive loaded tree
  obtain ⟨_, used⟩ := step_useSlot_of_actsBy offers.acts carried tree
  rw [prompt?_append, reached, Option.bind_some, prompt?, List.foldlM_cons,
    next?_of_step chooses chosen]
  rw [Option.bind_eq_bind, Option.bind_some, List.foldlM_cons, next?_of_step uses used]
  rfl

end OffersGift

end Session

end Gamebook
