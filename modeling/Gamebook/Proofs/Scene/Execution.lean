/-
This file describes the settling of effects as an execution that goes into the depth first.
A resolution leads to the event that the option names. When it names none, it leads to the event
that was asked for last while the effects were executed, at whatever depth.
-/

import Gamebook.Proofs.Scene.Refusal
import Mathlib.Data.List.Induction

namespace Gamebook

/-- Effects are executed in order, and what follows an effect is executed before the next one. The
first list holds the effects, and the second one holds all that is executed for them. -/
inductive Executes (items : ItemCatalog) :
    Inventory → List Effect → List Effect → Inventory → Prop
  | done {inventory : Inventory} : Executes items inventory [] [] inventory
  | next {inventory between after : Inventory} {effect : Effect}
      {following rest nested later : List Effect}
      (follows : Follows items inventory effect following)
      (deeper : Executes items (inventory.receive items effect) following nested between)
      (others : Executes items between rest later after) :
      Executes items inventory (effect :: rest) (effect :: (nested ++ later)) after

/-- This is the event that was asked for last. -/
def lastTriggered (executed : List Effect) : Option String :=
  (triggeredEvents executed).getLast?

theorem foldl_perform_inventory (items : ItemCatalog) (effects : List Effect) (scene : Scene) :
    (effects.foldl (Scene.perform items) scene).inventory =
      effects.foldl (Inventory.receive items) scene.inventory :=
  (List.foldl_hom Scene.inventory fun scene effect =>
    (scene.perform_inventory items effect).symm).symm

namespace Executes

variable {items : ItemCatalog} {inventory after : Inventory} {effects executed : List Effect}

/-- Two lists of effects are executed one after the other. -/
theorem exists_of_append {first rest : List Effect}
    (executes : Executes items inventory (first ++ rest) executed after) :
    ∃ nested later between, Executes items inventory first nested between ∧
      Executes items between rest later after ∧ executed = nested ++ later := by
  induction first generalizing inventory executed with
  | nil => exact ⟨[], executed, inventory, .done, executes, rfl⟩
  | cons effect others inductionHypothesis =>
      rw [List.cons_append] at executes
      cases executes with
      | @next _ middle _ _ following _ deep rest' follows deeper remaining =>
          obtain ⟨nested, later, between, own, last, rfl⟩ := inductionHypothesis remaining
          refine ⟨effect :: (deep ++ nested), later, between, .next follows deeper own, last, ?_⟩
          simp

/-- What is executed is what settling performs, whatever is settled after it. -/
theorem performed_append (executes : Executes items inventory effects executed after)
    (rest : List Effect) :
    performed items (effects ++ rest) inventory = executed ++ performed items rest after := by
  induction executes generalizing rest with
  | done => rfl
  | @next _ _ _ effect following others nested later follows _ _ deeper remaining =>
      rw [List.cons_append, performed_next follows, deeper, remaining]
      simp

theorem inventory_eq (executes : Executes items inventory effects executed after) :
    after = executed.foldl (Inventory.receive items) inventory := by
  induction executes with
  | done => rfl
  | next _ _ _ deeper remaining =>
      rw [List.foldl_cons, List.foldl_append, ← deeper, ← remaining]

theorem executed_eq (executes : Executes items inventory effects executed after) :
    executed = performed items effects inventory := by
  have alone := executes.performed_append []
  have nothing : performed items [] after = [] := by rw [performed]
  rw [nothing, List.append_nil, List.append_nil] at alone
  exact alone.symm

/-- There is only one way to execute effects. -/
theorem unique {other : List Effect} {left : Inventory}
    (executes : Executes items inventory effects executed after)
    (again : Executes items inventory effects other left) : other = executed ∧ left = after := by
  have same : other = executed := by rw [again.executed_eq, executes.executed_eq]
  exact ⟨same, by rw [again.inventory_eq, executes.inventory_eq, same]⟩

/-- Settling performs what is executed, and goes on with what is settled after it. -/
theorem settle_append (executes : Executes items inventory effects executed after) {scene : Scene}
    (carried : scene.inventory = inventory) (rest : List Effect) :
    settle items (effects ++ rest) scene =
      settle items rest (executed.foldl (Scene.perform items) scene) := by
  induction executes generalizing scene rest with
  | done => rfl
  | next follows nested _ deeper remaining =>
      have between := nested.inventory_eq
      rw [List.cons_append, settle_next (carried ▸ follows),
        deeper (by rw [Scene.perform_inventory, carried]), List.foldl_cons, List.foldl_append,
        remaining (by rw [foldl_perform_inventory, Scene.perform_inventory, carried, between])]

theorem settle_eq (executes : Executes items inventory effects executed after) (scene : Scene)
    (carried : scene.inventory = inventory) :
    settle items effects scene = (executed.foldl (Scene.perform items) scene, .ok ()) := by
  have alone := executes.settle_append carried []
  rw [List.append_nil, settle] at alone
  exact alone

end Executes

/-- Effects that settle are executed to their end. -/
theorem exists_executes {items : ItemCatalog} {effects : List Effect} {scene : Scene}
    (settled : (settle items effects scene).2 = .ok ()) :
    ∃ executed after, Executes items scene.inventory effects executed after := by
  generalize carried : scene.inventory = inventory
  induction effects, inventory using settlement_induction items generalizing scene with
  | done inventory => exact ⟨[], inventory, .done⟩
  | stopped id rest inventory unknown =>
      rw [settle_unknown unknown] at settled
      cases settled
  | next effect following rest inventory follows inductionHypothesis =>
      -- Settling puts what follows in front of the rest, and the execution is cut there again.
      rw [settle_next (carried ▸ follows)] at settled
      obtain ⟨executed, after, executes⟩ := inductionHypothesis settled
        (by rw [Scene.perform_inventory, carried])
      obtain ⟨nested, later, between, deeper, others, -⟩ := executes.exists_of_append
      exact ⟨_, after, .next follows deeper others⟩

/-- After effects were performed, the last event that they asked for is asked for. -/
theorem foldl_perform_triggered (items : ItemCatalog) (effects : List Effect) (scene : Scene) :
    (effects.foldl (Scene.perform items) scene).triggered =
      (lastTriggered effects).or scene.triggered := by
  induction effects using List.reverseRecOn with
  | nil => rfl
  | append_singleton earlier effect inductionHypothesis =>
      rw [List.foldl_append, List.foldl_cons, List.foldl_nil]
      cases effect with
      | triggerEvent event => simp [Scene.perform, lastTriggered, triggeredEvents]
      | _ => simpa [Scene.perform, lastTriggered, triggeredEvents] using inductionHypothesis

/-- An option that is resolved has paid its costs and settled its effects. -/
theorem EventOption.resolution_of_apply {option : EventOption} {items : ItemCatalog}
    {scene after : Scene} {resolution : Resolution}
    (resolved : option.apply items scene = (after, .ok resolution)) :
    settle items option.effects { scene with stats := scene.stats.pay option.costs } =
        (after, .ok ()) ∧
      resolution = {
        text := option.resolutionText
        lines := effectLines items option.effects
        nextEvent := option.nextEvent.or after.triggered } := by
  rw [apply] at resolved
  split at resolved
  next => cases resolved
  next =>
    split at resolved
    next => cases resolved
    next =>
      dsimp only at resolved
      split at resolved
      next => cases resolved
      next settled =>
        cases resolved
        exact ⟨settled, rfl⟩

theorem EventOption.settle_of_apply {option : EventOption} {items : ItemCatalog}
    {scene after : Scene} {resolution : Resolution}
    (resolved : option.apply items scene = (after, .ok resolution)) :
    settle items option.effects { scene with stats := scene.stats.pay option.costs } =
        (after, .ok ()) ∧
      resolution.nextEvent = option.nextEvent.or after.triggered := by
  obtain ⟨settled, rfl⟩ := resolution_of_apply resolved
  exact ⟨settled, rfl⟩

/-- When no event was asked for before, an option that is resolved asks for the event that its
execution asks for last. It leads to this event unless it names one of its own. -/
theorem EventOption.leads_where_last_asked (option : EventOption) (items : ItemCatalog)
    {scene after : Scene} (fresh : scene.triggered = none) {resolution : Resolution}
    (resolved : option.apply items scene = (after, .ok resolution)) :
    ∃ executed,
      (∀ other left, Executes items scene.inventory option.effects other left ↔
        other = executed ∧ left = after.inventory) ∧
      resolution.nextEvent = option.nextEvent.or (lastTriggered executed) ∧
      after.triggered = lastTriggered executed := by
  obtain ⟨settled, chain⟩ := settle_of_apply resolved
  obtain ⟨executed, last, executes⟩ := exists_executes (congrArg Prod.snd settled)
  have performs : after = executed.foldl (Scene.perform items)
      { scene with stats := scene.stats.pay option.costs } := by
    rw [executes.executed_eq, ← settle_fst, settled]
  have asked : after.triggered = lastTriggered executed := by
    rw [performs, foldl_perform_triggered, fresh, Option.or_none]
  have carried : last = after.inventory := by
    rw [performs, foldl_perform_inventory, executes.inventory_eq]
  refine ⟨executed, fun other left => ⟨fun again => ?_, ?_⟩, asked ▸ chain, asked⟩
  · rw [← carried]
    exact executes.unique again
  · rintro ⟨rfl, rfl⟩
    exact carried ▸ executes

/-- This drum calls to the march, but only when there is a hand free for it. -/
def warDrum : Item where
  id := "drum"
  name := "Drum"
  description := "It calls to the march."
  art := ""
  isCursed := false
  charges := none
  onUse := []
  onEquip := [.triggerEvent "march"]
  onUnequip := []

/-- This horn calls to the council, and it brings a drum with it. -/
def signalHorn : Item where
  id := "horn"
  name := "Horn"
  description := "It calls to the council."
  art := ""
  isCursed := false
  charges := none
  onUse := []
  onEquip := [.triggerEvent "council", .grantItem "drum"]
  onUnequip := []

/-- The hero has one hand free. -/
def burdenedScene : Scene where
  stats := Stats.zero
  inventory := ⟨#v[some warDrum, none, some warDrum]⟩
  title := "Thrall"
  location := none
  triggered := none

def takeHorn : EventOption where
  displayText := "Take the horn"
  resolutionText := "You take it."
  order := 1
  displayCost := false
  conditions := []
  costs := []
  effects := [.triggerEvent "feast", .grantItem "horn", .changeTitle "the Caller"]
  nextEvent := none

/-- The horn fills the last slot, so that its drum is dropped and nobody calls to the march. -/
theorem leads_where_last_asked_horn :
    ∃ after resolution, burdenedScene.triggered = none ∧
      takeHorn.apply ⟨[signalHorn, warDrum]⟩ burdenedScene = (after, .ok resolution) ∧
      Executes ⟨[signalHorn, warDrum]⟩ burdenedScene.inventory takeHorn.effects
        [.triggerEvent "feast", .grantItem "horn", .triggerEvent "council", .grantItem "drum",
          .changeTitle "the Caller"] after.inventory ∧
      resolution.nextEvent = some "council" ∧ after.triggered = some "council" := by
  have fresh : burdenedScene.triggered = none := rfl
  have horn : Catalog.find? (⟨[signalHorn, warDrum]⟩ : ItemCatalog) "horn" = some signalHorn := by
    decide
  have drum : Catalog.find? (⟨[signalHorn, warDrum]⟩ : ItemCatalog) "drum" = some warDrum := by
    decide
  have added : burdenedScene.inventory.add? signalHorn =
      some (1, burdenedScene.inventory.set 1 (some signalHorn)) := rfl
  have full : (burdenedScene.inventory.receive ⟨[signalHorn, warDrum]⟩
      (.grantItem "horn")).add? warDrum = none := by
    rw [Inventory.receive, horn, Option.bind_some, added]
    rfl
  have executes := Executes.next (.triggerEvent "feast") .done
    (.next (.placed horn added)
      (.next (.triggerEvent "council") .done (.next (.dropped drum full) .done .done))
      (.next (.changeTitle "the Caller") .done .done))
  obtain ⟨after, resolution, resolved⟩ : ∃ after resolution,
      takeHorn.apply ⟨[signalHorn, warDrum]⟩ burdenedScene = (after, .ok resolution) := by
    have known : unknownGrant? ⟨[signalHorn, warDrum]⟩ takeHorn.effects = none := by decide
    rw [EventOption.apply, known]
    dsimp only [takeHorn, List.find?_nil]
    rw [executes.settle_eq { burdenedScene with stats := burdenedScene.stats.pay [] } rfl]
    exact ⟨_, _, rfl⟩
  obtain ⟨executed, only, leads, asked⟩ := takeHorn.leads_where_last_asked _ fresh resolved
  obtain ⟨rfl, carried⟩ := (only _ _).mp executes
  exact ⟨_, _, fresh, resolved, carried ▸ executes, leads, asked⟩

end Gamebook
