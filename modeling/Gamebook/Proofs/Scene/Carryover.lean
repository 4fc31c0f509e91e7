/-
This file says how far an earlier resolution reaches into a later one in the same scene. An event that
was asked for before changes nothing about what is settled. It is the last resort of a resolution that
names no next event and asks for none.
-/

import Gamebook.Proofs.Scene.Execution

namespace Gamebook

/-- Two scenes are alike when they differ in nothing but the event that was asked for before. -/
structure Scene.Alike (first second : Scene) : Prop where
  stats : first.stats = second.stats
  inventory : first.inventory = second.inventory
  title : first.title = second.title
  location : first.location = second.location

/-- This is the scene as it opens, before any event is asked for. -/
def Scene.fresh (scene : Scene) : Scene :=
  { scene with triggered := none }

/-- The event that was asked for before counts where none is asked for now. -/
def Scene.orBefore (before : Option String) (scene : Scene) : Scene :=
  { scene with triggered := scene.triggered.or before }

/-- The event that was asked for before comes next where the resolution names none. -/
def Resolution.orBefore (before : Option String) (resolution : Resolution) : Resolution :=
  { resolution with nextEvent := resolution.nextEvent.or before }

namespace Scene

theorem fresh_orBefore (scene : Scene) : scene.fresh.orBefore scene.triggered = scene := rfl

theorem Alike.fresh_eq {first second : Scene} (alike : first.Alike second) :
    first.fresh = second.fresh := by
  rw [fresh, fresh, alike.stats, alike.inventory, alike.title, alike.location]

theorem alike_orBefore (scene : Scene) (before other : Option String) :
    (scene.orBefore before).Alike (scene.orBefore other) :=
  ⟨rfl, rfl, rfl, rfl⟩

theorem perform_orBefore (items : ItemCatalog) (before : Option String) (scene : Scene)
    (effect : Effect) :
    (scene.orBefore before).perform items effect = (scene.perform items effect).orBefore before := by
  cases effect <;> rfl

end Scene

/-- Effects settle as if no event had been asked for before. -/
theorem settle_orBefore (items : ItemCatalog) (before : Option String) (effects : List Effect)
    (scene : Scene) :
    settle items effects (scene.orBefore before) =
      ((settle items effects scene).1.orBefore before, (settle items effects scene).2) := by
  generalize carried : scene.inventory = inventory
  induction effects, inventory using settlement_induction items generalizing scene with
  | done inventory => rw [settle, settle]
  | stopped id rest inventory unknown => rw [settle_unknown unknown, settle_unknown unknown]
  | next effect following rest inventory follows inductionHypothesis =>
      subst carried
      have same : Follows items (scene.orBefore before).inventory effect following := follows
      rw [settle_next follows, settle_next same, Scene.perform_orBefore]
      exact inductionHypothesis _ (scene.perform_inventory items effect)

namespace EventOption

variable {option : EventOption} {items : ItemCatalog} {scene after : Scene} {resolution : Resolution}

/-- An option is resolved as if no event had been asked for before, but for its last resort. -/
theorem apply_orBefore (option : EventOption) (items : ItemCatalog) (before : Option String)
    (scene : Scene) :
    option.apply items (scene.orBefore before) =
      ((option.apply items scene).1.orBefore before,
        (option.apply items scene).2.map (Resolution.orBefore before)) := by
  have sameStats : (scene.orBefore before).stats = scene.stats := rfl
  rw [apply, apply, sameStats]
  cases option.costs.find? fun cost => decide (scene.stats.get cost.stat < cost.amount) with
  | some cost => rfl
  | none =>
      dsimp only
      cases unknownGrant? items option.effects with
      | some item => rfl
      | none =>
          let paid := { scene with stats := scene.stats.pay option.costs }
          have sameScene : { scene.orBefore before with stats := scene.stats.pay option.costs } =
              paid.orBefore before := rfl
          dsimp only
          rw [sameScene, settle_orBefore]
          rcases settle items option.effects paid with ⟨after, error | _⟩
          · rfl
          · simp [Except.map, Scene.orBefore, Resolution.orBefore, Option.or_assoc]

/-- An option that is resolved executes its effects. The event that they ask for last is asked for in
the end, and if they ask for none it is the one from before. -/
theorem executed_of_apply (resolved : option.apply items scene = (after, .ok resolution)) :
    ∃ executed,
      (∀ other left, Executes items scene.inventory option.effects other left ↔
        other = executed ∧ left = after.inventory) ∧
      after.triggered = (lastTriggered executed).or scene.triggered := by
  obtain ⟨settled, -⟩ := settle_of_apply resolved
  obtain ⟨executed, last, executes⟩ := exists_executes (congrArg Prod.snd settled)
  have performs := executes.settle_eq _ rfl
  rw [settled] at performs
  obtain rfl : after = _ := congrArg Prod.fst performs
  refine ⟨executed, fun other left => ?_, foldl_perform_triggered items executed _⟩
  rw [foldl_perform_inventory, ← executes.inventory_eq]
  exact ⟨executes.unique, fun ⟨sameEffects, sameInventory⟩ => sameEffects ▸ sameInventory ▸ executes⟩

end EventOption

theorem lastTriggered_isSome_iff {executed : List Effect} :
    (lastTriggered executed).isSome = true ↔ ∃ event, Effect.triggerEvent event ∈ executed := by
  simp only [lastTriggered, List.getLast?_isSome, ← mem_triggeredEvents]
  constructor
  · exact List.exists_mem_of_ne_nil _
  · rintro ⟨event, listed⟩
    exact List.ne_nil_of_mem listed

/-- A resolution is told apart by the event from before only when it leads nowhere by itself. -/
theorem Resolution.orBefore_eq_iff {resolution : Resolution} {before other : Option String} :
    resolution.orBefore before = resolution.orBefore other ↔
      resolution.nextEvent.isSome = true ∨ before = other := by
  cases named : resolution.nextEvent <;> simp [orBefore, named]

/-- Two scenes that differ in nothing but the event that was asked for before make the same of an
option, but for the next event. The later resolution leads to the event from before when it names none
and asks for none itself, and only then does it matter which event this is. -/
theorem EventOption.earlier_request_is_last_resort (option : EventOption) (items : ItemCatalog)
    {first second : Scene} (alike : first.Alike second) :
    (option.apply items first).1.Alike (option.apply items second).1 ∧
    (∀ error, (option.apply items first).2 = .error error ↔
      (option.apply items second).2 = .error error) ∧
    ∀ after resolution, option.apply items first = (after, .ok resolution) →
      ∃ executed,
        (∀ other left, Executes items first.inventory option.effects other left ↔
          other = executed ∧ left = after.inventory) ∧
        resolution.nextEvent = (option.nextEvent.or (lastTriggered executed)).or first.triggered ∧
        (option.apply items second).2 = .ok { resolution with
          nextEvent := (option.nextEvent.or (lastTriggered executed)).or second.triggered } ∧
        ((option.apply items second).2 = .ok resolution ↔
          option.nextEvent.isSome = true ∨ (∃ event, Effect.triggerEvent event ∈ executed) ∨
            first.triggered = second.triggered) := by
  have fromFirst := option.apply_orBefore items first.triggered first.fresh
  have fromSecond := option.apply_orBefore items second.triggered first.fresh
  rw [first.fresh_orBefore] at fromFirst
  rw [alike.fresh_eq, second.fresh_orBefore, ← alike.fresh_eq] at fromSecond
  rw [fromFirst, fromSecond]
  rcases opened : option.apply items first.fresh with ⟨settled, error | fresh⟩
  · refine ⟨settled.alike_orBefore _ _, fun other => Iff.rfl, fun after resolution resolved => ?_⟩
    cases resolved
  · refine ⟨settled.alike_orBefore _ _, fun error => ⟨nofun, nofun⟩, fun after resolution resolved => ?_⟩
    obtain ⟨rfl, rfl⟩ : settled.orBefore first.triggered = after ∧
        fresh.orBefore first.triggered = resolution := by simpa [Except.map] using resolved
    obtain ⟨executed, only, asked⟩ := executed_of_apply opened
    have leads := (settle_of_apply opened).2
    rw [asked, Scene.fresh, Option.or_none] at leads
    refine ⟨executed, only, ?_, ?_, ?_⟩
    · rw [Resolution.orBefore, leads]
    · rw [← leads]
      rfl
    · rw [Except.map, Except.ok.injEq, Resolution.orBefore_eq_iff, leads, Option.isSome_or,
        Bool.or_eq_true, lastTriggered_isSome_iff, or_assoc, eq_comm (a := first.triggered)]

/-- Whoever takes this option calls the moot. -/
def callMoot : EventOption where
  displayText := "Call the moot"
  resolutionText := "You call it."
  order := 1
  displayCost := false
  conditions := []
  costs := []
  effects := [.triggerEvent "moot"]
  nextEvent := none

/-- This option has nothing to do with the moot. -/
def feedHounds : EventOption where
  displayText := "Feed the hounds"
  resolutionText := "They eat."
  order := 2
  displayCost := false
  conditions := []
  costs := [⟨.food, 1⟩]
  effects := [.changeTitle "the Kind"]
  nextEvent := none

def quietScene : Scene where
  stats := Stats.ofList [(.population, 5), (.food, 4), (.strength, 5), (.maxStrength, 5)]
  inventory := Inventory.empty
  title := "Thrall"
  location := none
  triggered := none

/-- In this scene the moot was called before. -/
def calledScene : Scene :=
  (callMoot.apply ⟨[]⟩ quietScene).1

theorem calledScene_eq : calledScene = { quietScene with triggered := some "moot" } := by
  have unpaid : quietScene.stats.pay [] = quietScene.stats := rfl
  simp [calledScene, EventOption.apply, callMoot, unknownGrant?, grantedItems, settle, unpaid]

theorem quietScene_alike_calledScene : quietScene.Alike calledScene := by
  rw [calledScene_eq]
  exact ⟨rfl, rfl, rfl, rfl⟩

theorem feedHounds_executes {inventory : Inventory} :
    Executes ⟨[]⟩ inventory feedHounds.effects [.changeTitle "the Kind"] inventory :=
  .next (.changeTitle "the Kind") .done .done

theorem exists_hounds_fed : ∃ after, feedHounds.apply ⟨[]⟩ quietScene =
    (after, .ok ⟨"They eat.", [⟨"You are known as the Kind", true⟩], none⟩) := by
  have payable : feedHounds.costs.find?
      (fun cost => decide (quietScene.stats.get cost.stat < cost.amount)) = none := by decide
  have known : unknownGrant? ⟨[]⟩ feedHounds.effects = none := by decide
  have lines : effectLines ⟨[]⟩ feedHounds.effects = [⟨"You are known as the Kind", true⟩] := by
    decide +kernel
  rw [EventOption.apply, payable, known, lines]
  dsimp only
  rw [feedHounds_executes.settle_eq { quietScene with stats := quietScene.stats.pay _ } rfl]
  exact ⟨_, rfl⟩

/-- The hounds lead to the moot that was called before, and it matters that it was called. -/
theorem earlier_request_is_last_resort_hounds :
    quietScene.Alike calledScene ∧
    ∃ after resolution, feedHounds.apply ⟨[]⟩ quietScene = (after, .ok resolution) ∧
      resolution.nextEvent = none ∧
      (feedHounds.apply ⟨[]⟩ calledScene).2 = .ok { resolution with nextEvent := some "moot" } ∧
      after.Alike (feedHounds.apply ⟨[]⟩ calledScene).1 := by
  obtain ⟨after, fed⟩ := exists_hounds_fed
  have alike := quietScene_alike_calledScene
  obtain ⟨alikeAfter, -, resolved⟩ := feedHounds.earlier_request_is_last_resort ⟨[]⟩ alike
  obtain ⟨executed, only, -, later, -⟩ := resolved after _ fed
  rw [fed] at alikeAfter
  obtain ⟨rfl, -⟩ := (only _ _).mp feedHounds_executes
  rw [calledScene_eq] at later
  exact ⟨alike, after, _, fed, rfl, calledScene_eq ▸ later, alikeAfter⟩

/-- Whoever feeds the hounds is led to the moot only because it was called before. -/
theorem hounds_lead_to_moot :
    quietScene.Alike calledScene ∧ feedHounds.nextEvent = none ∧
      Executes ⟨[]⟩ calledScene.inventory feedHounds.effects [.changeTitle "the Kind"]
        calledScene.inventory ∧
      (feedHounds.apply ⟨[]⟩ quietScene).2 =
        .ok ⟨"They eat.", [⟨"You are known as the Kind", true⟩], none⟩ ∧
      (feedHounds.apply ⟨[]⟩ calledScene).2 =
        .ok ⟨"They eat.", [⟨"You are known as the Kind", true⟩], some "moot"⟩ := by
  obtain ⟨after, fed⟩ := exists_hounds_fed
  have called : calledScene = quietScene.orBefore (some "moot") := calledScene_eq
  refine ⟨quietScene_alike_calledScene, rfl, feedHounds_executes, congrArg Prod.snd fed, ?_⟩
  rw [called, EventOption.apply_orBefore, fed]
  rfl

end Gamebook
