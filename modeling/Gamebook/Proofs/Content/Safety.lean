/-
This file shows that content that is checked without problems never goes wrong while it is played.
Whatever the hero carries and whatever is asked for comes from the content itself.
-/

import Gamebook.Proofs.Content.Closure
import Gamebook.Proofs.Content.Hero
import Gamebook.Proofs.Scene.Provenance

namespace Gamebook

/-- A game offers the options of the loaded events, and it never settles an effect by itself. -/
def Operation.IsOffered (content : Content) : Operation → Prop
  | .apply option => ∃ event ∈ content.events.entries, option ∈ event.options
  | .settle _ => False
  | _ => True

/-- In a provided scene every carried item is a copy of a loaded one, and the event that is asked
for is loaded. -/
structure Scene.Provided (content : Content) (scene : Scene) : Prop where
  sourced : scene.inventory.Sourced content.items
  asked : ∀ id, scene.triggered = some id → content.events.contains id = true

/-- A hero without items begins in a provided scene. -/
theorem Player.scene_provided (content : Content) {player : Player}
    (bare : player.inventory = Inventory.empty) (location : Option String) :
    (player.scene location).Provided content where
  sourced := by
    rw [Player.scene, bare]
    exact Inventory.sourced_empty content.items
  asked := by
    intro id asked
    cases asked

namespace Content.Closed

section

variable {content : Content} (closed : content.Closed) {scene : Scene}
  (provided : scene.Provided content)

include closed provided

/-- An item that is carried has the effects of a loaded one. -/
theorem resolved_of_carried {slot : Nat} {item : Item}
    (carried : scene.inventory.item? slot = some item) :
    ∀ effect ∈ item.effects, effect.IsResolved content := by
  obtain ⟨entry, listed, copy⟩ := provided.sourced slot item carried
  intro effect owned
  rw [copy.same] at owned
  exact closed.itemEffects entry listed effect owned

variable {operation : Operation} (offered : operation.IsOffered content)

include offered

theorem effects_resolved : ∀ effect ∈ operation.effects scene, effect.IsResolved content := by
  cases operation with
  | apply option =>
      obtain ⟨event, listed, owned⟩ := offered
      exact closed.optionEffects event listed option owned
  | settle effect => exact offered.elim
  | useItem slot =>
      rw [Operation.effects]
      cases carried : scene.inventory.item? slot with
      | none => exact List.forall_mem_nil _
      | some item =>
          intro effect owned
          exact closed.resolved_of_carried provided carried effect
            (List.mem_append_left _ (List.mem_append_left _ owned))
  | unequipItem slot =>
      rw [Operation.effects]
      cases carried : scene.inventory.item? slot with
      | none => exact List.forall_mem_nil _
      | some item =>
          intro effect owned
          exact closed.resolved_of_carried provided carried effect (List.mem_append_right _ owned)
  | gain stat amount => exact List.forall_mem_nil _
  | spend stat amount => exact List.forall_mem_nil _
  | reopen location => exact List.forall_mem_nil _

/-- Equip effects belong to loaded items, however deep they are nested. -/
theorem performed_resolved :
    ∀ effect ∈ operation.performed content.items scene, effect.IsResolved content := by
  refine forall_performed (closed.effects_resolved provided offered) ?_ _
  intro item listed effect owned
  exact closed.itemEffects item listed effect
    (List.mem_append_left _ (List.mem_append_right _ owned))

variable (sound : content.items.Sound)

include sound

/-- No offered operation meets an unknown item. -/
theorem run_ne_unknownItem (id : String) :
    (operation.run content.items scene).2 ≠ .error (.unknownItem id) := by
  intro failed
  obtain ⟨granted, unknown⟩ := operation.unknown_of_run sound failed
  have known : content.items.contains id = true :=
    closed.effects_resolved provided offered _ granted
  rw [unknown] at known
  cases known

/-- Every offered operation leads from a provided scene to a provided scene. -/
theorem run_provided : (operation.run content.items scene).1.Provided content where
  sourced := (operation.moves_run sound scene).sourced provided.sourced
  asked := by
    intro id asked
    rcases operation.triggered_of_run sound asked with before | triggered
    · exact provided.asked id before
    · exact closed.performed_resolved provided offered _ triggered

/-- What a resolution leads to is loaded. -/
theorem contains_of_resolution {resolution : Resolution} {id : String}
    (resolved : (operation.run content.items scene).2 = .ok (.resolved resolution))
    (next : resolution.nextEvent = some id) : content.events.contains id = true := by
  have later := closed.run_provided provided offered sound
  obtain ⟨option, rfl, same⟩ := operation.nextEvent_of_run sound resolved
  rw [same] at next
  cases chained : option.nextEvent with
  | some target =>
      obtain ⟨event, listed, owned⟩ := offered
      rw [chained, Option.some_or] at next
      cases next
      exact closed.chains event listed option owned id chained
  | none =>
      rw [chained, Option.none_or] at next
      exact later.asked id next

end

end Content.Closed

/-- An operation is safe in a scene when it meets no unknown item and every event that it asks for
or leads to is loaded. -/
structure Operation.Safe (content : Content) (scene : Scene) (operation : Operation) : Prop where
  known : ∀ id, (operation.run content.items scene).2 ≠ .error (.unknownItem id)
  asked : ∀ id ∈ triggeredEvents (operation.performed content.items scene),
    ∃ event, content.events.get id = .ok event
  pending : ∀ id, (operation.run content.items scene).1.triggered = some id →
    ∃ event, content.events.get id = .ok event
  next : ∀ resolution id, (operation.run content.items scene).2 = .ok (.resolved resolution) →
    resolution.nextEvent = some id → ∃ event, content.events.get id = .ok event

/-- Every operation that a game offers is safe, after any other operations that it offered. -/
theorem Content.Closed.safe {content : Content} (closed : content.Closed)
    (sound : content.items.Sound) {start : Scene} (begins : start.Provided content)
    {operations : List Operation} (offered : ∀ past ∈ operations, past.IsOffered content)
    {operation : Operation} (nextOffered : operation.IsOffered content) :
    operation.Safe content (start.play content.items operations) := by
  have provided : (start.play content.items operations).Provided content :=
    Scene.play_induction begins fun past listed _ kept =>
      closed.run_provided kept (offered past listed) sound
  refine ⟨closed.run_ne_unknownItem provided nextOffered sound, ?_, ?_, ?_⟩
  · intro id asked
    exact Catalog.exists_get_iff.mpr
      (closed.performed_resolved provided nextOffered _ (mem_triggeredEvents.mp asked))
  · intro id asked
    exact Catalog.exists_get_iff.mpr ((closed.run_provided provided nextOffered sound).asked id asked)
  · intro resolution id resolved next
    exact Catalog.exists_get_iff.mpr
      (closed.contains_of_resolution provided nextOffered sound resolved next)

/-- Content that is checked without problems can be built for every hero. A hero who begins without
items then never meets an unknown item in it, and every event and node that a run leads to is
loaded. -/
theorem checked_content_is_safe {tree : FileTree} {paths : ContentPaths} {context : TemplateContext}
    (clean : (validate tree paths context).isOk = true) (plan : ContentPlan) :
    ∃ content, (plan.withPaths paths).build tree = .ok content ∧
      (∀ player : Player, player.inventory = Inventory.empty →
        ∀ (location : Option String) (operations : List Operation),
          (∀ past ∈ operations, past.IsOffered content) →
            ∀ operation : Operation, operation.IsOffered content →
              operation.Safe content ((player.scene location).play content.items operations)) ∧
      (∀ kind source event, (content.nodes.pickEvent kind source).1 = some event →
        ∃ found, content.events.get event = .ok found) ∧
      ∀ kind source neighbour later,
        content.nodes.pickNeighbour kind source = .ok (some neighbour, later) →
          ∃ found, content.nodes.get neighbour = .ok found := by
  rw [validate_for_hero tree paths context (plan.context.getD TemplateContext.neutral)] at clean
  obtain ⟨content, loaded⟩ := Content.exists_load_of_isOk clean
  have closed := Content.closed_of_isOk clean loaded
  have sound := (Content.items_built loaded).sound
  refine ⟨content, ContentPlan.build_eq_ok_iff.mpr loaded, ?_, ?_, ?_⟩
  · intro player bare location operations offered operation nextOffered
    exact closed.safe sound (Player.scene_provided content bare location) offered nextOffered
  · intro kind source event picked
    exact Catalog.exists_get_iff.mpr (closed.contains_of_pickEvent picked)
  · intro kind source neighbour later picked
    exact Catalog.exists_get_iff.mpr (closed.contains_of_pickNeighbour picked)

/-- In this content a horn comes with a call, and the call brings one more horn. -/
def callingTree : FileTree where
  directories := [["items"], ["events"]]
  files := [
    (["items", "horn.ron"],
      "(Id:\"h\",Name:\"H\",Description:\"H\",EffectsOnEquip:[\"item:h\",\"event:c\"])".toUTF8),
    (["events", "call.ron"],
      ("(Id:\"c\",Name:\"C\",Description:\"C\",Options:[" ++
        "(DisplayText:\"T\",ResolutionText:\"T\",Order:1,Effects:[\"item:h\"])])").toUTF8)]

def callingPaths : ContentPaths where
  events := "events"
  items := some "items"
  nodes := none

theorem checked_content_is_safe_calling :
    (validate callingTree callingPaths TemplateContext.neutral).isOk = true ∧
      ∃ content, (ContentPlan.withPaths {} callingPaths).build callingTree = .ok content ∧
        ∀ player : Player, player.inventory = Inventory.empty →
          ∀ (location : Option String) (operations : List Operation),
            (∀ past ∈ operations, past.IsOffered content) →
              ∀ operation : Operation, operation.IsOffered content →
                operation.Safe content ((player.scene location).play content.items operations) := by
  have clean : (validate callingTree callingPaths TemplateContext.neutral).isOk = true := by
    decide +kernel
  obtain ⟨content, built, safe, -⟩ := checked_content_is_safe clean {}
  exact ⟨clean, content, built, safe⟩

end Gamebook
