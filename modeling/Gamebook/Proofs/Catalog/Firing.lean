/-
This file says which events can fire at a node.
A forced event keeps the events of the pool from firing. Content names them all the same, so that
the named events and those that can fire are the same only where nothing is kept back.
-/

import Gamebook.Catalog.Pick
import Gamebook.Proofs.Catalog.Soundness
import Gamebook.Proofs.Random.Choice

namespace Gamebook

/-- The forced event can fire, or else every event of the pool. -/
def Node.CanFire (node : Node) (id : String) : Prop :=
  node.forcedEvent = some id ∨ node.forcedEvent = none ∧ id ∈ node.pool

theorem Node.CanFire.mem_eventIds {node : Node} {id : String} (fires : node.CanFire id) :
    id ∈ node.eventIds := by
  rw [Node.eventIds, List.mem_append, Option.mem_toList]
  exact fires.imp_right And.right

/-- The named events can all fire exactly when the pool holds nothing beside a forced event. -/
theorem Node.eventIds_canFire_iff {node : Node} :
    (∀ id ∈ node.eventIds, node.CanFire id) ↔
      ∀ forced, node.forcedEvent = some forced → ∀ id ∈ node.pool, id = forced := by
  constructor
  · intro fires forced isForced id pooled
    rcases fires id (List.mem_append_right _ pooled) with same | ⟨none, -⟩
    · exact Option.some.inj (same.symm.trans isForced)
    · cases isForced.symm.trans none
  · intro alone id named
    rcases List.mem_append.mp named with isForced | pooled
    · exact .inl (Option.mem_toList.mp isForced)
    · cases isForced : node.forcedEvent with
      | none => exact .inr ⟨isForced, pooled⟩
      | some forced =>
          obtain rfl := alone forced isForced id pooled
          exact .inl isForced

namespace Catalog

theorem exists_pickEvent_iff {nodes : NodeCatalog} {kind id : String} {node : Node}
    (found : nodes.find? kind = some node) :
    (∃ source, (nodes.pickEvent kind source).1 = some id) ↔ node.CanFire id := by
  simp only [pickEvent, found, Node.CanFire]
  cases node.forcedEvent with
  | none => simpa using RandomSource.exists_choose_iff
  | some forced => exact ⟨fun ⟨_, same⟩ => .inl same, fun fires => ⟨.ofWords [], by simpa using fires⟩⟩

/-- An event fires at a loaded node for some source exactly when it is the forced one, or when none
is forced and it is in the pool. Every such event is named by the node, and the named events are
just these exactly when the pool holds nothing beside a forced event. -/
theorem Built.named_events_fire {nodes : NodeCatalog} (built : nodes.Built) {node : Node}
    (listed : node ∈ nodes.entries) :
    (∀ id, (∃ source, (nodes.pickEvent node.kind source).1 = some id) ↔
      node.forcedEvent = some id ∨ node.forcedEvent = none ∧ id ∈ node.pool) ∧
    (∀ id, (∃ source, (nodes.pickEvent node.kind source).1 = some id) → id ∈ node.eventIds) ∧
    ((∀ id, id ∈ node.eventIds ↔ ∃ source, (nodes.pickEvent node.kind source).1 = some id) ↔
      ∀ forced, node.forcedEvent = some forced → ∀ id ∈ node.pool, id = forced) := by
  have found : nodes.find? node.kind = some node :=
    (find?_eq_some_iff built.sound.distinct).mpr ⟨listed, rfl⟩
  simp only [exists_pickEvent_iff found]
  refine ⟨fun id => Iff.rfl, fun id fires => fires.mem_eventIds, ?_⟩
  rw [← Node.eventIds_canFire_iff]
  exact ⟨fun same id => (same id).mp, fun fires id => ⟨fires id, Node.CanFire.mem_eventIds⟩⟩

end Catalog

/-- Some events of the hall are in its pool, and one can be forced. -/
def eventfulHall (forced : Option String) (pool : List String) : Node where
  kind := "hall"
  name := "Hall"
  description := "Benches stand here."
  art := ""
  neighbours := .empty
  forcedEvent := forced
  pool := pool

/-- In a pool with repeats the last event can fire as well. -/
theorem Catalog.named_events_fire_feast :
    (⟨[eventfulHall none ["brawl", "brawl", "feast"]]⟩ : NodeCatalog).Built ∧
      eventfulHall none ["brawl", "brawl", "feast"] ∈
        [eventfulHall none ["brawl", "brawl", "feast"]] ∧
      ∃ source, ((⟨[eventfulHall none ["brawl", "brawl", "feast"]]⟩ : NodeCatalog).pickEvent
        "hall" source).1 = some "feast" := by
  have made : Catalog.ofList [eventfulHall none ["brawl", "brawl", "feast"]] =
      .ok ⟨[eventfulHall none ["brawl", "brawl", "feast"]]⟩ := by decide +kernel
  have built : (⟨[eventfulHall none ["brawl", "brawl", "feast"]]⟩ : NodeCatalog).Built :=
    .ofList made
  have listed := List.mem_singleton_self (eventfulHall none ["brawl", "brawl", "feast"])
  obtain ⟨fires, -⟩ := built.named_events_fire listed
  exact ⟨built, listed, (fires "feast").mpr (.inr ⟨rfl, by decide⟩)⟩

/-- The hall names the brawl, but its forced feast fires from every source. -/
theorem Catalog.brawl_never_fires :
    Catalog.ofList [eventfulHall (some "feast") ["brawl"]] =
        .ok ⟨[eventfulHall (some "feast") ["brawl"]]⟩ ∧
      "brawl" ∈ (eventfulHall (some "feast") ["brawl"]).eventIds ∧
      ¬∃ source, ((⟨[eventfulHall (some "feast") ["brawl"]]⟩ : NodeCatalog).pickEvent
        "hall" source).1 = some "brawl" := by
  refine ⟨by decide +kernel, by decide, ?_⟩
  rintro ⟨source, picked⟩
  have forced : some "feast" = some "brawl" := picked
  exact absurd forced (by decide)

end Gamebook
