/-
This file shows that content is consistent whenever it is held. The files may change at any time,
and content may be built and reloaded in any order, with or without success.
-/

import Gamebook.Proofs.Catalog.References
import Gamebook.Proofs.Catalog.Rendering
import Gamebook.Proofs.Catalog.Shelf
import Gamebook.Proofs.Content.Closure

namespace Gamebook

/-- In a consistent catalog an id leads to the one entry that has it. An index that is filled with
the entries in their order leads there as well. -/
structure Catalog.Consistent {A : Type} [CatalogEntry A] (catalog : Catalog A) : Prop where
  distinct : catalog.ids.Nodup
  found_iff : ∀ id entry, catalog.find? id = some entry ↔
    entry ∈ catalog.entries ∧ CatalogEntry.id entry = id ∧
      ∀ other ∈ catalog.entries, CatalogEntry.id other = id → other = entry
  indexed : ∃ shelf, Shelf.empty.insertAll catalog.entries = .ok shelf ∧
    shelf.entries = catalog.entries ∧ ∀ id, shelf.find? id = catalog.find? id

/-- Content is consistent when its catalogs are, when their own references lead to their entries,
and when the options of every event are in ascending order. -/
structure Content.Consistent (content : Content) : Prop where
  events : content.events.Consistent
  items : content.items.Consistent
  nodes : content.nodes.Consistent
  chains : ∀ event ∈ content.events.entries, ∀ option ∈ event.options,
    (content.events.next? option).isSome = option.nextEvent.isSome
  grants : ∀ item ∈ content.items.entries, ∀ id, Effect.grantItem id ∈ item.effects →
    ∃ granted ∈ content.items.entries, granted.id = id
  neighbours : ∀ node ∈ content.nodes.entries, ∀ kind ∈ node.neighbours.kinds,
    ∃ neighbour ∈ content.nodes.entries, neighbour.kind = kind
  ascending : ∀ event ∈ content.events.entries, event.IsAscending

namespace Catalog

theorem Sound.consistent {A : Type} [CatalogEntry A] {catalog : Catalog A}
    (sound : catalog.Sound) : catalog.Consistent where
  distinct := sound.distinct
  found_iff id entry := by
    rw [find?_eq_some_iff sound.distinct]
    constructor
    · rintro ⟨listed, rfl⟩
      refine ⟨listed, rfl, fun other otherListed same => ?_⟩
      exact List.inj_on_of_nodup_map sound.distinct otherListed listed same
    · rintro ⟨listed, named, -⟩
      exact ⟨listed, named⟩
  indexed := exists_shelf sound.distinct

/-- The options of loaded events are in ascending order, since those of their drafts are. -/
theorem ascending_of_load {tree : FileTree} {directory : String} {context : TemplateContext}
    {events : EventCatalog} (loaded : load tree directory context = .ok events) :
    ∀ event ∈ events.entries, event.IsAscending := by
  rcases load_onlyRenders (A := Event) tree directory with
    ⟨error, refused⟩ | ⟨drafts, ⟨paths, -, drafted⟩, rendered⟩
  · cases (refused context).symm.trans loaded
  · cases (rendered context).symm.trans loaded
    have each : List.Forall₂ (fun path (draft : Event) => draft.IsAscending ∧ tree.IsDraft path draft)
        paths drafts.entries :=
      drafted.imp fun path draft ⟨definition, read, isDraft⟩ =>
        ⟨isDraft.ascending, definition, read, isDraft⟩
    have ascending := ((List.forall₂_and_left _ _).mp each.flip).1
    intro event listed
    obtain ⟨draft, draftListed, rfl⟩ := List.mem_map.mp listed
    exact draft.isAscending_rendered context (ascending draft draftListed)

end Catalog

/-- Content that is loaded is consistent. -/
theorem Content.consistent_of_load {tree : FileTree} {paths : ContentPaths}
    {context : TemplateContext} {content : Content}
    (loaded : load tree paths context = .ok content) : content.Consistent := by
  obtain ⟨-, -, itemsYielded, nodesYielded, eventsYielded⟩ := load_eq_ok_iff.mp loaded
  have eventsLoaded := Catalog.load_eq_ok_iff.mpr eventsYielded
  have events := Catalog.sound_of_load eventsLoaded
  have items := (built_of_loadOptional (loadOptional_eq_ok_iff.mpr itemsYielded)).sound
  have nodes := (built_of_loadOptional (loadOptional_eq_ok_iff.mpr nodesYielded)).sound
  refine ⟨events.consistent, items.consistent, nodes.consistent, ?chains, ?grants, ?neighbours,
    Catalog.ascending_of_load eventsLoaded⟩
  case chains =>
    intro event listed option owned
    have resolved := Event.dangling?_eq_none_iff.mp (events.closed event listed) option owned
    rw [Catalog.next?]
    cases chained : option.nextEvent with
    | none => rfl
    | some target => exact resolved target chained
  case grants =>
    intro item listed id granted
    exact Catalog.contains_iff.mp
      (Item.dangling?_eq_none_iff.mp (items.closed item listed) id granted)
  case neighbours =>
    intro node listed kind near
    exact Catalog.contains_iff.mp
      (Node.dangling?_eq_none_iff.mp (nodes.closed node listed) kind near)

/-- This is the content that is held, if any, beside the files as they are now. -/
structure Holding where
  files : FileTree
  content : Option Content

/-- These are the things that can happen to content and to its files. -/
inductive Happening where
  | edit (files : FileTree)
  | build (plan : ContentPlan)
  | reload
  | reloadWith (context : TemplateContext)

namespace Holding

/-- A reload changes the content in place. There is nothing to reload before content is built. -/
def reloaded (holding : Holding)
    (reload : Content → Content × Except LoadError Unit) : Holding × Except ContentError Unit :=
  match holding.content with
  | none => (holding, .ok ())
  | some content =>
      ({ holding with content := some (reload content).1 }, (reload content).2.mapError .load)

/-- Content that is built takes the place of the content that was held. -/
def step (holding : Holding) : Happening → Holding × Except ContentError Unit
  | .edit files => ({ holding with files := files }, .ok ())
  | .build plan =>
      match plan.build holding.files with
      | .ok content => ({ holding with content := some content }, .ok ())
      | .error error => (holding, .error error)
  | .reload => holding.reloaded (·.reload holding.files)
  | .reloadWith context => holding.reloaded (·.reloadWith holding.files context)

def run (holding : Holding) (happenings : List Happening) : Holding :=
  happenings.foldl (fun holding happening => (holding.step happening).1) holding

/-- Content that is held is consistent. -/
def Consistent (holding : Holding) : Prop :=
  ∀ content, holding.content = some content → content.Consistent

/-- A step fails and changes nothing, or it changes the files, or it loads content from them. -/
inductive Outcome (holding : Holding) : Holding × Except ContentError Unit → Prop
  | failed (error : ContentError) : holding.Outcome (holding, .error error)
  | edited (files : FileTree) : holding.Outcome ({ holding with files := files }, .ok ())
  | loaded {paths : ContentPaths} {context : TemplateContext} {content : Content}
      (loaded : Content.load holding.files paths context = .ok content) :
      holding.Outcome ({ holding with content := some content }, .ok ())

theorem reloaded_outcome (holding : Holding) {reload : Content → Content × Except LoadError Unit}
    (reloads : ∀ content, ∃ context, reload content = content.reloadWith holding.files context) :
    holding.Outcome (holding.reloaded reload) := by
  rw [reloaded]
  cases held : holding.content with
  | none => exact .edited holding.files
  | some content =>
      obtain ⟨context, same⟩ := reloads content
      dsimp only
      rw [same, Content.reloadWith]
      cases loaded : Content.load holding.files content.paths context with
      | ok content => exact .loaded loaded
      | error error =>
          rw [← held]
          exact .failed (.load error)

theorem step_outcome (holding : Holding) (happening : Happening) :
    holding.Outcome (holding.step happening) := by
  cases happening with
  | edit files => exact .edited files
  | reload => exact holding.reloaded_outcome fun content => ⟨content.context, rfl⟩
  | reloadWith context => exact holding.reloaded_outcome fun _ => ⟨context, rfl⟩
  | build plan =>
      rw [step]
      cases built : plan.build holding.files with
      | error error => exact .failed error
      | ok content =>
          rw [ContentPlan.build] at built
          split at built
          next => cases built
          next events given => exact .loaded (mapError_eq_ok_iff.mp built)

/-- Every step keeps the content consistent that is held. -/
theorem Outcome.consistent {holding : Holding} {result : Holding × Except ContentError Unit}
    (outcome : holding.Outcome result) (consistent : holding.Consistent) :
    result.1.Consistent := by
  cases outcome with
  | failed error => exact consistent
  | edited files => exact consistent
  | loaded loaded =>
      intro content held
      cases held
      exact Content.consistent_of_load loaded

theorem run_consistent {holding : Holding} (consistent : holding.Consistent)
    (happenings : List Happening) : (holding.run happenings).Consistent := by
  induction happenings generalizing holding with
  | nil => exact consistent
  | cons happening rest inductionHypothesis =>
      exact inductionHypothesis ((holding.step_outcome happening).consistent consistent)

/-- A step that fails changes neither the content nor the files. -/
theorem Outcome.unchanged {holding : Holding} {result : Holding × Except ContentError Unit}
    {error : ContentError} (outcome : holding.Outcome result) (failed : result.2 = .error error) :
    result.1 = holding := by
  cases outcome with
  | failed error => rfl
  | edited files => cases failed
  | loaded loaded => cases failed

end Holding

/-- Whatever happens to content and its files, the content that is held is consistent after every
step, and a step that fails leaves it as it was. -/
theorem held_content_consistent (files : FileTree) (happenings : List Happening) :
    let holding := Holding.run ⟨files, none⟩ happenings
    (∀ content, holding.content = some content → content.Consistent) ∧
      ∀ happening error, (holding.step happening).2 = .error error →
        (holding.step happening).1 = holding := by
  intro holding
  have nothing : Holding.Consistent ⟨files, none⟩ := fun content held => by cases held
  exact ⟨Holding.run_consistent nothing happenings,
    fun happening _ failed => (holding.step_outcome happening).unchanged failed⟩

/-- These paths lead to a directory for events and one for items. -/
def ringPaths : ContentPaths where
  events := "events"
  items := some "items"
  nodes := none

/-- In these files there is a ring and no event. -/
def ringFiles : FileTree where
  directories := [["events"], ["items"]]
  files := [(["items", "ring.ron"], "(Id:\"r\",Name:\"R\",Description:\"R\")".toUTF8)]

/-- In these files there is a crown and no directory for events. -/
def crownFiles : FileTree where
  directories := [["items"]]
  files := [(["items", "crown.ron"], "(Id:\"c\",Name:\"C\",Description:\"C\")".toUTF8)]

theorem held_content_consistent_ring :
    let holding := Holding.run ⟨ringFiles, none⟩ [.build (.withPaths {} ringPaths), .edit crownFiles]
    (∃ content, holding.content = some content ∧ content.items.ids = ["r"] ∧ content.Consistent) ∧
      (holding.step .reload).2 = .error (.load (.missingDirectory "events")) ∧
      (holding.step .reload).1 = holding := by
  intro holding
  obtain ⟨consistent, unchanged⟩ := held_content_consistent ringFiles
    [.build (.withPaths {} ringPaths), .edit crownFiles]
  have ids : holding.content.map (·.items.ids) = some ["r"] := by decide +kernel
  have failed : (holding.step .reload).2 = .error (.load (.missingDirectory "events")) := by
    decide +kernel
  obtain ⟨content, held, ring⟩ := Option.map_eq_some_iff.mp ids
  exact ⟨⟨content, held, ring, consistent content held⟩, failed, unchanged _ _ failed⟩

end Gamebook
