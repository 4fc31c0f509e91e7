/-
This file shows that the hero for whom content is built only decides how the texts of its events are
rendered. The checker, which renders them too, reports the same for every hero.
-/

import Gamebook.Proofs.Catalog.Rendering
import Gamebook.Proofs.Content.Hero

namespace Gamebook

theorem Catalog.rendered_items (context : TemplateContext) (items : ItemCatalog) :
    items.rendered context = items :=
  congrArg Catalog.mk (List.map_id items.entries)

theorem Catalog.rendered_nodes (context : TemplateContext) (nodes : NodeCatalog) :
    nodes.rendered context = nodes :=
  congrArg Catalog.mk (List.map_id nodes.entries)

namespace Content

/-- This renders content for a hero. Items and nodes have no rendered texts. -/
def rendered (context : TemplateContext) (content : Content) : Content :=
  { content with context := context, events := content.events.rendered context }

/-- The events of drafted content are the drafts of the event files under its paths. -/
structure IsDraft (tree : FileTree) (paths : ContentPaths) (content : Content) : Prop where
  placed : content.paths = paths
  drafted : tree.IsDraftCatalog paths.events content.events

theorem loadOptional_onlyRenders {A : Type} [Authored A] [Drafted A] (tree : FileTree)
    (path : Option String) :
    OnlyRenders (fun _ => True) Catalog.rendered
      (fun context => (loadOptional tree context path : Except LoadError (Catalog A))) := by
  cases path with
  | none => exact .inr ⟨Catalog.empty, trivial, fun _ => rfl⟩
  | some directory =>
      rcases Catalog.load_onlyRenders (A := A) tree directory with
        refused | ⟨draft, -, loaded⟩
      · exact .inl refused
      · exact .inr ⟨draft, trivial, loaded⟩

theorem load_onlyRenders (tree : FileTree) (paths : ContentPaths) :
    OnlyRenders (IsDraft tree paths) rendered (load tree paths) := by
  rcases loadOptional_onlyRenders (A := Item) tree paths.items with
    ⟨error, refused⟩ | ⟨items, -, itemsLoaded⟩
  · exact .inl ⟨error, fun context => by simp only [load, refused]⟩
  simp only [Catalog.rendered_items] at itemsLoaded
  rcases loadOptional_onlyRenders (A := Node) tree paths.nodes with
    ⟨error, refused⟩ | ⟨nodes, -, nodesLoaded⟩
  · exact .inl ⟨error, fun context => by simp only [load, itemsLoaded, refused]⟩
  simp only [Catalog.rendered_nodes] at nodesLoaded
  rcases Catalog.load_onlyRenders (A := Event) tree paths.events with
    ⟨error, refused⟩ | ⟨events, areDrafts, eventsLoaded⟩
  · exact .inl ⟨error, fun context => by simp only [load, itemsLoaded, nodesLoaded, refused]⟩
  refine .inr ⟨⟨paths, TemplateContext.neutral, events, items, nodes⟩, ⟨rfl, areDrafts⟩,
    fun context => ?_⟩
  simp only [load, itemsLoaded, nodesLoaded, eventsLoaded, rendered]

end Content

/-- These are the paths under which a plan looks for content, if it has a directory for events. -/
def ContentPlan.paths? (plan : ContentPlan) : Option ContentPaths :=
  plan.events.map fun events => ⟨events, plan.items, plan.nodes⟩

theorem ContentPlan.build_onlyRenders (plan : ContentPlan) (tree : FileTree) :
    OnlyRenders (fun draft => ∃ paths, plan.paths? = some paths ∧ draft.IsDraft tree paths)
      Content.rendered (fun context => { plan with context := some context }.build tree) := by
  cases given : plan.events with
  | none => exact .inl ⟨.noEventsDirectory, fun context => by simp only [build]⟩
  | some events =>
      rcases Content.load_onlyRenders tree ⟨events, plan.items, plan.nodes⟩ with
        ⟨error, refused⟩ | ⟨draft, isDraft, loaded⟩
      · refine .inl ⟨.load error, fun context => ?_⟩
        simp only [build, Option.getD_some, refused, Except.mapError]
      · refine .inr ⟨draft, ⟨_, by rw [paths?, given]; rfl, isDraft⟩, fun context => ?_⟩
        simp only [build, Option.getD_some, loaded, Except.mapError]

/-- The hero decides nothing but rendered texts: loading events and building content fail for all
heroes alike or render the same drafts of the files, and the checker reports the same. -/
theorem hero_only_renders (tree : FileTree) :
    (∀ directory, OnlyRenders (tree.IsDraftCatalog directory) Catalog.rendered
      (fun context => (Catalog.load tree directory context : Except LoadError EventCatalog))) ∧
    (∀ plan : ContentPlan,
      OnlyRenders (fun draft => ∃ paths, plan.paths? = some paths ∧ draft.IsDraft tree paths)
        Content.rendered (fun context => { plan with context := some context }.build tree)) ∧
    ∀ paths first second, validate tree paths first = validate tree paths second :=
  ⟨Catalog.load_onlyRenders tree, fun plan => plan.build_onlyRenders tree, validate_for_hero tree⟩

end Gamebook
