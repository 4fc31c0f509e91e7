/-
This file loads content again while its files stay as they are. Content that was loaded once is
loaded for every hero, and it differs in rendered texts only.
-/

import Gamebook.Proofs.Content.Rendering
import Gamebook.Proofs.Content.Closure

namespace Gamebook

/-- Two contents have the same ids when no event, item or node is in only one of them. -/
structure Content.SameIds (content other : Content) : Prop where
  events : content.events.ids = other.events.ids
  items : content.items.ids = other.items.ids
  nodes : content.nodes.ids = other.nodes.ids

theorem Content.rendered_sameIds (draft : Content) (first second : TemplateContext) :
    (draft.rendered first).SameIds (draft.rendered second) where
  events := (Catalog.ids_rendered first draft.events).trans
    (Catalog.ids_rendered second draft.events).symm
  items := rfl
  nodes := rfl

/-- The files hold drafted content when it is loaded from them for every hero. -/
structure FileTree.Holds (tree : FileTree) (draft : Content) : Prop where
  drafted : draft.IsDraft tree draft.paths
  loads : ∀ context, Content.load tree draft.paths context = .ok (draft.rendered context)

/-- Content that is loaded renders a draft that the files hold. -/
theorem Content.exists_held {tree : FileTree} {paths : ContentPaths} {context : TemplateContext}
    {content : Content} (loaded : load tree paths context = .ok content) :
    ∃ draft, tree.Holds draft ∧ draft.paths = paths ∧ content = draft.rendered context := by
  rcases load_onlyRenders tree paths with ⟨error, refused⟩ | ⟨draft, drafted, loads⟩
  · cases (refused context).symm.trans loaded
  · obtain rfl := drafted.placed
    exact ⟨draft, ⟨drafted, loads⟩, rfl, Except.ok.inj (loaded.symm.trans (loads context))⟩

namespace FileTree.Holds

variable {tree : FileTree} {draft : Content} (holds : tree.Holds draft)

include holds

/-- A reload always succeeds, and it renders the same draft again. -/
theorem reloadWith_eq (earlier context : TemplateContext) :
    (draft.rendered earlier).reloadWith tree context = (draft.rendered context, .ok ()) := by
  have loaded : Content.load tree (draft.rendered earlier).paths context = _ := holds.loads context
  rw [Content.reloadWith, loaded]

theorem items_sound : draft.items.Sound :=
  (Content.items_built (holds.loads draft.context)).sound

end FileTree.Holds

end Gamebook
