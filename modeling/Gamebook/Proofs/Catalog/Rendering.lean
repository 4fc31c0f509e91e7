/-
This file shows that the hero for whom a catalog is loaded only decides how its texts are rendered.
No id and no reference of an entry comes from a rendered text.
-/

import Gamebook.Proofs.Catalog.Soundness
import Gamebook.Proofs.Compile.Draft

namespace Gamebook

/-- Entries are drafted from definitions and then rendered, which leaves ids and references. -/
class Drafted (A : Type) [Authored A] where
  IsDraft : Authored.Definition A → A → Prop
  rendered : TemplateContext → A → A
  id_rendered : ∀ context entry, CatalogEntry.id (rendered context entry) = CatalogEntry.id entry
  dangling?_rendered : ∀ known context entry,
    CatalogEntry.dangling? known (rendered context entry) = CatalogEntry.dangling? known entry
  compile_onlyRenders : ∀ definition : Authored.Definition A,
    OnlyRenders (IsDraft definition) rendered (Authored.compile · definition)

instance : Drafted Event where
  IsDraft := EventDefinition.IsDraft
  rendered := Event.rendered
  id_rendered _ _ := rfl
  dangling?_rendered _ _ _ := List.findSome?_map
  compile_onlyRenders := EventDefinition.compile_onlyRenders

/-- An entry without rendered texts is its own draft. -/
theorem onlyRenders_id {E A : Type} (result : Except E A) :
    OnlyRenders (result = .ok ·) (fun _ => id) (fun _ => result) := by
  cases result with
  | error error => exact .inl ⟨error, fun _ => rfl⟩
  | ok draft => exact .inr ⟨draft, rfl, fun _ => rfl⟩

instance : Drafted Item where
  IsDraft definition item := definition.compile = .ok item
  rendered _ := id
  id_rendered _ _ := rfl
  dangling?_rendered _ _ _ := rfl
  compile_onlyRenders definition := onlyRenders_id definition.compile

instance : Drafted Node where
  IsDraft definition node := definition.compile = .ok node
  rendered _ := id
  id_rendered _ _ := rfl
  dangling?_rendered _ _ _ := rfl
  compile_onlyRenders definition := onlyRenders_id definition.compile

section

variable {A : Type} [Authored A] [Drafted A]

/-- This entry is the draft of what is written in a file. -/
def FileTree.IsDraft (tree : FileTree) (path : String) (entry : A) : Prop :=
  ∃ definition, tree.definition (Authored.reader (A := A)) path = .ok definition ∧
    Drafted.IsDraft definition entry

/-- These entries are the drafts of the files of a directory, one for each file. -/
def FileTree.IsDraftCatalog (tree : FileTree) (directory : String) (catalog : Catalog A) : Prop :=
  ∃ paths, tree.contentPaths directory = .ok paths ∧
    List.Forall₂ tree.IsDraft paths catalog.entries

/-- This renders all entries of a catalog. -/
def Catalog.rendered (context : TemplateContext) (catalog : Catalog A) : Catalog A :=
  ⟨catalog.entries.map (Drafted.rendered context)⟩

theorem loadFile_onlyRenders (tree : FileTree) (path : String) :
    OnlyRenders (tree.IsDraft path) Drafted.rendered
      (fun context => (loadFile tree context path : Except LoadError A)) := by
  cases read : tree.definition (Authored.reader (A := A)) path with
  | error error => exact .inl ⟨error, fun context => by simp only [loadFile, read]⟩
  | ok definition =>
      cases blank : blankFields path definition with
      | cons error others => exact .inl ⟨error, fun context => by simp only [loadFile, read, blank]⟩
      | nil =>
          rcases Drafted.compile_onlyRenders definition with
            ⟨error, refused⟩ | ⟨draft, isDraft, compiled⟩
          · refine .inl ⟨.compile path error, fun context => ?_⟩
            simp only [loadFile, read, blank, refused, Except.mapError]
          · refine .inr ⟨draft, ⟨definition, read, isDraft⟩, fun context => ?_⟩
            simp only [loadFile, read, blank, compiled, Except.mapError]

namespace Catalog

theorem find?_rendered (context : TemplateContext) (catalog : Catalog A) (id : String) :
    (catalog.rendered context).find? id = (catalog.find? id).map (Drafted.rendered context) := by
  have same : (fun entry => CatalogEntry.id entry == id) ∘ Drafted.rendered context =
      fun entry : A => CatalogEntry.id entry == id :=
    funext fun entry => by rw [Function.comp_apply, Drafted.id_rendered]
  rw [find?, find?, rendered, List.find?_map, same]

theorem contains_rendered (context : TemplateContext) (catalog : Catalog A) (id : String) :
    (catalog.rendered context).contains id = catalog.contains id := by
  rw [contains, contains, find?_rendered, Option.isSome_map]

theorem ids_rendered (context : TemplateContext) (catalog : Catalog A) :
    (catalog.rendered context).ids = catalog.ids := by
  simp [ids, rendered, Drafted.id_rendered]

/-- Inserting a rendered entry does the same as rendering after the insertion. -/
theorem insert_rendered (context : TemplateContext) (catalog : Catalog A) (path : Option String)
    (entry : A) :
    (catalog.rendered context).insert path (Drafted.rendered context entry) =
      (catalog.insert path entry).map (rendered context) := by
  simp only [insert, contains_rendered, Drafted.id_rendered]
  split
  · rfl
  · simp [Except.map, rendered]

theorem resolved_rendered (context : TemplateContext) (catalog : Catalog A) :
    (catalog.rendered context).resolved = catalog.resolved.map (rendered context) := by
  have known : (catalog.rendered context).contains = catalog.contains :=
    funext (contains_rendered context catalog)
  have same : CatalogEntry.dangling? catalog.contains ∘ Drafted.rendered context =
      CatalogEntry.dangling? (A := A) catalog.contains :=
    funext (Drafted.dangling?_rendered catalog.contains context)
  rw [resolved, resolved, known, rendered, List.findSome?_map, same]
  split <;> rfl

/-- All files are inserted into a rendered catalog as they are for every other hero. -/
theorem insertFiles_onlyRenders (tree : FileTree) (catalog : Catalog A) (paths : List String) :
    OnlyRenders
      (fun larger : Catalog A => ∃ added, List.Forall₂ tree.IsDraft paths added ∧
        larger.entries = catalog.entries ++ added)
      rendered (fun context => (catalog.rendered context).insertFiles tree context paths) := by
  -- The catalog so far is a draft, and every hero's loader goes on from its own rendering of it.
  induction paths generalizing catalog with
  | nil => exact .inr ⟨catalog, ⟨[], .nil, (List.append_nil _).symm⟩, fun _ => rfl⟩
  | cons path rest inductionHypothesis =>
      rcases loadFile_onlyRenders (A := A) tree path with
        ⟨error, refused⟩ | ⟨draft, isDraft, loaded⟩
      · exact .inl ⟨error, fun context => by simp only [insertFiles, refused]⟩
      · cases inserted : catalog.insert (some path) draft with
        | error error =>
            refine .inl ⟨error, fun context => ?_⟩
            simp only [insertFiles, loaded, insert_rendered, inserted, Except.map]
        | ok larger =>
            have step : ∀ context, (catalog.rendered context).insertFiles tree context (path :: rest) =
                (larger.rendered context).insertFiles tree context rest := fun context => by
              simp only [insertFiles, loaded, insert_rendered, inserted, Except.map]
            rcases inductionHypothesis larger with
              ⟨error, refused⟩ | ⟨final, ⟨added, areDrafts, grown⟩, loadedAll⟩
            · exact .inl ⟨error, fun context => (step context).trans (refused context)⟩
            · refine .inr ⟨final, ⟨draft :: added, .cons isDraft areDrafts, ?_⟩,
                fun context => (step context).trans (loadedAll context)⟩
              obtain ⟨-, rfl⟩ := insert_eq_ok_iff.mp inserted
              rw [grown, List.append_assoc]
              rfl

/-- The hero for whom a directory is loaded only decides how its texts are rendered. -/
theorem load_onlyRenders (tree : FileTree) (directory : String) :
    OnlyRenders (tree.IsDraftCatalog directory) rendered
      (fun context => (load tree directory context : Except LoadError (Catalog A))) := by
  cases listed : tree.contentPaths directory with
  | error error => exact .inl ⟨error, fun context => by simp only [load, listed]⟩
  | ok paths =>
      have start : ∀ context, (empty : Catalog A).rendered context = empty := fun _ => rfl
      rcases insertFiles_onlyRenders (A := A) tree empty paths with
        ⟨error, refused⟩ | ⟨draft, ⟨added, areDrafts, grown⟩, inserted⟩
      · simp only [start] at refused
        exact .inl ⟨error, fun context => by simp only [load, listed, refused]⟩
      · simp only [start] at inserted
        have step : ∀ context, load tree directory context =
            draft.resolved.map (rendered context) := fun context => by
          simp only [load, listed, inserted, resolved_rendered]
        cases closed : draft.resolved with
        | error error => exact .inl ⟨error, fun context => by simp only [step, closed, Except.map]⟩
        | ok catalog =>
            obtain ⟨rfl, -⟩ := resolved_eq_ok_iff.mp closed
            refine .inr ⟨catalog, ⟨paths, listed, ?_⟩, fun context => ?_⟩
            · rw [grown]
              exact areDrafts
            · simp only [step, closed, Except.map]

end Catalog

end

end Gamebook
