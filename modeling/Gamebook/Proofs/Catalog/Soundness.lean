/-
This file shows that every catalog that is ever made is sound:
its ids are distinct and its own references lead to its entries.
-/

import Gamebook.Catalog.Load
import Mathlib.Data.List.Nodup

namespace Gamebook.Catalog

section Entries

variable {A : Type} [CatalogEntry A]

theorem find?_isSome_iff {catalog : Catalog A} {id : String} :
    (catalog.find? id).isSome ↔ ∃ entry ∈ catalog.entries, CatalogEntry.id entry = id := by
  simp [find?]

theorem contains_iff {catalog : Catalog A} {id : String} :
    catalog.contains id = true ↔ ∃ entry ∈ catalog.entries, CatalogEntry.id entry = id :=
  find?_isSome_iff

theorem contains_iff_mem_ids {catalog : Catalog A} {id : String} :
    catalog.contains id = true ↔ id ∈ catalog.ids := by
  simp [contains_iff, ids]

/-- An entry that is found is listed under the id that was asked for. -/
theorem mem_of_find? {catalog : Catalog A} {id : String} {entry : A}
    (found : catalog.find? id = some entry) :
    entry ∈ catalog.entries ∧ CatalogEntry.id entry = id := by
  have matched := List.find?_some found
  exact ⟨List.mem_of_find?_eq_some found, by simpa using matched⟩

theorem exists_get_iff {catalog : Catalog A} {id : String} :
    (∃ entry, catalog.get id = .ok entry) ↔ catalog.contains id = true := by
  cases found : catalog.find? id <;> simp [get, contains, found]

/-- A sound catalog has distinct ids, and its own references lead to its entries. -/
structure Sound (catalog : Catalog A) : Prop where
  distinct : catalog.ids.Nodup
  closed : ∀ entry ∈ catalog.entries,
    CatalogEntry.dangling? catalog.contains entry = none

/-- With distinct ids the first entry with an id is the only one. -/
theorem find?_eq_some_iff {catalog : Catalog A} (distinct : catalog.ids.Nodup)
    {id : String} {entry : A} :
    catalog.find? id = some entry ↔
      entry ∈ catalog.entries ∧ CatalogEntry.id entry = id := by
  constructor
  · exact mem_of_find?
  · rintro ⟨listed, rfl⟩
    obtain ⟨other, found⟩ := Option.isSome_iff_exists.mp
      (find?_isSome_iff.mpr ⟨entry, listed, rfl⟩)
    have otherFacts := mem_of_find? found
    have same : other = entry :=
      List.inj_on_of_nodup_map distinct otherFacts.1 listed otherFacts.2
    rw [found, same]

theorem sound_empty : (empty : Catalog A).Sound where
  distinct := by simp [empty, ids]
  closed := by simp [empty]

theorem insert_eq_ok_iff {catalog larger : Catalog A} {path : Option String} {entry : A} :
    catalog.insert path entry = .ok larger ↔
      CatalogEntry.id entry ∉ catalog.ids ∧ larger = ⟨catalog.entries ++ [entry]⟩ := by
  rw [insert, ← contains_iff_mem_ids]
  split <;> rename_i taken <;> simp [taken, eq_comm]

theorem insert_distinct {catalog larger : Catalog A} {path : Option String} {entry : A}
    (distinct : catalog.ids.Nodup) (inserted : catalog.insert path entry = .ok larger) :
    larger.ids.Nodup := by
  obtain ⟨fresh, rfl⟩ := insert_eq_ok_iff.mp inserted
  have joined : (⟨catalog.entries ++ [entry]⟩ : Catalog A).ids =
      catalog.ids ++ [CatalogEntry.id entry] := by simp [ids]
  rw [joined]
  exact List.nodup_append.mpr ⟨distinct, List.nodup_singleton _, by
    intro id listed other only same
    rw [List.mem_singleton] at only
    exact fresh (only ▸ same ▸ listed)⟩

theorem resolved_eq_ok_iff {catalog result : Catalog A} :
    catalog.resolved = .ok result ↔
      result = catalog ∧
        ∀ entry ∈ catalog.entries, CatalogEntry.dangling? catalog.contains entry = none := by
  rw [resolved, ← List.findSome?_eq_none_iff]
  split <;> rename_i found <;> simp [found, eq_comm]

theorem insertAll_distinct {catalog larger : Catalog A} {added : List A}
    (distinct : catalog.ids.Nodup) (inserted : catalog.insertAll added = .ok larger) :
    larger.ids.Nodup := by
  induction added generalizing catalog with
  | nil =>
      cases inserted
      exact distinct
  | cons entry rest inductionHypothesis =>
      rw [insertAll] at inserted
      split at inserted
      next first firstInserted =>
        exact inductionHypothesis (insert_distinct distinct firstInserted) inserted
      next => cases inserted

theorem sound_of_resolved {catalog result : Catalog A} (distinct : catalog.ids.Nodup)
    (accepted : catalog.resolved = .ok result) : result.Sound := by
  obtain ⟨rfl, closed⟩ := resolved_eq_ok_iff.mp accepted
  exact ⟨distinct, closed⟩

theorem sound_of_ofList {entries : List A} {catalog : Catalog A}
    (made : ofList entries = .ok catalog) : catalog.Sound := by
  rw [ofList] at made
  split at made
  next inserted all => exact sound_of_resolved (insertAll_distinct sound_empty.distinct all) made
  next => cases made

end Entries

section Files

variable {A : Type} [Authored A]

theorem insertFiles_distinct {tree : FileTree} {context : TemplateContext}
    {catalog larger : Catalog A} {paths : List String} (distinct : catalog.ids.Nodup)
    (inserted : catalog.insertFiles tree context paths = .ok larger) : larger.ids.Nodup := by
  induction paths generalizing catalog with
  | nil =>
      cases inserted
      exact distinct
  | cons path rest inductionHypothesis =>
      rw [insertFiles] at inserted
      split at inserted
      next => cases inserted
      next entry loaded =>
        split at inserted
        next => cases inserted
        next first firstInserted =>
          exact inductionHypothesis (insert_distinct distinct firstInserted) inserted

theorem sound_of_load {tree : FileTree} {directory : String} {context : TemplateContext}
    {catalog : Catalog A} (loaded : load tree directory context = .ok catalog) :
    catalog.Sound := by
  rw [load] at loaded
  split at loaded
  next => cases loaded
  next paths listed =>
    split at loaded
    next => cases loaded
    next inserted all =>
      exact sound_of_resolved (insertFiles_distinct sound_empty.distinct all) loaded

/-- A catalog is made from a list, loaded from a directory, or left empty. -/
inductive Built : Catalog A → Prop
  | ofList {entries : List A} {catalog : Catalog A}
      (made : Catalog.ofList entries = .ok catalog) : Built catalog
  | load {tree : FileTree} {directory : String} {context : TemplateContext}
      {catalog : Catalog A}
      (loaded : Catalog.load tree directory context = .ok catalog) : Built catalog
  | empty : Built Catalog.empty

/-- No way of making a catalog leads to one that is not sound. -/
theorem Built.sound {catalog : Catalog A} (built : catalog.Built) : catalog.Sound := by
  cases built with
  | ofList made => exact sound_of_ofList made
  | load loaded => exact sound_of_load loaded
  | empty => exact sound_empty

end Files

end Gamebook.Catalog
