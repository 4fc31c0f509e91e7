/-
This file shows that a catalog can be kept with an index of the positions of its ids.
An entry that is inserted is written into the index, and nothing else ever is. A lookup through the
index then finds what a scan of all entries finds.
-/

import Gamebook.Proofs.Catalog.Soundness

namespace Gamebook

/-- A shelf holds entries and the position of every id among them. -/
structure Shelf (A : Type) where
  entries : List A
  index : Std.HashMap String Nat

namespace Shelf

variable {A : Type}

def empty : Shelf A := ⟨[], ∅⟩

/-- This forgets the index. -/
def catalog (shelf : Shelf A) : Catalog A := ⟨shelf.entries⟩

def contains (shelf : Shelf A) (id : String) : Bool :=
  shelf.index.contains id

/-- The index says where the entry stands. -/
def find? (shelf : Shelf A) (id : String) : Option A :=
  shelf.index[id]?.bind fun position => shelf.entries[position]?

variable [CatalogEntry A]

/-- A new entry stands behind all others. -/
def insert (shelf : Shelf A) (path : Option String) (entry : A) : Except LoadError (Shelf A) :=
  if shelf.contains (CatalogEntry.id entry) then
    .error (.duplicateId (CatalogEntry.kind A) (CatalogEntry.id entry) path)
  else
    .ok ⟨shelf.entries ++ [entry],
      shelf.index.insert (CatalogEntry.id entry) shelf.entries.length⟩

def insertAll (shelf : Shelf A) : List A → Except LoadError (Shelf A)
  | [] => .ok shelf
  | entry :: rest =>
      match shelf.insert none entry with
      | .ok larger => larger.insertAll rest
      | .error error => .error error

/-- The index is right when it knows the position at which a scan meets each id first. -/
def Indexed (shelf : Shelf A) : Prop :=
  ∀ id, shelf.index[id]? = shelf.entries.findIdx? fun entry => CatalogEntry.id entry == id

theorem indexed_empty : (empty : Shelf A).Indexed := by
  intro id
  rw [empty, Std.HashMap.getElem?_empty]
  rfl

namespace Indexed

variable {shelf : Shelf A} (indexed : shelf.Indexed)

include indexed

theorem contains_eq (id : String) : shelf.contains id = shelf.catalog.contains id := by
  have scanned : (shelf.index[id]?).isSome = shelf.catalog.contains id := by
    rw [indexed id, Catalog.contains, Catalog.find?, List.findIdx?_isSome, List.isSome_find?]
    rfl
  rw [contains, Std.HashMap.contains_eq_isSome_getElem?, scanned]

theorem find?_eq (id : String) : shelf.find? id = shelf.catalog.find? id := by
  rw [find?, indexed id, Catalog.find?, List.find?_eq_bind_findIdx?_getElem?]
  rfl

/-- An insertion writes the right position into the index. -/
theorem insert {path : Option String} {entry : A} {larger : Shelf A}
    (inserted : shelf.insert path entry = .ok larger) : larger.Indexed := by
  rw [Shelf.insert] at inserted
  split at inserted
  next => cases inserted
  next unknown =>
    cases inserted
    intro id
    dsimp only
    rw [Std.HashMap.getElem?_insert, List.findIdx?_append, ← indexed id]
    by_cases same : CatalogEntry.id entry = id
    · subst same
      -- The id was unknown, so that a scan meets it first at the end, where the entry is put.
      have absent : shelf.index[CatalogEntry.id entry]? = none := by
        simpa [contains] using unknown
      simp [absent]
    · simp [same]

/-- Whether an id is taken does not depend on the index. -/
theorem insert_map_catalog (path : Option String) (entry : A) :
    (shelf.insert path entry).map catalog = shelf.catalog.insert path entry := by
  rw [Shelf.insert, Catalog.insert, indexed.contains_eq]
  split <;> rfl

/-- Inserting many entries keeps the index right and adds what a catalog without one gets. -/
theorem insertAll {added : List A} {larger : Catalog A}
    (inserted : shelf.catalog.insertAll added = .ok larger) :
    ∃ final, shelf.insertAll added = .ok final ∧ final.catalog = larger ∧ final.Indexed := by
  induction added generalizing shelf with
  | nil =>
      cases inserted
      exact ⟨shelf, rfl, rfl, indexed⟩
  | cons entry rest inductionHypothesis =>
      rw [Catalog.insertAll, ← indexed.insert_map_catalog] at inserted
      rw [Shelf.insertAll]
      cases step : shelf.insert none entry with
      | error error => simp [step, Except.map] at inserted
      | ok next =>
          rw [step] at inserted
          exact inductionHypothesis (indexed.insert step) inserted

end Indexed

end Shelf

namespace Catalog

variable {A : Type} [CatalogEntry A]

/-- Entries with distinct ids can be inserted one after the other. -/
theorem insertAll_of_distinct {catalog : Catalog A} {added : List A}
    (distinct : (⟨catalog.entries ++ added⟩ : Catalog A).ids.Nodup) :
    catalog.insertAll added = .ok ⟨catalog.entries ++ added⟩ := by
  induction added generalizing catalog with
  | nil => rw [insertAll, List.append_nil]
  | cons entry rest inductionHypothesis =>
      have fresh : CatalogEntry.id entry ∉ catalog.ids := by
        intro taken
        rw [ids, List.map_append] at distinct
        exact (List.nodup_append.mp distinct).2.2 _ taken _ List.mem_cons_self rfl
      rw [insertAll, insert_eq_ok_iff.mpr ⟨fresh, rfl⟩]
      dsimp only
      rw [inductionHypothesis, List.append_assoc]
      · rfl
      · rw [List.append_assoc]
        exact distinct

/-- A catalog with distinct ids can be put on a shelf, and looking up an id there is the same. -/
theorem exists_shelf {catalog : Catalog A} (distinct : catalog.ids.Nodup) :
    ∃ shelf, Shelf.empty.insertAll catalog.entries = .ok shelf ∧ shelf.entries = catalog.entries ∧
      ∀ id, shelf.find? id = catalog.find? id := by
  have inserted : Catalog.empty.insertAll catalog.entries = .ok catalog :=
    insertAll_of_distinct distinct
  obtain ⟨shelf, filled, same, indexed⟩ := Shelf.indexed_empty.insertAll inserted
  refine ⟨shelf, filled, congrArg Catalog.entries same, fun id => ?_⟩
  rw [indexed.find?_eq, same]

end Catalog

end Gamebook
