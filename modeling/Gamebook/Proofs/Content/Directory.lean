/-
This file says what loading a directory comes to. Its content files are loaded in the order of the
bytes of their names, and the entries make the catalog that the same list of entries makes. When
they make none, the first file that fails or repeats an id is told, and only when there is none the
first reference that leads nowhere.
-/

import Gamebook.Proofs.Catalog.Order
import Gamebook.Proofs.Content.Listing
import Gamebook.Proofs.Content.Reference
import Mathlib.Data.List.Forall2

namespace Gamebook

namespace Catalog

section

variable {A : Type} [CatalogEntry A] [Referring A]

/-- A catalog is refused for the first reference that is followed in vain. -/
theorem resolved_eq_error_iff {catalog : Catalog A} {error : LoadError} :
    catalog.resolved = .error error ↔
      ∃ before reference after,
        catalog.entries.flatMap Referring.references = before ++ reference :: after ∧
          (∀ earlier ∈ before, earlier.fault? = none ∨ earlier.target ∈ catalog.ids) ∧
          reference.target ∉ catalog.ids ∧ reference.fault? = some error := by
  have told : catalog.resolved = .error error ↔
      (catalog.entries.flatMap Referring.references).findSome?
        (Reference.faultBeside? catalog.contains) = some error := by
    rw [findSome?_flatMap, resolved]
    simp only [← Referring.dangling?_eq]
    split <;> rename_i found <;> simp [found]
  simp only [told, List.findSome?_eq_some_iff, Reference.faultBeside?_eq_none_iff,
    Reference.faultBeside?_eq_some_iff, contains_iff_mem_ids]
  constructor
  · rintro ⟨before, reference, after, split, missed, kept⟩
    exact ⟨before, reference, after, split, kept, missed⟩
  · rintro ⟨before, reference, after, split, kept, missed⟩
    exact ⟨before, reference, after, split, missed, kept⟩

end

section

variable {A : Type} [CatalogEntry A] {catalog larger : Catalog A}

/-- An entry is only refused when its id is taken. -/
theorem insert_eq_error_iff {path : Option String} {entry : A} {error : LoadError} :
    catalog.insert path entry = .error error ↔
      CatalogEntry.id entry ∈ catalog.ids ∧
        error = .duplicateId (CatalogEntry.kind A) (CatalogEntry.id entry) path := by
  rw [insert, ← contains_iff_mem_ids]
  split <;> rename_i taken <;> simp [taken, eq_comm]

theorem empty_insertAll_eq_ok_iff {entries : List A} :
    Catalog.empty.insertAll entries = .ok larger ↔
      (entries.map CatalogEntry.id).Nodup ∧ larger = ⟨entries⟩ := by
  constructor
  · intro inserted
    have distinct := insertAll_distinct sound_empty.distinct inserted
    obtain rfl := entries_of_insertAll inserted
    exact ⟨distinct, rfl⟩
  · rintro ⟨distinct, rfl⟩
    exact insertAll_of_distinct distinct

end

section

variable {A : Type} [Authored A] {tree : FileTree} {context : TemplateContext}
  {catalog larger : Catalog A} {paths : List String}

/-- Every file is loaded on its own, and these are the entries in the order of their files. -/
def LoadsAs (tree : FileTree) (context : TemplateContext) (paths : List String)
    (entries : List A) : Prop :=
  List.Forall₂ (fun path entry => loadFile tree context path = .ok entry) paths entries

/-- A file is refused when it fails to load or repeats one of the ids. -/
inductive FileRefused (A : Type) [Authored A] (tree : FileTree) (context : TemplateContext)
    (ids : List String) (path : String) : LoadError → Prop
  | failed {error : LoadError} (failed : loadFile (A := A) tree context path = .error error) :
      FileRefused A tree context ids path error
  | repeated {entry : A} (loaded : loadFile tree context path = .ok entry)
      (taken : CatalogEntry.id entry ∈ ids) :
      FileRefused A tree context ids path
        (.duplicateId (CatalogEntry.kind A) (CatalogEntry.id entry) (some path))

/-- The first of several files is loaded and inserted before the others. -/
theorem insertFiles_cons_eq_ok_iff {path : String} {rest : List String} :
    catalog.insertFiles tree context (path :: rest) = .ok larger ↔
      ∃ entry first, loadFile tree context path = .ok entry ∧
        catalog.insert (some path) entry = .ok first ∧
        first.insertFiles tree context rest = .ok larger := by
  rw [insertFiles]
  constructor
  · intro inserted
    split at inserted
    next => cases inserted
    next entry loaded =>
      split at inserted
      next => cases inserted
      next first added => exact ⟨entry, first, loaded, added, inserted⟩
  · rintro ⟨entry, first, loaded, added, inserted⟩
    rw [loaded]
    dsimp only
    rw [added]
    exact inserted

/-- Inserting several files stops at the first of them or, when that one is inserted, later. -/
theorem insertFiles_cons_eq_error_iff {path : String} {rest : List String} {error : LoadError} :
    catalog.insertFiles tree context (path :: rest) = .error error ↔
      FileRefused A tree context catalog.ids path error ∨
        ∃ entry first, loadFile tree context path = .ok entry ∧
          catalog.insert (some path) entry = .ok first ∧
          first.insertFiles tree context rest = .error error := by
  rw [insertFiles]
  constructor
  · intro stopped
    split at stopped
    next fault failed =>
      cases stopped
      exact .inl (.failed failed)
    next entry loaded =>
      split at stopped
      next fault refused =>
        cases stopped
        obtain ⟨taken, rfl⟩ := insert_eq_error_iff.mp refused
        exact .inl (.repeated loaded taken)
      next first added => exact .inr ⟨entry, first, loaded, added, stopped⟩
  · rintro (refused | ⟨entry, first, loaded, added, stopped⟩)
    · cases refused with
      | failed failed => rw [failed]
      | repeated loaded taken =>
          rw [loaded]
          dsimp only
          rw [insert_eq_error_iff.mpr ⟨taken, rfl⟩]
    · rw [loaded]
      dsimp only
      rw [added]
      exact stopped

/-- Files are inserted when all of them are loaded and their entries can be inserted. -/
theorem insertFiles_eq_ok_iff_loadsAs :
    catalog.insertFiles tree context paths = .ok larger ↔
      ∃ entries, LoadsAs tree context paths entries ∧ catalog.insertAll entries = .ok larger := by
  induction paths generalizing catalog with
  | nil =>
      constructor
      · intro inserted
        exact ⟨[], .nil, inserted⟩
      · rintro ⟨_, ⟨⟩, inserted⟩
        exact inserted
  | cons path rest inductionHypothesis =>
      rw [insertFiles_cons_eq_ok_iff]
      constructor
      · rintro ⟨entry, first, loaded, added, inserted⟩
        obtain ⟨entries, loads, all⟩ := inductionHypothesis.mp inserted
        refine ⟨entry :: entries, .cons loaded loads, ?_⟩
        rw [insertAll, insert_eq_ok_iff.mpr (insert_eq_ok_iff.mp added)]
        exact all
      · rintro ⟨entries, loads, all⟩
        obtain ⟨entry, others, loaded, later, rfl⟩ := List.forall₂_cons_left_iff.mp loads
        rw [insertAll] at all
        split at all
        next first added =>
          exact ⟨entry, first, loaded, insert_eq_ok_iff.mpr (insert_eq_ok_iff.mp added),
            inductionHypothesis.mpr ⟨others, later, all⟩⟩
        next => cases all

theorem empty_insertFiles_eq_ok_iff :
    Catalog.empty.insertFiles tree context paths = .ok larger ↔
      ∃ entries, LoadsAs tree context paths entries ∧ (entries.map CatalogEntry.id).Nodup ∧
        larger = ⟨entries⟩ := by
  rw [insertFiles_eq_ok_iff_loadsAs]
  exact exists_congr fun entries => and_congr_right fun _ => empty_insertAll_eq_ok_iff

/-- Inserting stops at the first file that is refused beside those before it. -/
theorem insertFiles_eq_error_iff {error : LoadError} :
    catalog.insertFiles tree context paths = .error error ↔
      ∃ before path after larger, paths = before ++ path :: after ∧
        catalog.insertFiles tree context before = .ok larger ∧
        FileRefused A tree context larger.ids path error := by
  induction paths generalizing catalog with
  | nil =>
      constructor
      · intro stopped
        cases stopped
      · rintro ⟨before, path, after, larger, split, -⟩
        exact (List.append_ne_nil_of_right_ne_nil before (List.cons_ne_nil _ _) split.symm).elim
  | cons path rest inductionHypothesis =>
      rw [insertFiles_cons_eq_error_iff]
      constructor
      · rintro (refused | ⟨entry, first, loaded, added, stopped⟩)
        · exact ⟨[], path, rest, catalog, rfl, rfl, refused⟩
        · obtain ⟨before, later, after, larger, rfl, inserted, refused⟩ :=
            inductionHypothesis.mp stopped
          have whole := insertFiles_cons_eq_ok_iff.mpr ⟨entry, first, loaded, added, inserted⟩
          exact ⟨path :: before, later, after, larger, rfl, whole, refused⟩
      · rintro ⟨before, later, after, larger, split, inserted, refused⟩
        cases before with
        | nil =>
            cases split
            cases inserted
            exact .inl refused
        | cons _ others =>
            cases split
            obtain ⟨entry, first, loaded, added, whole⟩ := insertFiles_cons_eq_ok_iff.mp inserted
            exact .inr ⟨entry, first, loaded, added,
              inductionHypothesis.mpr ⟨others, later, after, larger, rfl, whole, refused⟩⟩

/-- The first fault is that of the first file that is refused. When every file is loaded and no id is
repeated, it is the first reference that the loader follows to no id of the entries. -/
inductive FirstFault (A : Type) [Authored A] [Referring A] (tree : FileTree)
    (context : TemplateContext) (paths : List String) : LoadError → Prop
  | file {before after : List String} {path : String} {entries : List A} {error : LoadError}
      (split : paths = before ++ path :: after)
      (loaded : LoadsAs tree context before entries)
      (distinct : (entries.map CatalogEntry.id).Nodup)
      (refused : FileRefused A tree context (entries.map CatalogEntry.id) path error) :
      FirstFault A tree context paths error
  | reference {entries : List A} {before after : List Reference} {reference : Reference}
      {error : LoadError}
      (loaded : LoadsAs tree context paths entries)
      (distinct : (entries.map CatalogEntry.id).Nodup)
      (split : entries.flatMap Referring.references = before ++ reference :: after)
      (kept : ∀ earlier ∈ before,
        earlier.fault? = none ∨ earlier.target ∈ entries.map CatalogEntry.id)
      (missed : reference.target ∉ entries.map CatalogEntry.id)
      (followed : reference.fault? = some error) :
      FirstFault A tree context paths error

section

variable {directory : String} (listed : tree.contentPaths directory = .ok paths)

include listed

/-- A directory makes the catalog that the list of its entries makes. -/
theorem load_eq_ok_iff_loadsAs :
    Catalog.load tree directory context = .ok catalog ↔
      ∃ entries, LoadsAs tree context paths entries ∧ ofList entries = .ok catalog := by
  rw [load, listed]
  dsimp only
  constructor
  · intro loaded
    split at loaded
    next => cases loaded
    next larger inserted =>
      obtain ⟨entries, loads, all⟩ := insertFiles_eq_ok_iff_loadsAs.mp inserted
      refine ⟨entries, loads, ?_⟩
      rw [ofList, all]
      exact loaded
  · rintro ⟨entries, loads, made⟩
    rw [ofList] at made
    split at made
    next larger all =>
      rw [insertFiles_eq_ok_iff_loadsAs.mpr ⟨entries, loads, all⟩]
      exact made
    next => cases made

theorem load_eq_error_iff [Referring A] {error : LoadError} :
    Catalog.load (A := A) tree directory context = .error error ↔
      FirstFault A tree context paths error := by
  rw [load, listed]
  dsimp only
  constructor
  · intro stopped
    split at stopped
    next fault failed =>
      cases stopped
      obtain ⟨before, path, after, larger, split, inserted, refused⟩ :=
        insertFiles_eq_error_iff.mp failed
      obtain ⟨entries, loads, distinct, rfl⟩ := empty_insertFiles_eq_ok_iff.mp inserted
      exact .file split loads distinct refused
    next larger inserted =>
      obtain ⟨entries, loads, distinct, rfl⟩ := empty_insertFiles_eq_ok_iff.mp inserted
      obtain ⟨before, reference, after, split, kept, missed, followed⟩ :=
        resolved_eq_error_iff.mp stopped
      exact .reference loads distinct split kept missed followed
  · intro fault
    cases fault with
    | file split loads distinct refused =>
        have inserted := empty_insertFiles_eq_ok_iff.mpr ⟨_, loads, distinct, rfl⟩
        rw [insertFiles_eq_error_iff.mpr ⟨_, _, _, _, split, inserted, refused⟩]
    | reference loads distinct split kept missed followed =>
        rw [empty_insertFiles_eq_ok_iff.mpr ⟨_, loads, distinct, rfl⟩]
        exact resolved_eq_error_iff.mpr ⟨_, _, _, split, kept, missed, followed⟩

end

/-- Files are only looked at for what is loaded from them. -/
theorem insertFiles_congr {other : FileTree}
    (same : ∀ path, loadFile (A := A) other context path = loadFile tree context path) :
    catalog.insertFiles other context paths = catalog.insertFiles tree context paths := by
  induction paths generalizing catalog with
  | nil => rfl
  | cons path rest inductionHypothesis =>
      rw [insertFiles, insertFiles, same]
      cases loadFile (A := A) tree context path with
      | error error => rfl
      | ok entry =>
          dsimp only
          cases catalog.insert (some path) entry with
          | error error => rfl
          | ok larger => exact inductionHypothesis

/-- A directory is loaded in the order of the names. It makes the catalog that the list of its
entries makes, or it is refused for the first fault, and another listing of it changes nothing. -/
structure LoadsInOrder (A : Type) [Authored A] [Referring A] (tree : FileTree) (directory : String)
    (context : TemplateContext) (names : List String) : Prop where
  accepted : ∀ catalog : Catalog A, Catalog.load tree directory context = .ok catalog ↔
    ∃ entries, LoadsAs tree context (names.map (joinPath directory)) entries ∧
      ofList entries = .ok catalog
  refused : ∀ error, Catalog.load (A := A) tree directory context = .error error ↔
    FirstFault A tree context (names.map (joinPath directory)) error
  relisted : ∀ other, tree.Relisted other →
    Catalog.load (A := A) other directory context = Catalog.load tree directory context

theorem loadsInOrder [Referring A] {directory : String} {names : List String}
    (isDirectory : tree.isDirectory directory = true)
    (named : tree.ContentNames directory names) :
    LoadsInOrder A tree directory context names where
  accepted _ := load_eq_ok_iff_loadsAs (named.contentPaths_eq isDirectory)
  refused _ := load_eq_error_iff (named.contentPaths_eq isDirectory)
  relisted other relisted := by
    have listed := (relisted.contentNames named).contentPaths_eq
      ((relisted.isDirectory_eq directory).trans isDirectory)
    have same : ∀ path, loadFile (A := A) other context path = loadFile tree context path := by
      intro path
      simp only [loadFile, FileTree.definition, relisted.read?_eq]
    rw [load, load, listed, named.contentPaths_eq isDirectory]
    dsimp only
    rw [insertFiles_congr same]

end

/-- The content files of a directory are loaded in the one order of the bytes of their names, for
events, items and nodes alike. -/
theorem directory_loads_in_order (tree : FileTree) (directory : String) (context : TemplateContext)
    (isDirectory : tree.isDirectory directory = true) :
    ∃! names, tree.ContentNames directory names ∧
      LoadsInOrder Event tree directory context names ∧
      LoadsInOrder Item tree directory context names ∧
      LoadsInOrder Node tree directory context names := by
  have named := tree.contentNames_mergeSort directory
  exact ⟨_, ⟨named, loadsInOrder isDirectory named, loadsInOrder isDirectory named,
    loadsInOrder isDirectory named⟩, fun others facts => facts.1.unique named⟩

/-- Two of these files hold a hall, and the last of them holds nothing. They are not listed in the
order of their names. -/
def twoHallsTree : FileTree where
  directories := [["nodes"]]
  files := [
    (["nodes", "c.ron"], "".toUTF8),
    (["nodes", "b.ron"], "(Kind:\"hall\",Name:\"H\",Description:\"H\")".toUTF8),
    (["nodes", "a.ron"], "(Kind:\"hall\",Name:\"H\",Description:\"H\")".toUTF8)]

def plainHall : Node where
  kind := "hall"
  name := "H"
  description := "H"
  art := ""
  neighbours := ⟨[]⟩
  forcedEvent := none
  pool := []

/-- The second hall is told before the file that fails, whichever of them is listed first. -/
theorem directory_loads_in_order_halls :
    twoHallsTree.isDirectory "nodes" = true ∧
      twoHallsTree.ContentNames "nodes" ["a.ron", "b.ron", "c.ron"] ∧
      Catalog.load (A := Node) twoHallsTree "nodes" TemplateContext.neutral =
        .error (.duplicateId .node "hall" (some "nodes/b.ron")) ∧
      twoHallsTree.Relisted ⟨twoHallsTree.directories, twoHallsTree.files.reverse⟩ ∧
      Catalog.load (A := Node) ⟨twoHallsTree.directories, twoHallsTree.files.reverse⟩ "nodes"
          TemplateContext.neutral =
        .error (.duplicateId .node "hall" (some "nodes/b.ron")) := by
  have isDirectory : twoHallsTree.isDirectory "nodes" = true := by decide +kernel
  have relisted : twoHallsTree.Relisted ⟨twoHallsTree.directories, twoHallsTree.files.reverse⟩ :=
    ⟨.refl _, List.reverse_perm _, by decide +kernel⟩
  have expected : twoHallsTree.ContentNames "nodes" ["a.ron", "b.ron", "c.ron"] :=
    ⟨by decide +kernel, by decide +kernel⟩
  obtain ⟨names, ⟨named, -, -, nodes⟩, -⟩ :=
    directory_loads_in_order twoHallsTree "nodes" TemplateContext.neutral isDirectory
  obtain rfl := named.unique expected
  have first : LoadsAs twoHallsTree TemplateContext.neutral ["nodes/a.ron"] [plainHall] :=
    .cons (by decide +kernel) .nil
  have second : loadFile twoHallsTree TemplateContext.neutral "nodes/b.ron" = .ok plainHall := by
    decide +kernel
  have split : ["a.ron", "b.ron", "c.ron"].map (joinPath "nodes") =
      ["nodes/a.ron"] ++ "nodes/b.ron" :: ["nodes/c.ron"] := rfl
  have refused := (nodes.refused (.duplicateId .node "hall" (some "nodes/b.ron"))).mpr
    (.file split first (List.nodup_singleton _) (.repeated second (List.mem_singleton.mpr rfl)))
  exact ⟨isDirectory, expected, refused, relisted, (nodes.relisted _ relisted).trans refused⟩

end Catalog

end Gamebook
