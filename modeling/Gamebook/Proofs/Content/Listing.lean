/-
This file says in which order the content files of a directory are loaded. It is the order of the
bytes of their names, in whatever order the files are listed.
-/

import Gamebook.Catalog.Load
import Gamebook.Proofs.Lookup
import Gamebook.Proofs.Text.Bytes

namespace Gamebook.FileTree

variable {tree other : FileTree} {directory : String} {names : List String}

/-- These are the names of the content files of a directory in the order of their bytes. -/
structure ContentNames (tree : FileTree) (directory : String) (names : List String) : Prop where
  complete : names.Perm ((tree.fileNames directory).filter isContentName)
  ascending : names.Pairwise fun left right => Text.bytes left ≤ Text.bytes right

theorem contentNames_mergeSort (tree : FileTree) (directory : String) :
    tree.ContentNames directory (((tree.fileNames directory).filter isContentName).mergeSort
      fun left right => decide (left ≤ right)) where
  complete := List.mergeSort_perm _ _
  ascending := by
    refine (List.pairwise_mergeSort ?_ ?_ _).imp fun low =>
      Text.bytes_le_iff.mpr (of_decide_eq_true low)
    · intro first second third low high
      rw [decide_eq_true_eq] at low high ⊢
      exact le_trans low high
    · intro first second
      rw [Bool.or_eq_true, decide_eq_true_eq, decide_eq_true_eq]
      exact le_total first second

/-- There is only one order of the bytes. -/
theorem ContentNames.unique {names others : List String} (first : tree.ContentNames directory names)
    (second : tree.ContentNames directory others) : names = others :=
  List.Perm.eq_of_pairwise
    (fun _ _ _ _ low high => le_antisymm (Text.bytes_le_iff.mp low) (Text.bytes_le_iff.mp high))
    first.ascending second.ascending (first.complete.trans second.complete.symm)

theorem ContentNames.contentPaths_eq (named : tree.ContentNames directory names)
    (isDirectory : tree.isDirectory directory = true) :
    tree.contentPaths directory = .ok (names.map (joinPath directory)) := by
  rw [contentPaths, if_pos isDirectory, named.unique (contentNames_mergeSort tree directory)]

/-- The same directories and files are listed in another order. No place is listed twice. -/
structure Relisted (tree other : FileTree) : Prop where
  directories : other.directories.Perm tree.directories
  files : other.files.Perm tree.files
  distinct : (tree.files.map Prod.fst).Nodup

namespace Relisted

variable (relisted : tree.Relisted other)

include relisted

theorem isDirectoryPlace_eq (place : Place) :
    other.isDirectoryPlace place = tree.isDirectoryPlace place := by
  rw [isDirectoryPlace, isDirectoryPlace, Bool.eq_iff_iff]
  simp only [Bool.or_eq_true, List.contains_iff_mem, relisted.directories.mem_iff]

theorem placeFrom?_eq (place : Place) (parts : List String) :
    other.placeFrom? place parts = tree.placeFrom? place parts := by
  induction parts generalizing place with
  | nil => rfl
  | cons part rest inductionHypothesis =>
      rw [placeFrom?, placeFrom?, relisted.isDirectoryPlace_eq, inductionHypothesis]

theorem place?_eq (path : String) : other.place? path = tree.place? path := by
  rw [place?, place?, relisted.placeFrom?_eq]

theorem isDirectory_eq (path : String) : other.isDirectory path = tree.isDirectory path := by
  rw [isDirectory, isDirectory, relisted.place?_eq, funext relisted.isDirectoryPlace_eq]

theorem read?_eq (path : String) : other.read? path = tree.read? path := by
  rw [read?, read?, relisted.place?_eq]
  simp only [lookup_of_perm relisted.files relisted.distinct]

theorem fileNames_perm (path : String) : (other.fileNames path).Perm (tree.fileNames path) := by
  rw [fileNames, fileNames, relisted.place?_eq]
  cases tree.place? path with
  | none => exact .nil
  | some place => exact relisted.files.filterMap _

/-- The names of the content files are the same in every listing. -/
theorem contentNames (named : tree.ContentNames directory names) :
    other.ContentNames directory names where
  complete := named.complete.trans ((relisted.fileNames_perm directory).symm.filter _)
  ascending := named.ascending

end Relisted

end Gamebook.FileTree
