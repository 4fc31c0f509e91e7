/-
This file compares the two ways to read a directory. A survey without problems holds the very
entries that the loader inserts, and the loader stops exactly when the survey reports something.
-/

import Gamebook.Proofs.Catalog.Soundness
import Gamebook.Proofs.Content.FileCheck

namespace Gamebook

section

variable {A : Type} [Authored A] {tree : FileTree} {context : TemplateContext}

/-- Every problem of a survey is one that stops the loader. -/
theorem Survey.files_checked {seen paths : List String} {diagnostic : Diagnostic}
    (reported : diagnostic ∈ (files (A := A) tree context seen paths).diagnostics) :
    diagnostic.problem.isUnchecked = false := by
  induction paths generalizing seen with
  | nil => simp [files] at reported
  | cons path rest inductionHypothesis =>
      rw [files] at reported
      split at reported
      next errors refused =>
        rcases List.mem_append.mp reported with first | later
        · obtain ⟨error, -, told⟩ := List.mem_flatMap.mp first
          exact LoadError.diagnostics_checked told
        · exact inductionHypothesis later
      next entry accepted =>
        simp only at reported
        split at reported
        · rcases List.mem_cons.mp reported with rfl | later
          · rfl
          · exact inductionHypothesis later
        · exact inductionHypothesis reported

theorem Survey.directory_checked {directory : String} {diagnostic : Diagnostic}
    (reported : diagnostic ∈ (Survey.directory (A := A) tree context directory).diagnostics) :
    diagnostic.problem.isUnchecked = false := by
  rw [Survey.directory] at reported
  split at reported
  · exact LoadError.diagnostics_checked reported
  · exact files_checked reported

theorem Survey.optional_checked {directory : Option String} {diagnostic : Diagnostic}
    (reported : diagnostic ∈ (Survey.optional (A := A) tree context directory).diagnostics) :
    diagnostic.problem.isUnchecked = false := by
  cases directory with
  | none => simp [Survey.optional] at reported
  | some path => exact directory_checked reported

/-- A clean survey yields the catalog of its entries when none of their references dangles. -/
structure Survey.Yields (survey : Survey A) (catalog : Catalog A) : Prop where
  clean : survey.diagnostics = []
  entries : catalog.entries = survey.entries.map Prod.snd
  closed : ∀ entry ∈ catalog.entries, CatalogEntry.dangling? catalog.contains entry = none

variable [Authored.Explained A]

/-- Inserting files succeeds exactly when surveying them reports nothing, and it then adds the
entries of the survey. The ids that were seen are those of the catalog so far. -/
theorem Catalog.insertFiles_eq_ok_iff {catalog larger : Catalog A} {seen paths : List String}
    (same : ∀ id, id ∈ seen ↔ id ∈ catalog.ids) :
    catalog.insertFiles tree context paths = .ok larger ↔
      (Survey.files (A := A) tree context seen paths).diagnostics = [] ∧
        larger.entries = catalog.entries ++
          (Survey.files (A := A) tree context seen paths).entries.map Prod.snd := by
  induction paths generalizing catalog seen with
  | nil =>
      obtain ⟨entries⟩ := catalog
      obtain ⟨largerEntries⟩ := larger
      simp [insertFiles, Survey.files, eq_comm]
  | cons path rest inductionHypothesis =>
      rw [insertFiles, Survey.files]
      cases checked : checkFile (A := A) tree context path with
      | error errors =>
          have told := checkFile_told checked
          cases loaded : loadFile (A := A) tree context path with
          | error error => simp [told]
          | ok entry =>
              rw [checkFile_eq_ok_iff.mpr loaded] at checked
              cases checked
      | ok entry =>
          rw [checkFile_eq_ok_iff.mp checked]
          by_cases taken : CatalogEntry.id entry ∈ seen
          · have known := contains_iff_mem_ids.mpr ((same _).mp taken)
            simp [insert, known, taken]
          · have unknown : catalog.contains (CatalogEntry.id entry) = false := by
              rw [← Bool.not_eq_true, contains_iff_mem_ids, ← same]
              exact taken
            have sameAfter : ∀ id, id ∈ CatalogEntry.id entry :: seen ↔
                id ∈ (⟨catalog.entries ++ [entry]⟩ : Catalog A).ids := by
              intro id
              simp only [ids, List.map_append, List.mem_append, List.mem_cons, List.map_cons,
                List.map_nil, List.not_mem_nil, or_false]
              rw [or_comm, same, ids]
            simp [insert, unknown, taken, inductionHypothesis sameAfter]

/-- A directory loads exactly as the catalog that its survey yields. -/
theorem Catalog.load_eq_ok_iff {directory : String} {catalog : Catalog A} :
    Catalog.load tree directory context = .ok catalog ↔
      (Survey.directory (A := A) tree context directory).Yields catalog := by
  rw [load, Survey.directory]
  cases listed : tree.contentPaths directory with
  | error error =>
      have told : error.diagnostics ≠ [] := by
        rw [FileTree.contentPaths] at listed
        split at listed <;> cases listed
        simp [LoadError.diagnostics]
      constructor
      · intro loaded
        cases loaded
      · intro yields
        exact (told yields.clean).elim
  | ok paths =>
      have inserts : ∀ larger : Catalog A, empty.insertFiles tree context paths = .ok larger ↔
          (Survey.files (A := A) tree context [] paths).diagnostics = [] ∧
            larger.entries = (Survey.files (A := A) tree context [] paths).entries.map Prod.snd :=
        fun larger => insertFiles_eq_ok_iff (by simp [empty, ids])
      simp only
      split
      next error failed =>
        constructor
        · intro loaded
          cases loaded
        · intro yields
          have inserted := (inserts catalog).mpr ⟨yields.clean, yields.entries⟩
          rw [failed] at inserted
          cases inserted
      next larger inserted =>
        obtain ⟨clean, entries⟩ := (inserts larger).mp inserted
        rw [resolved_eq_ok_iff]
        constructor
        · rintro ⟨rfl, closed⟩
          exact ⟨clean, entries, closed⟩
        · rintro ⟨-, sameEntries, closed⟩
          have same : catalog = larger :=
            congrArg Catalog.mk (sameEntries.trans entries.symm)
          exact ⟨same, same ▸ closed⟩

/-- A directory that is not given yields the empty catalog. -/
theorem Content.loadOptional_eq_ok_iff {directory : Option String} {catalog : Catalog A} :
    Content.loadOptional tree context directory = .ok catalog ↔
      (Survey.optional (A := A) tree context directory).Yields catalog := by
  cases directory with
  | some path => exact Catalog.load_eq_ok_iff
  | none =>
      constructor
      · intro loaded
        cases loaded
        exact ⟨rfl, rfl, by simp [Catalog.empty]⟩
      · intro yields
        exact congrArg (fun entries => Except.ok (Catalog.mk entries)) yields.entries.symm

end

end Gamebook
