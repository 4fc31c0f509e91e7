/-
This file compares the two ways to read one file. Loading stops at the first fault and checking
reports every fault, but both accept the same files and read the same entries from them.
-/

import Gamebook.Content.Report
import Gamebook.Proofs.Compile.Misentries

namespace Gamebook

/-- No loader looks these references up. They are only found when content is checked. -/
def Problem.isUnchecked : Problem → Bool
  | .unknownCondition _ _ => true
  | .unknownPlace _ _ => true
  | .unknownTrigger _ _ => true
  | .unknownGrant (.option _ _) _ => true
  | .unknownNodeEvent _ _ => true
  | _ => false

/-- Only a refusal without any misentry would go unreported. -/
theorem LoadError.diagnostics_eq_nil_iff {error : LoadError} :
    error.diagnostics = [] ↔ ∃ path owner, error = .compile path (.invalidEntries owner []) := by
  cases error with
  | compile path fault =>
      cases fault with
      | invalidEntries owner misentries => cases misentries <;> simp [diagnostics]
      | _ => simp [diagnostics]
  | _ => simp [diagnostics]

/-- Every problem of a single file stops the loader. -/
theorem LoadError.diagnostics_checked {error : LoadError} {diagnostic : Diagnostic}
    (reported : diagnostic ∈ error.diagnostics) : diagnostic.problem.isUnchecked = false := by
  cases error with
  | compile path fault =>
      cases fault with
      | invalidEntries owner misentries =>
          obtain ⟨misentry, -, rfl⟩ := List.mem_map.mp reported
          rfl
      | _ =>
          obtain rfl := List.mem_singleton.mp reported
          rfl
  | _ =>
      obtain rfl := List.mem_singleton.mp reported
      rfl

/-- A definition that is refused for its entries names at least one of them. -/
class Authored.Explained (A : Type) [Authored A] : Prop where
  explained {context : TemplateContext} {definition : Authored.Definition A} {owner : String}
    {misentries : List Misentry} :
    Authored.compile context definition = .error (.invalidEntries owner misentries) →
      misentries ≠ []

instance : Authored.Explained Event where
  explained := EventDefinition.misentries_ne_nil

instance : Authored.Explained Item where
  explained := ItemDefinition.misentries_ne_nil

instance : Authored.Explained Node where
  explained := NodeDefinition.misentries_ne_nil

section

variable {A : Type} [Authored A] {tree : FileTree} {context : TemplateContext} {path : String}

theorem checkDefinition_eq_ok_iff {definition : Authored.Definition A} {entry : A} :
    checkDefinition context path definition = .ok entry ↔
      blankFields path definition = [] ∧ Authored.compile context definition = .ok entry := by
  rw [checkDefinition]
  cases compiled : Authored.compile context definition with
  | ok value =>
      by_cases blanks : blankFields path definition = [] <;> simp [blanks]
  | error error =>
      simp only [reduceCtorEq, and_false, iff_false]
      split <;> simp

/-- A file is accepted by the checker exactly when the loader accepts it. -/
theorem checkFile_eq_ok_iff {entry : A} :
    checkFile tree context path = .ok entry ↔ loadFile tree context path = .ok entry := by
  rw [checkFile, loadFile]
  cases tree.definition (Authored.reader (A := A)) path with
  | error error => simp
  | ok definition =>
      simp only [checkDefinition_eq_ok_iff]
      cases blanks : blankFields path definition with
      | nil => simp only [mapError_eq_ok_iff, true_and]
      | cons first rest => simp

/-- A blank field is always reported. -/
theorem blankFields_told {definition : Authored.Definition A} {error : LoadError}
    (listed : error ∈ blankFields path definition) : error.diagnostics ≠ [] := by
  obtain ⟨field, -, rfl⟩ := List.mem_map.mp listed
  simp [LoadError.diagnostics]

theorem definition_told {error : LoadError}
    (failed : tree.definition (Authored.reader (A := A)) path = .error error) :
    error.diagnostics ≠ [] := by
  rw [FileTree.definition] at failed
  split at failed
  next =>
    cases failed
    simp [LoadError.diagnostics]
  next =>
    split at failed <;> cases failed <;> simp [LoadError.diagnostics]

variable [Authored.Explained A]

theorem compile_told {definition : Authored.Definition A} {error : CompileError}
    (refused : Authored.compile context definition = .error error) :
    (LoadError.compile path error).diagnostics ≠ [] := by
  intro untold
  obtain ⟨_, owner, same⟩ := LoadError.diagnostics_eq_nil_iff.mp untold
  cases same
  exact Authored.Explained.explained refused rfl

/-- The checker says something about every file that it refuses. -/
theorem checkFile_told {errors : List LoadError}
    (refused : (checkFile tree context path : Except (List LoadError) A) = .error errors) :
    errors.flatMap LoadError.diagnostics ≠ [] := by
  have listed : ∃ error ∈ errors, error.diagnostics ≠ [] := by
    rw [checkFile] at refused
    split at refused
    next error failed =>
      cases refused
      exact ⟨error, List.mem_singleton_self error, definition_told failed⟩
    next definition read =>
      have blankListed : blankFields path definition ≠ [] →
          ∃ error ∈ blankFields path definition, error.diagnostics ≠ [] := by
        intro some
        obtain ⟨error, listed⟩ := List.exists_mem_of_ne_nil _ some
        exact ⟨error, listed, blankFields_told listed⟩
      simp only [checkDefinition] at refused
      split at refused
      next entry compiled =>
        split at refused
        next => cases refused
        next some =>
          cases refused
          exact blankListed (by simpa using some)
      next error compiled =>
        split at refused
        next both =>
          cases refused
          exact blankListed (by simp_all)
        next =>
          cases refused
          exact ⟨.compile path error, by simp, compile_told compiled⟩
  obtain ⟨error, member, told⟩ := listed
  intro untold
  exact told (List.flatMap_eq_nil_iff.mp untold error member)

end

end Gamebook
