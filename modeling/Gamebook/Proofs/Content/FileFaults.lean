/-
This file compares the faults that loading and checking find in one file. The loader tells the
first fault that the checker lists, and a missing id is always told as a blank field.
-/

import Gamebook.Proofs.Content.FileCheck
import Gamebook.Proofs.Content.FileReport

namespace Gamebook

section

variable {A : Type}

/-- A result asks for the id when it is a refusal for a missing id exactly if the id is blank. -/
structure AsksForId (id : String) (result : Except CompileError A) : Prop where
  refused : Text.isBlankText id = true → ∃ error, result = .error error
  isMissingId_eq : ∀ error, result = .error error → error.isMissingId = Text.isBlankText id

/-- A compiler that looks at the id first never tells of a missing id later. -/
theorem asksForId_of_first {id : String} {missing : CompileError}
    {compile : String → Except CompileError A} (isMissing : missing.isMissingId = true)
    (laterNamed : ∀ name error, compile name = .error error → error.isMissingId = false) :
    AsksForId id
      (match Text.trimmed? id with
      | none => .error missing
      | some name => compile name) := by
  rw [Text.trimmed?]
  by_cases blank : Text.isBlankText id = true
  · rw [if_pos blank]
    refine ⟨fun _ => ⟨missing, rfl⟩, fun error refused => ?_⟩
    cases refused
    rw [isMissing, blank]
  · rw [if_neg blank]
    refine ⟨fun unnamed => (blank unnamed).elim, fun error refused => ?_⟩
    rw [laterNamed _ error refused, Bool.eq_false_iff.mpr blank]

end

theorem EventDefinition.asksForId (definition : EventDefinition) (context : TemplateContext) :
    AsksForId definition.id (definition.compile context) := by
  refine asksForId_of_first rfl fun id error refused => ?_
  dsimp only at refused
  split at refused
  next =>
    cases refused
    rfl
  next =>
    split at refused <;> cases refused
    rfl

theorem ItemDefinition.asksForId (definition : ItemDefinition) :
    AsksForId definition.id definition.compile := by
  refine asksForId_of_first rfl fun id error refused => ?_
  dsimp only at refused
  split at refused <;> cases refused
  rfl

theorem NodeDefinition.asksForId (definition : NodeDefinition) :
    AsksForId definition.kind definition.compile := by
  refine asksForId_of_first rfl fun kind error refused => ?_
  split at refused <;> cases refused
  rfl

/-- A definition has its id in the first of its required fields and in no other, and its compiler
asks for this id. -/
class Authored.Identified (A : Type) [Authored A] where
  idField : String
  idText : Authored.Definition A → String
  otherFields : Authored.Definition A → List (String × String)
  requiredFields_eq : ∀ definition,
    Authored.requiredFields definition = (idField, idText definition) :: otherFields definition
  idField_ne : ∀ definition, ∀ field ∈ otherFields definition, field.1 ≠ idField
  asksForId : ∀ context definition,
    AsksForId (idText definition) (Authored.compile context definition)

instance : Authored.Identified Event where
  idField := "Id"
  idText := EventDefinition.id
  otherFields definition := definition.requiredFields.tail
  requiredFields_eq _ := rfl
  idField_ne definition := by
    simp only [EventDefinition.requiredFields, List.cons_append, List.tail_cons, List.nil_append,
      List.forall_mem_cons, List.forall_mem_flatMap]
    refine ⟨by decide, by decide, fun option _ => ?_⟩
    simp
  asksForId context definition := definition.asksForId context

instance : Authored.Identified Item where
  idField := "Id"
  idText := ItemDefinition.id
  otherFields definition := definition.requiredFields.tail
  requiredFields_eq _ := rfl
  idField_ne definition := by simp [ItemDefinition.requiredFields]
  asksForId _ := ItemDefinition.asksForId

instance : Authored.Identified Node where
  idField := "Kind"
  idText := NodeDefinition.kind
  otherFields definition := definition.requiredFields.tail
  requiredFields_eq _ := rfl
  idField_ne definition := by simp [NodeDefinition.requiredFields]
  asksForId _ := NodeDefinition.asksForId

/-- This says that the id of a file is missing in the words of the compiler. -/
def LoadError.isMissingId : LoadError → Bool
  | .compile _ error => error.isMissingId
  | _ => false

section

variable {A : Type} [Authored A] [Authored.Identified A] {tree : FileTree}
  {context : TemplateContext} {path : String}

open Authored.Identified (idField idText otherFields)

/-- The blank id comes first among the blank fields. -/
theorem blankFields_eq (path : String) (definition : Authored.Definition A) :
    ∃ others, LoadError.emptyField path (idField A) ∉ others ∧
      blankFields path definition =
        if Text.isBlankText (idText definition) then .emptyField path (idField A) :: others
        else others := by
  refine ⟨((otherFields definition).filter fun field => Text.isBlankText field.2).map
    fun field => .emptyField path field.1, ?_, ?_⟩
  · intro listed
    obtain ⟨field, kept, same⟩ := List.mem_map.mp listed
    have sameField : field.1 = idField A := (LoadError.emptyField.inj same).2
    exact Authored.Identified.idField_ne definition field (List.mem_filter.mp kept).1 sameField
  · rw [blankFields, Authored.Identified.requiredFields_eq, List.filter_cons]
    split <;> rfl

/-- The checker lists the blank fields and then what the compiler refuses, unless this is a missing
id and hence told already. -/
theorem failures_checkDefinition (context : TemplateContext) (path : String)
    (definition : Authored.Definition A) :
    failures (checkDefinition context path definition) =
      blankFields path definition ++
        if Text.isBlankText (idText definition) then []
        else ((failure? (Authored.compile context definition)).map (.compile path)).toList := by
  have asks := Authored.Identified.asksForId context definition
  by_cases blank : Text.isBlankText (idText definition) = true
  · obtain ⟨error, refused⟩ := asks.refused blank
    have missing : error.isMissingId = true := (asks.isMissingId_eq error refused).trans blank
    have told : blankFields path definition ≠ [] := by
      obtain ⟨others, -, fields⟩ := blankFields_eq path definition
      rw [fields, if_pos blank]
      exact List.cons_ne_nil _ _
    rw [failures_checkDefinition_of_missing refused missing told, if_pos blank, List.append_nil]
  · rw [if_neg blank]
    cases compiled : Authored.compile context definition with
    | ok entry => simp [failures_checkDefinition_of_ok compiled, failure?]
    | error error =>
        have named : error.isMissingId = false :=
          (asks.isMissingId_eq error compiled).trans (Bool.eq_false_iff.mpr blank)
        simp [failures_checkDefinition_of_error compiled named, failure?]

/-- The loader stops at the first of the faults that the checker lists. -/
theorem failure?_loadFile (tree : FileTree) (context : TemplateContext) (path : String) :
    failure? (loadFile (A := A) tree context path) =
      (failures (checkFile (A := A) tree context path)).head? := by
  cases read : tree.definition (Authored.reader (A := A)) path with
  | error error =>
      rw [loadFile, checkFile, read]
      rfl
  | ok definition =>
      rw [loadFile, checkFile, read]
      dsimp only
      rw [failures_checkDefinition]
      obtain ⟨others, -, fields⟩ := blankFields_eq path definition
      cases blanks : blankFields path definition with
      | cons first rest => rfl
      | nil =>
          -- Without blank fields the id is filled in, and only the compiler is left to object.
          have filled : ¬Text.isBlankText (idText definition) = true := by
            intro blank
            rw [blanks, if_pos blank] at fields
            cases fields
          rw [if_neg filled, List.nil_append]
          cases Authored.compile context definition <;> rfl

theorem loadFile_eq_error_iff {error : LoadError} :
    loadFile (A := A) tree context path = .error error ↔
      ∃ others, checkFile (A := A) tree context path = .error (error :: others) := by
  have first := failure?_loadFile (A := A) tree context path
  cases checked : checkFile (A := A) tree context path with
  | ok entry => simp [checkFile_eq_ok_iff.mp checked]
  | error errors =>
      cases loaded : loadFile (A := A) tree context path with
      | ok entry => simp [checkFile_eq_ok_iff.mpr loaded] at checked
      | error fault =>
          rw [checked, loaded] at first
          obtain ⟨others, rfl⟩ := List.head?_eq_some_iff.mp first.symm
          simp

/-- Neither the blank fields nor the compiler of a named definition tell of a missing id. -/
theorem isMissingId_of_mem_failures (tree : FileTree) (context : TemplateContext) (path : String)
    {error : LoadError}
    (listed : error ∈ failures (checkFile (A := A) tree context path)) :
    error.isMissingId = false := by
  rw [checkFile] at listed
  split at listed
  next fault failed =>
    obtain rfl := List.mem_singleton.mp listed
    rw [FileTree.definition] at failed
    split at failed
    next =>
      cases failed
      rfl
    next => split at failed <;> cases failed <;> rfl
  next definition read =>
    rw [failures_checkDefinition] at listed
    rcases List.mem_append.mp listed with blank | refused
    · obtain ⟨field, -, rfl⟩ := List.mem_map.mp blank
      rfl
    · split at refused
      next => cases refused
      next filled =>
        cases compiled : Authored.compile context definition with
        | ok entry => simp [compiled, failure?] at refused
        | error fault =>
            obtain rfl : error = .compile path fault := by simpa [compiled, failure?] using refused
            have asks := Authored.Identified.asksForId context definition
            exact (asks.isMissingId_eq fault compiled).trans (Bool.eq_false_iff.mpr filled)

end

/-- Loading and checking a file agree on it. Both accept it with the same entry, or the first fault
that the checker lists is that of the loader. A blank id is told once, as a blank field, and a
missing id is never told in the words of the compiler. -/
structure ReadAlike (A : Type) [Authored A] [Authored.Identified A] (tree : FileTree)
    (context : TemplateContext) (path : String) : Prop where
  accepted : ∀ entry : A,
    loadFile tree context path = .ok entry ↔ checkFile tree context path = .ok entry
  refused : ∀ error, loadFile (A := A) tree context path = .error error ↔
    ∃ others, checkFile (A := A) tree context path = .error (error :: others)
  explained : checkFile (A := A) tree context path ≠ .error []
  loadedNamed : ∀ error, loadFile (A := A) tree context path = .error error →
    error.isMissingId = false
  checkedNamed : ∀ errors, checkFile (A := A) tree context path = .error errors →
    ∀ error ∈ errors, error.isMissingId = false
  blankId : ∀ definition,
    tree.definition (Authored.reader (A := A)) path = .ok definition →
      Text.isBlankText (Authored.Identified.idText definition) = true →
        loadFile (A := A) tree context path =
            .error (.emptyField path (Authored.Identified.idField A)) ∧
          ∃ others, checkFile (A := A) tree context path =
              .error (.emptyField path (Authored.Identified.idField A) :: others) ∧
            LoadError.emptyField path (Authored.Identified.idField A) ∉ others

/-- The loader and the checker agree on every file that is read as an entry. -/
theorem readAlike {A : Type} [Authored A] [Authored.Identified A] (tree : FileTree)
    (context : TemplateContext) (path : String) : ReadAlike A tree context path where
  accepted _ := checkFile_eq_ok_iff.symm
  refused _ := loadFile_eq_error_iff
  explained := by
    intro unexplained
    cases loaded : loadFile (A := A) tree context path with
    | ok entry =>
        rw [checkFile_eq_ok_iff.mpr loaded] at unexplained
        cases unexplained
    | error error =>
        obtain ⟨others, explained⟩ := loadFile_eq_error_iff.mp loaded
        rw [explained] at unexplained
        cases unexplained
  loadedNamed error loaded := by
    obtain ⟨others, checked⟩ := loadFile_eq_error_iff.mp loaded
    exact isMissingId_of_mem_failures (A := A) tree context path
      (by simp [checked, failures])
  checkedNamed errors checked error listed :=
    isMissingId_of_mem_failures (A := A) tree context path
      (by simpa [checked, failures] using listed)
  blankId definition read blank := by
    obtain ⟨others, absent, fields⟩ := blankFields_eq path definition
    have listed : failures (checkFile (A := A) tree context path) =
        .emptyField path (Authored.Identified.idField A) :: others := by
      rw [checkFile, read]
      dsimp only
      rw [failures_checkDefinition, fields, if_pos blank, if_pos blank, List.append_nil]
    have checked : checkFile (A := A) tree context path =
        .error (.emptyField path (Authored.Identified.idField A) :: others) := by
      cases result : checkFile (A := A) tree context path with
      | ok entry =>
          rw [result] at listed
          cases listed
      | error errors =>
          rw [result] at listed
          exact congrArg Except.error listed
    exact ⟨loadFile_eq_error_iff.mpr ⟨others, checked⟩, others, checked, absent⟩

/-- Events, items and nodes are loaded from a file exactly as they are checked in it. -/
theorem loading_agrees_with_checking (tree : FileTree) (context : TemplateContext)
    (path : String) :
    ReadAlike Event tree context path ∧ ReadAlike Item tree context path ∧
      ReadAlike Node tree context path :=
  ⟨readAlike tree context path, readAlike tree context path, readAlike tree context path⟩

end Gamebook
