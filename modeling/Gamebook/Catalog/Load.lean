/-
This file loads catalogs from directories of content files.
A content file is a file directly in the directory whose name ends in `.ron`.
Loading stops at the first fault. Checking reads a file in the same way and reports every fault.
-/

import Gamebook.Catalog.Basic
import Gamebook.Files
import Gamebook.Record.Content

namespace Gamebook

/-- Content is written as a definition, read from a file, and compiled. -/
class Authored (A : Type) extends CatalogEntry A where
  Definition : Type
  reader : Record.Reader Definition
  requiredFields : Definition → List (String × String)
  compile : TemplateContext → Definition → Except CompileError A

instance : Authored Event where
  Definition := EventDefinition
  reader := Record.event
  requiredFields := EventDefinition.requiredFields
  compile context definition := definition.compile context

instance : Authored Item where
  Definition := ItemDefinition
  reader := Record.item
  requiredFields := ItemDefinition.requiredFields
  compile _ definition := definition.compile

instance : Authored Node where
  Definition := NodeDefinition
  reader := Record.node
  requiredFields := NodeDefinition.requiredFields
  compile _ definition := definition.compile

/-- A name that is nothing but the ending is a hidden file and not a content file. -/
def isContentName (name : String) : Bool :=
  ".ron".toList.isSuffixOf name.toList && name != ".ron"

namespace FileTree

/-- These are the paths of the content files of a directory in the order of their names. -/
def contentPaths (tree : FileTree) (directory : String) : Except LoadError (List String) :=
  if tree.isDirectory directory then
    .ok ((((tree.fileNames directory).filter isContentName).mergeSort
      fun left right => decide (left ≤ right)).map (joinPath directory))
  else .error (.missingDirectory directory)

/-- The file must be a text in the record notation with all required fields. -/
def definition (tree : FileTree) {A : Type} (reader : Record.Reader A) (path : String) :
    Except LoadError A :=
  match (tree.read? path).bind String.fromUTF8? with
  | none => .error (.notText path)
  | some text =>
      match Record.document reader text.toList with
      | .ok definition => .ok definition
      | .error .malformed => .error (.malformed path)
      | .error (.missingField field) => .error (.missingField path field)

end FileTree

section

variable {A : Type} [Authored A]

/-- There is one error for every required field that is blank. -/
def blankFields (path : String) (definition : Authored.Definition A) : List LoadError :=
  ((Authored.requiredFields definition).filter fun field => Text.isBlankText field.2).map
    fun field => .emptyField path field.1

/-- This reads, checks and compiles one file and stops at the first fault. -/
def loadFile (tree : FileTree) (context : TemplateContext) (path : String) :
    Except LoadError A :=
  match tree.definition (Authored.reader (A := A)) path with
  | .error error => .error error
  | .ok definition =>
      match blankFields path definition with
      | error :: _ => .error error
      | [] => (Authored.compile context definition).mapError (LoadError.compile path)

def CompileError.isMissingId : CompileError → Bool
  | .missingEventId => true
  | .missingItemId => true
  | .missingNodeKind => true
  | _ => false

/-- A missing id that is already reported as a blank field is not repeated. -/
def checkDefinition (context : TemplateContext) (path : String)
    (definition : Authored.Definition A) : Except (List LoadError) A :=
  let blanks := blankFields path definition
  match Authored.compile context definition with
  | .ok entry => if blanks.isEmpty then .ok entry else .error blanks
  | .error error =>
      if error.isMissingId && !blanks.isEmpty then .error blanks
      else .error (blanks ++ [.compile path error])

/-- This reads, checks and compiles one file and reports every fault of it. -/
def checkFile (tree : FileTree) (context : TemplateContext) (path : String) :
    Except (List LoadError) A :=
  match tree.definition (Authored.reader (A := A)) path with
  | .error error => .error [error]
  | .ok definition => checkDefinition context path definition

namespace Catalog

/-- The files are loaded one after the other, and each id is compared with those before it. -/
def insertFiles (tree : FileTree) (context : TemplateContext) (catalog : Catalog A) :
    List String → Except LoadError (Catalog A)
  | [] => .ok catalog
  | path :: rest =>
      match loadFile tree context path with
      | .error error => .error error
      | .ok entry =>
          match catalog.insert (some path) entry with
          | .error error => .error error
          | .ok larger => larger.insertFiles tree context rest

def load (tree : FileTree) (directory : String) (context : TemplateContext) :
    Except LoadError (Catalog A) :=
  match tree.contentPaths directory with
  | .error error => .error error
  | .ok paths =>
      match Catalog.empty.insertFiles tree context paths with
      | .error error => .error error
      | .ok catalog => catalog.resolved

/-- A reload replaces the whole catalog or leaves it as it was. -/
def reload (catalog : Catalog A) (tree : FileTree) (directory : String)
    (context : TemplateContext) : Catalog A × Except LoadError Unit :=
  match Catalog.load tree directory context with
  | .ok loaded => (loaded, .ok ())
  | .error error => (catalog, .error error)

end Catalog

end

end Gamebook
