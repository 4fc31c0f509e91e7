/-
This file holds the reasons for which content cannot be loaded or found.
-/

import Gamebook.Compile

namespace Gamebook

/-- Content comes in three kinds. -/
inductive ContentKind where
  | event
  | item
  | node
  deriving DecidableEq

def ContentKind.name : ContentKind → String
  | .event => "event"
  | .item => "item"
  | .node => "node"

inductive LoadError where
  | missingDirectory (directory : String)
  /-- The bytes of the file are not a text. -/
  | notText (path : String)
  | malformed (path : String)
  | missingField (path : String) (field : String)
  | emptyField (path : String) (field : String)
  | compile (path : String) (error : CompileError)
  /-- The path is known when the content came from a file. -/
  | duplicateId (kind : ContentKind) (id : String) (path : Option String)
  | danglingChain (event : String) (order : Int32) (target : String)
  | unknownGrant (item : String) (target : String)
  | unknownNeighbour (node : String) (neighbour : String)
  deriving DecidableEq

/-- This is said of a file whose bytes are not a text. -/
def notTextMessage : String := "stream did not contain valid UTF-8"

def LoadError.message : LoadError → String
  | .missingDirectory directory => s!"Content directory '{directory}' does not exist."
  | .notText path => s!"Failed to read '{path}': {notTextMessage}"
  | .malformed path => s!"Malformed content in '{path}'."
  | .missingField path field => s!"'{path}' is missing required field '{field}'."
  | .emptyField path field => s!"'{path}' has an empty required field '{field}'."
  | .compile path error => s!"'{path}': {error.message}"
  | .duplicateId kind id none => s!"Duplicate {kind.name} id '{id}'."
  | .duplicateId kind id (some path) => s!"Duplicate {kind.name} id '{id}' in '{path}'."
  | .danglingChain event order target =>
      s!"Event '{event}' option {order.toInt}: NextEventId '{target}' does not match any loaded event."
  | .unknownGrant item target => s!"Item '{item}' grants unknown item '{target}'."
  | .unknownNeighbour node neighbour =>
      s!"Node '{node}' lists unknown neighbour kind '{neighbour}'."

/-- No content of the kind has the id that was asked for. -/
structure LookupError where
  kind : ContentKind
  id : String
  deriving DecidableEq

def LookupError.message (error : LookupError) : String :=
  match error.kind with
  | .event => s!"No event found with id '{error.id}'."
  | .item => s!"No item found with id '{error.id}'."
  | .node => s!"No node found with kind '{error.id}'."

end Gamebook
