/-
This file holds the whole content that a game runs on and where it is loaded from.
Only events are mandatory. Items and nodes are empty when they have no directory.
-/

import Gamebook.Catalog.Load

namespace Gamebook

structure ContentPaths where
  events : String
  items : Option String
  nodes : Option String
  deriving DecidableEq

/-- Under a root the directories have fixed names, and those that may be left out must exist. -/
def ContentPaths.ofRoot (tree : FileTree) (root : String) : ContentPaths where
  events := joinPath root "events"
  items := if tree.isDirectory (joinPath root "items") then some (joinPath root "items") else none
  nodes := if tree.isDirectory (joinPath root "nodes") then some (joinPath root "nodes") else none

inductive ContentError where
  | load (error : LoadError)
  | noEventsDirectory
  deriving DecidableEq

def ContentError.message : ContentError → String
  | .load error => error.message
  | .noEventsDirectory => "No events directory configured."

structure Content where
  paths : ContentPaths
  context : TemplateContext
  events : EventCatalog
  items : ItemCatalog
  nodes : NodeCatalog
  deriving DecidableEq

namespace Content

/-- A directory that is not given holds nothing. -/
def loadOptional {A : Type} [Authored A] (tree : FileTree) (context : TemplateContext) :
    Option String → Except LoadError (Catalog A)
  | none => .ok Catalog.empty
  | some directory => Catalog.load tree directory context

/-- Items are loaded first, then nodes, then events. The first fault decides. -/
def load (tree : FileTree) (paths : ContentPaths) (context : TemplateContext) :
    Except LoadError Content :=
  match loadOptional tree context paths.items with
  | .error error => .error error
  | .ok items =>
      match loadOptional tree context paths.nodes with
      | .error error => .error error
      | .ok nodes =>
          match Catalog.load tree paths.events context with
          | .error error => .error error
          | .ok events => .ok ⟨paths, context, events, items, nodes⟩

/-- This loads the same directories again for another hero. A failure changes nothing. -/
def reloadWith (content : Content) (tree : FileTree) (context : TemplateContext) :
    Content × Except LoadError Unit :=
  match load tree content.paths context with
  | .ok loaded => (loaded, .ok ())
  | .error error => (content, .error error)

def reload (content : Content) (tree : FileTree) : Content × Except LoadError Unit :=
  content.reloadWith tree content.context

end Content

/-- A plan gathers where content is to be found before it is loaded. -/
structure ContentPlan where
  events : Option String := none
  items : Option String := none
  nodes : Option String := none
  context : Option TemplateContext := none
  deriving DecidableEq

namespace ContentPlan

def withPaths (plan : ContentPlan) (paths : ContentPaths) : ContentPlan :=
  { plan with events := some paths.events, items := paths.items, nodes := paths.nodes }

/-- Content that is built for no hero is rendered in the neutral context. -/
def build (plan : ContentPlan) (tree : FileTree) : Except ContentError Content :=
  match plan.events with
  | none => .error .noEventsDirectory
  | some events =>
      (Content.load tree ⟨events, plan.items, plan.nodes⟩
        (plan.context.getD TemplateContext.neutral)).mapError .load

end ContentPlan

end Gamebook
