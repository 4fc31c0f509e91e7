/-
This file checks all content and reports every problem of it.
Every file is compiled on its own. The references between events, items and nodes are then
checked against the entries that are left.
-/

import Gamebook.Content.Basic

namespace Gamebook

/-- This is the part of the content that holds a condition or an effect. -/
inductive Owner where
  | option (event : String) (order : Int32)
  | item (id : String)
  deriving DecidableEq

def Owner.text : Owner → String
  | .option event order => s!"Event '{event}' option {order.toInt}"
  | .item id => s!"Item '{id}'"

inductive Problem where
  | notText
  | malformed
  | missingField (field : String)
  | emptyField (field : String)
  | misentry (found : Misentry)
  | compile (error : CompileError)
  | duplicateId (kind : ContentKind) (id : String)
  /-- The problem is told in the words of the loader. -/
  | load (error : LoadError)
  | unknownCondition (owner : Owner) (item : String)
  | unknownPlace (owner : Owner) (node : String)
  | unknownGrant (owner : Owner) (item : String)
  | unknownTrigger (owner : Owner) (event : String)
  | unknownNodeEvent (node : String) (event : String)
  deriving DecidableEq

def Problem.message : Problem → String
  | .notText => notTextMessage
  | .malformed => "malformed content"
  | .missingField field => s!"missing required field '{field}'."
  | .emptyField field => s!"required field '{field}' is empty."
  | .misentry found => found.message
  | .compile error => error.message
  | .duplicateId kind id => s!"Duplicate {kind.name} id '{id}'."
  | .load error => error.message
  | .unknownCondition owner item =>
      s!"{owner.text}: HasItem '{item}' does not match any loaded item."
  | .unknownPlace owner node =>
      s!"{owner.text}: node kind '{node}' does not match any loaded node."
  | .unknownGrant owner item =>
      s!"{owner.text}: GrantItem '{item}' does not match any loaded item."
  | .unknownTrigger owner event =>
      s!"{owner.text}: TriggerEvent '{event}' does not match any loaded event."
  | .unknownNodeEvent node event =>
      s!"Node '{node}': event '{event}' does not match any loaded event."

/-- The path is that of the file in which the problem was found, if it was found in one. -/
structure Diagnostic where
  path : Option String
  problem : Problem
  deriving DecidableEq

def Diagnostic.text (diagnostic : Diagnostic) : String :=
  match diagnostic.path with
  | some path => s!"{path}: {diagnostic.problem.message}"
  | none => diagnostic.problem.message

/-- Each refused entry of a file has a diagnostic of its own. -/
def LoadError.diagnostics : LoadError → List Diagnostic
  | .compile path (.invalidEntries _ misentries) =>
      misentries.map fun misentry => ⟨some path, .misentry misentry⟩
  | .compile path error => [⟨some path, .compile error⟩]
  | .malformed path => [⟨some path, .malformed⟩]
  | .notText path => [⟨some path, .notText⟩]
  | .missingField path field => [⟨some path, .missingField field⟩]
  | .emptyField path field => [⟨some path, .emptyField field⟩]
  | error => [⟨none, .load error⟩]

/-- A survey holds the usable entries of a directory with their paths, and all its problems. -/
structure Survey (A : Type) where
  entries : List (String × A) := []
  diagnostics : List Diagnostic := []

namespace Survey

variable {A : Type} [Authored A]

/-- An entry that repeats the id of an earlier one is reported and left out. -/
def files (tree : FileTree) (context : TemplateContext) (seen : List String) :
    List String → Survey A
  | [] => {}
  | path :: rest =>
      match checkFile tree context path with
      | .error errors =>
          let further : Survey A := files tree context seen rest
          { further with
            diagnostics := errors.flatMap LoadError.diagnostics ++ further.diagnostics }
      | .ok entry =>
          let id := CatalogEntry.id entry
          if seen.contains id then
            let further : Survey A := files tree context seen rest
            { further with
              diagnostics :=
                ⟨some path, .duplicateId (CatalogEntry.kind A) id⟩ :: further.diagnostics }
          else
            let further : Survey A := files tree context (id :: seen) rest
            { further with entries := (path, entry) :: further.entries }

def directory (tree : FileTree) (context : TemplateContext) (path : String) : Survey A :=
  match tree.contentPaths path with
  | .error error => { diagnostics := error.diagnostics }
  | .ok paths => files tree context [] paths

def optional (tree : FileTree) (context : TemplateContext) : Option String → Survey A
  | none => {}
  | some path => directory tree context path

def ids (survey : Survey A) : List String :=
  survey.entries.map fun entry => CatalogEntry.id entry.2

end Survey

/-- References are resolved by the ids of the entries that are left. -/
structure KnownIds where
  events : List String
  items : List String
  nodes : List String

namespace KnownIds

def effectProblem? (known : KnownIds) (owner : Owner) : Effect → Option Problem
  | .grantItem item =>
      if known.items.contains item then none else some (.unknownGrant owner item)
  | .triggerEvent event =>
      if known.events.contains event then none else some (.unknownTrigger owner event)
  | _ => none

def conditionProblem? (known : KnownIds) (owner : Owner) : Condition → Option Problem
  | .hasItem item =>
      if known.items.contains item then none else some (.unknownCondition owner item)
  | .atNode kind =>
      if known.nodes.contains kind then none else some (.unknownPlace owner kind)
  | _ => none

/-- The chain comes first, then the conditions, then the effects. -/
def optionProblems (known : KnownIds) (event : String) (option : EventOption) : List Problem :=
  let owner := Owner.option event option.order
  let chain := (option.nextEvent.toList.filter fun target => !known.events.contains target).map
    fun target => Problem.load (.danglingChain event option.order target)
  chain ++ option.conditions.filterMap (known.conditionProblem? owner) ++
    option.effects.filterMap (known.effectProblem? owner)

def eventProblems (known : KnownIds) (event : Event) : List Problem :=
  event.options.flatMap (known.optionProblems event.id)

def itemProblems (known : KnownIds) (item : Item) : List Problem :=
  item.effects.filterMap (known.effectProblem? (Owner.item item.id))

/-- The events of the node come before its neighbours. -/
def nodeProblems (known : KnownIds) (node : Node) : List Problem :=
  ((node.eventIds.filter fun event => !known.events.contains event).map
      (Problem.unknownNodeEvent node.kind)) ++
    ((node.neighbours.kinds.filter fun kind => !known.nodes.contains kind).map
      fun kind => Problem.load (.unknownNeighbour node.kind kind))

end KnownIds

/-- The problems of an entry are reported for its file. -/
def located {A : Type} (problems : A → List Problem) (entries : List (String × A)) :
    List Diagnostic :=
  entries.flatMap fun entry => (problems entry.2).map fun problem => ⟨some entry.1, problem⟩

structure ContentReport where
  events : Nat
  items : Nat
  nodes : Nat
  diagnostics : List Diagnostic
  deriving DecidableEq

namespace ContentReport

def isOk (report : ContentReport) : Bool :=
  report.diagnostics.isEmpty

def text (report : ContentReport) : String :=
  let count := report.diagnostics.length
  String.join (report.diagnostics.map fun diagnostic => diagnostic.text ++ "\n") ++
    s!"{report.events} events, {report.items} items, {report.nodes} nodes checked: {count} problem(s)"

end ContentReport

/-- This checks every content file under the paths. -/
def validate (tree : FileTree) (paths : ContentPaths) (context : TemplateContext) :
    ContentReport :=
  let events : Survey Event := Survey.directory tree context paths.events
  let items : Survey Item := Survey.optional tree context paths.items
  let nodes : Survey Node := Survey.optional tree context paths.nodes
  let known : KnownIds := ⟨events.ids, items.ids, nodes.ids⟩
  { events := events.entries.length
    items := items.entries.length
    nodes := nodes.entries.length
    diagnostics :=
      events.diagnostics ++ items.diagnostics ++ nodes.diagnostics ++
        located known.eventProblems events.entries ++
        located known.itemProblems items.entries ++
        located known.nodeProblems nodes.entries }

end Gamebook
