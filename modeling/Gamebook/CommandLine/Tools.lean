/-
This file says what the tools of the library can be asked for.
One tool looks for faults in content, and the other plays through it.
-/

import Gamebook.CommandLine.Arguments
import Gamebook.Content.Lint
import Gamebook.Session.Transcript

namespace Gamebook

/-- A run with arguments that do not fit prints nothing and ends with this code. -/
def usageExit : Nat := 2

/-- A path must not be empty. -/
def pathOption? (arguments : Arguments) (name : String) : Option (Option String) :=
  match arguments.option? name with
  | some "" => none
  | found => some found

/-- Exactly one argument stands alone, and it is a path. -/
def rootPath? (arguments : Arguments) : Option String :=
  match arguments.plain with
  | [root] => if root.isEmpty then none else some root
  | _ => none

structure LintOptions where
  root : String
  events : Option String
  items : Option String
  nodes : Option String
  deriving DecidableEq

namespace LintOptions

def names : ArgumentNames :=
  ⟨["events", "items", "nodes"], ["verbose"], [('v', "verbose")]⟩

def ofArguments? (arguments : List String) : Option LintOptions := do
  let sorted ← names.sort? Arguments.empty arguments
  let root ← rootPath? sorted
  let events ← pathOption? sorted "events"
  let items ← pathOption? sorted "items"
  let nodes ← pathOption? sorted "nodes"
  return ⟨root, events, items, nodes⟩

/-- A directory that is given replaces the one under the root. -/
def paths (options : LintOptions) (tree : FileTree) : ContentPaths :=
  let found := ContentPaths.ofRoot tree options.root
  { events := options.events.getD found.events
    items := options.items.or found.items
    nodes := options.nodes.or found.nodes }

end LintOptions

namespace SessionOptions

def names : ArgumentNames :=
  ⟨["name", "birth", "seed", "start"], ["verbose"], [('v', "verbose")]⟩

def birth? : String → Option Birth
  | "boy" => some .boy
  | "girl" => some .girl
  | "omen" => some .childOfOmen
  | _ => none

/-- An option that is absent has its usual value, and one that is given must be readable. -/
def given? {A : Type} (usual : A) (read : String → Option A) : Option String → Option A
  | none => some usual
  | some value => read value

def ofArguments? (arguments : List String) : Option SessionOptions := do
  let sorted ← names.sort? Arguments.empty arguments
  let root ← rootPath? sorted
  let birth ← given? .boy birth? (sorted.option? "birth")
  let seed ← given? 42 Numeral.word64? (sorted.option? "seed")
  return {
    root := root
    name := (sorted.option? "name").getD "Bjorn"
    birth := birth
    seed := seed
    start := sorted.option? "start" }

end SessionOptions

def lintTool (tree : FileTree) (arguments : List String) : ToolRun :=
  match LintOptions.ofArguments? arguments with
  | none => ⟨usageExit, ""⟩
  | some options => lint tree (options.paths tree)

def playTool (tree : FileTree) (arguments : List String) (input : String) : ToolRun :=
  match SessionOptions.ofArguments? arguments with
  | none => ⟨usageExit, ""⟩
  | some options => Session.run tree options input

end Gamebook
