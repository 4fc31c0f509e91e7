/-
This file warns of content that loads but that an author probably wants to look at again.
-/

import Gamebook.CommandLine.Output
import Gamebook.Content.Report

namespace Gamebook

inductive Warning where
  | noOptions (event : String)
  | hiddenCost (event : String) (order : Int32) (cost : String)
  | neverReached (event : String)
  deriving DecidableEq

def Warning.text : Warning → String
  | .noOptions event => s!"Event '{event}' has no options; the player cannot leave it"
  | .hiddenCost event order cost =>
      s!"Event '{event}' option {order.toInt} costs {cost} but does not show it (DisplayCost is false)"
  | .neverReached event =>
      s!"Event '{event}' is never reached from a node, a chain or a trigger"

def Event.warnings (event : Event) : List Warning :=
  let hidden := event.options.filter fun option => !option.costs.isEmpty && !option.displayCost
  (if event.options.isEmpty then [.noOptions event.id] else []) ++
    hidden.map fun option => .hiddenCost event.id option.order option.costText

namespace Content

/-- These are the ids of all events that a node, an effect or a chain leads to. -/
def reachedIds (content : Content) : List String :=
  let options := content.events.entries.flatMap Event.options
  content.nodes.entries.flatMap Node.eventIds ++
    triggeredEvents (content.items.entries.flatMap Item.effects) ++
    triggeredEvents (options.flatMap EventOption.effects) ++
    options.filterMap EventOption.nextEvent

/-- Without nodes there is nowhere to begin, so that no event is expected to be reached. -/
def warnings (content : Content) : List Warning :=
  let reached := content.reachedIds
  content.events.entries.flatMap Event.warnings ++
    if content.nodes.isEmpty then []
    else
      (content.events.entries.filter fun event => !reached.contains event.id).map
        fun event => .neverReached event.id

end Content

def lintLines (report : ContentReport) (warnings : List Warning) : List String :=
  let passed := report.isOk && warnings.isEmpty
  let errors := report.diagnostics.length
  ["\n=== Content Lint Report ===\n"] ++
    (if passed then ["All checks passed!"] else []) ++
    warnings.map (fun warning => s!"WARNING: {warning.text}") ++
    report.diagnostics.map (fun diagnostic => s!"ERROR: {diagnostic.text}") ++
    [s!"\nSummary: {report.events} events, {report.items} items, {report.nodes} nodes; {errors} errors, {warnings.length} warnings"]

/-- Warnings are only looked for in content without problems. -/
def lint (tree : FileTree) (paths : ContentPaths) : ToolRun :=
  let report := validate tree paths TemplateContext.neutral
  if report.isOk then
    match Content.load tree paths TemplateContext.neutral with
    | .ok content => ⟨0, printed (lintLines report content.warnings)⟩
    | .error _ => ⟨1, ""⟩
  else ⟨1, printed (lintLines report [])⟩

end Gamebook
