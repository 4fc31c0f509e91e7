/-
This file separates an event from the hero to whom it is told.
A definition has one draft, which holds the texts as they are authored. Only these are rendered.
-/

import Gamebook.Proofs.Compile.Orders
import Mathlib.Data.List.Forall2

namespace Gamebook

/-- A hero decides nothing about a result when it fails for all heroes alike, or when it has one
draft that is rendered for each of them. -/
def OnlyRenders {E A : Type} (IsDraft : A → Prop) (rendered : TemplateContext → A → A)
    (result : TemplateContext → Except E A) : Prop :=
  (∃ error, ∀ context, result context = .error error) ∨
    ∃ draft, IsDraft draft ∧ ∀ context, result context = .ok (rendered context draft)

/-- This renders the two texts of an option. -/
def EventOption.rendered (context : TemplateContext) (option : EventOption) : EventOption :=
  { option with
    displayText := context.render option.displayText
    resolutionText := context.render option.resolutionText }

@[simp] theorem EventOption.rendered_order (context : TemplateContext) (option : EventOption) :
    (option.rendered context).order = option.order :=
  rfl

/-- This renders the two texts of an event and those of its options. -/
def Event.rendered (context : TemplateContext) (event : Event) : Event :=
  { event with
    name := context.render event.name
    description := context.render event.description
    options := event.options.map (EventOption.rendered context) }

/-- The draft of an option keeps the authored texts and has the lists that are read. -/
structure OptionDefinition.IsDraft (definition : OptionDefinition) (option : EventOption) :
    Prop where
  displayText : option.displayText = definition.displayText
  resolutionText : option.resolutionText = definition.resolutionText
  order : option.order = definition.order
  displayCost : option.displayCost = definition.displayCost
  conditions : readConditions "Conditions" definition.conditions = .ok option.conditions
  costs : readCosts "Costs" definition.costs = .ok option.costs
  effects : readEffects "Effects" definition.effects = .ok option.effects
  nextEvent : option.nextEvent = Text.trimmed? definition.nextEvent

/-- No two options of the event have the same order, and a lower order comes first. -/
def Event.IsAscending (event : Event) : Prop :=
  event.options.Pairwise fun left right => left.order < right.order

theorem Event.isAscending_rendered (context : TemplateContext) {event : Event}
    (ascending : event.IsAscending) : (event.rendered context).IsAscending := by
  rw [IsAscending, rendered, List.pairwise_map]
  simp only [EventOption.rendered_order]
  exact ascending

/-- The draft of an event keeps the authored texts and has the drafts of its options in strictly
ascending order. -/
structure EventDefinition.IsDraft (definition : EventDefinition) (event : Event) : Prop where
  id : Text.trimmed? definition.id = some event.id
  name : event.name = definition.name
  description : event.description = definition.description
  options : ∃ drafts, List.Forall₂ OptionDefinition.IsDraft definition.options drafts ∧
    event.options = sortOptions drafts
  ascending : event.IsAscending

theorem OptionDefinition.compile_onlyRenders (definition : OptionDefinition) :
    OnlyRenders definition.IsDraft EventOption.rendered definition.compile := by
  cases conditions : readConditions "Conditions" definition.conditions <;>
    cases costs : readCosts "Costs" definition.costs <;>
    cases effects : readEffects "Effects" definition.effects
  case ok.ok.ok readConditions readCosts readEffects =>
    refine .inr ⟨⟨definition.displayText, definition.resolutionText, definition.order,
      definition.displayCost, readConditions, readCosts, readEffects,
      Text.trimmed? definition.nextEvent⟩, ?_, fun context => ?_⟩
    · exact ⟨rfl, rfl, rfl, rfl, conditions, costs, effects, rfl⟩
    · rw [compile, conditions, costs, effects]
      rfl
  all_goals
    refine .inl ⟨failures (readConditions "Conditions" definition.conditions) ++
      failures (readCosts "Costs" definition.costs) ++
      failures (readEffects "Effects" definition.effects), fun context => ?_⟩
    rw [compile, conditions, costs, effects]

/-- These are the options of an event as they are compiled for one hero. -/
def compiledOptions (context : TemplateContext) (id : String) (options : List OptionDefinition) :
    List (Except (List Misentry) EventOption) :=
  options.map fun option =>
    (option.compile context).mapError fun errors => errors.map (Misentry.inOption id option.order)

theorem gather_compiledOptions_cons (context : TemplateContext) (id : String)
    (option : OptionDefinition) (rest : List OptionDefinition) :
    gather (compiledOptions context id (option :: rest)) =
      gather ((option.compile context).mapError
        (fun errors => errors.map (Misentry.inOption id option.order)) ::
          compiledOptions context id rest) :=
  rfl

theorem gather_compiledOptions_onlyRenders (id : String) (options : List OptionDefinition) :
    OnlyRenders (List.Forall₂ OptionDefinition.IsDraft options)
      (fun context => List.map (EventOption.rendered context))
      (fun context => gather (compiledOptions context id options)) := by
  induction options with
  | nil => exact .inr ⟨[], .nil, fun _ => rfl⟩
  | cons option rest inductionHypothesis =>
      rcases option.compile_onlyRenders with ⟨errors, refused⟩ | ⟨draft, isDraft, compiled⟩
      · rcases inductionHypothesis with ⟨more, restRefused⟩ | ⟨drafts, -, restCompiled⟩
        · refine .inl ⟨errors.map (Misentry.inOption id option.order) :: more, fun context => ?_⟩
          simp only [gather_compiledOptions_cons, refused, Except.mapError, gather, restRefused]
        · refine .inl ⟨[errors.map (Misentry.inOption id option.order)], fun context => ?_⟩
          simp only [gather_compiledOptions_cons, refused, Except.mapError, gather, restCompiled]
      · rcases inductionHypothesis with ⟨more, restRefused⟩ | ⟨drafts, areDrafts, restCompiled⟩
        · refine .inl ⟨more, fun context => ?_⟩
          simp only [gather_compiledOptions_cons, compiled, Except.mapError, gather, restRefused]
        · refine .inr ⟨draft :: drafts, .cons isDraft areDrafts, fun context => ?_⟩
          simp only [gather_compiledOptions_cons, compiled, Except.mapError, gather, restCompiled]
          rfl

/-- An event with an id is compiled from its joined options. -/
theorem EventDefinition.compile_of_id {definition : EventDefinition} {id : String}
    (named : Text.trimmed? definition.id = some id) (context : TemplateContext) :
    definition.compile context =
      match gather (compiledOptions context id definition.options) with
      | .error misentries => .error (.invalidEntries id misentries.flatten)
      | .ok options =>
          match sharedOrder? (sortOptions options) with
          | some order => .error (.duplicateOrder id order)
          | none =>
              .ok ⟨id, context.render definition.name, context.render definition.description,
                sortOptions options⟩ := by
  rw [compile, named]
  rfl

/-- The hero for whom an event is compiled only decides how its texts are rendered. -/
theorem EventDefinition.compile_onlyRenders (definition : EventDefinition) :
    OnlyRenders definition.IsDraft Event.rendered definition.compile := by
  cases named : Text.trimmed? definition.id with
  | none => exact .inl ⟨.missingEventId, fun context => by rw [compile, named]⟩
  | some id =>
      rcases gather_compiledOptions_onlyRenders id definition.options with
        ⟨misentries, refused⟩ | ⟨drafts, areDrafts, compiled⟩
      · refine .inl ⟨.invalidEntries id misentries.flatten, fun context => ?_⟩
        simp only [compile_of_id named, refused]
      · have sorted : ∀ context, sortOptions (drafts.map (EventOption.rendered context)) =
            (sortOptions drafts).map (EventOption.rendered context) := fun context =>
          sortOptions_map (EventOption.rendered_order context) drafts
        have sameShared : ∀ context,
            sharedOrder? ((sortOptions drafts).map (EventOption.rendered context)) =
              sharedOrder? (sortOptions drafts) := fun context =>
          sharedOrder?_map (EventOption.rendered_order context) (sortOptions drafts)
        cases shared : sharedOrder? (sortOptions drafts) with
        | some order =>
            refine .inl ⟨.duplicateOrder id order, fun context => ?_⟩
            simp only [compile_of_id named, compiled, sorted, sameShared, shared]
        | none =>
            have ascending := pairwise_lt_of_sharedOrder? (sortOptions_pairwise drafts) shared
            refine .inr ⟨⟨id, definition.name, definition.description, sortOptions drafts⟩,
              ⟨named, rfl, rfl, ⟨drafts, areDrafts, rfl⟩, ascending⟩, fun context => ?_⟩
            simp only [compile_of_id named, compiled, sorted, sameShared, shared]
            rfl

end Gamebook
