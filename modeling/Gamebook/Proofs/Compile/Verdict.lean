/-
This file says what becomes of the definition of an event.
Its id is looked at first, then every entry of its options, and then the orders of the options. A
definition that passes becomes an event with each of its options, in ascending order.
-/

import Gamebook.Proofs.Compile.Rejections
import Mathlib.Data.List.Duplicate
import Mathlib.Data.List.Perm.Basic
import Mathlib.Order.Bounds.Defs

namespace Gamebook

theorem Text.trimmed?_eq (text : String) :
    Text.trimmed? text = if Text.trim text = "" then none else some (Text.trim text) := by
  have blank : Text.isBlankText text = true ↔ Text.trim text = "" := by
    rw [Text.isBlankText, Text.trim, List.isEmpty_iff, ← String.toList_inj]
    simp
  rw [Text.trimmed?]
  by_cases nothing : Text.trim text = ""
  · rw [if_pos nothing, if_pos (blank.mpr nothing)]
  · rw [if_neg nothing, if_neg (nothing ∘ blank.mp)]

/-- This is the option that a definition stands for when it is told to a hero. -/
structure OptionDefinition.CompilesTo (definition : OptionDefinition) (context : TemplateContext)
    (option : EventOption) : Prop where
  displayText : option.displayText = context.render definition.displayText
  resolutionText : option.resolutionText = context.render definition.resolutionText
  order : option.order = definition.order
  displayCost : option.displayCost = definition.displayCost
  conditions : readConditions "Conditions" definition.conditions = .ok option.conditions
  costs : readCosts "Costs" definition.costs = .ok option.costs
  effects : readEffects "Effects" definition.effects = .ok option.effects
  nextEvent : option.nextEvent =
    if Text.trim definition.nextEvent = "" then none else some (Text.trim definition.nextEvent)

theorem OptionDefinition.compile_eq_ok_iff {definition : OptionDefinition}
    {context : TemplateContext} {option : EventOption} :
    definition.compile context = .ok option ↔ definition.CompilesTo context option := by
  simp only [compile]
  constructor
  · intro compiled
    split at compiled
    next conditions costs effects =>
      cases compiled
      exact ⟨rfl, rfl, rfl, rfl, conditions, costs, effects, Text.trimmed?_eq _⟩
    next => cases compiled
  · rintro ⟨displayText, resolutionText, order, displayCost, conditions, costs, effects, nextEvent⟩
    rw [conditions, costs, effects, Text.trimmed?_eq, ← displayText, ← resolutionText, ← order,
      ← displayCost, ← nextEvent]

/-- An option has a rejected entry when the reader of its field refuses this entry alone. -/
def OptionDefinition.HasRejectedEntry (definition : OptionDefinition) : Prop :=
  (∃ entry ∈ definition.conditions, ∃ errors, readConditions "Conditions" [entry] = .error errors) ∨
    (∃ entry ∈ definition.costs, ∃ errors, readCosts "Costs" [entry] = .error errors) ∨
      ∃ entry ∈ definition.effects, ∃ errors, readEffects "Effects" [entry] = .error errors

/-- A list of entries is refused when one of them is. -/
theorem rejections_ne_nil_iff {A : Type} {ofPair : String → String → Except EntryFault A}
    {field : String} {entries : List String} :
    rejections ofPair field entries ≠ [] ↔
      ∃ entry ∈ entries, ∃ errors, readEntries ofPair field [entry] = .error errors := by
  have single : ∀ entry, (∃ errors, readEntries ofPair field [entry] = .error errors) ↔
      rejections ofPair field [entry] ≠ [] := fun entry => by
    rw [← failures_readEntries]
    cases read : readEntries ofPair field [entry] with
    | ok values => simp [failures]
    | error errors => simp [failures, readEntries_failures_ne_nil read]
  have all : rejections ofPair field entries =
      entries.flatMap fun entry => rejections ofPair field [entry] := by
    induction entries with
    | nil => rfl
    | cons entry rest inductionHypothesis =>
        rw [List.flatMap_cons, ← inductionHypothesis, rejections, rejections, rejections,
          ← List.filterMap_append, ← List.filter_append, List.singleton_append]
  simp only [single, all, ne_eq, List.flatMap_eq_nil_iff, not_forall, exists_prop]

theorem OptionDefinition.rejections_ne_nil_iff {definition : OptionDefinition} :
    definition.rejections ≠ [] ↔ definition.HasRejectedEntry := by
  rw [rejections, ne_eq, List.append_eq_nil_iff, List.append_eq_nil_iff, not_and_or, not_and_or,
    ← ne_eq, ← ne_eq, ← ne_eq, Gamebook.rejections_ne_nil_iff, Gamebook.rejections_ne_nil_iff,
    Gamebook.rejections_ne_nil_iff, or_assoc]
  rfl

namespace EventDefinition

theorem rejections_ne_nil_iff {definition : EventDefinition} {id : String} :
    definition.rejections id ≠ [] ↔ ∃ option ∈ definition.options, option.HasRejectedEntry := by
  simp only [← OptionDefinition.rejections_ne_nil_iff, rejections, ne_eq, List.flatMap_eq_nil_iff,
    List.map_eq_nil_iff, not_forall, exists_prop]

/-- This is the event that a definition stands for when it is told to a hero. Each option is
compiled on its own, and the event has nothing but these options. -/
structure CompilesTo (definition : EventDefinition) (context : TemplateContext) (event : Event) :
    Prop where
  id : event.id = Text.trim definition.id
  name : event.name = context.render definition.name
  description : event.description = context.render definition.description
  options : (definition.options.map fun part => part.compile context).Perm (event.options.map .ok)
  ascending : event.IsAscending
  chosen : ∀ order option, event.option? order = some option ↔
    ∃ part ∈ definition.options, part.order = order ∧ part.CompilesTo context option

/-- These are the results of a definition with the conditions under which they are given. -/
inductive Verdict (definition : EventDefinition) (context : TemplateContext) :
    Except CompileError Event → Prop
  | missingId (blank : Text.trim definition.id = "") :
      Verdict definition context (.error .missingEventId)
  | rejected (named : Text.trim definition.id ≠ "")
      (rejected : ∃ option ∈ definition.options, option.HasRejectedEntry) :
      Verdict definition context (.error
        (.invalidEntries (Text.trim definition.id)
          (definition.rejections (Text.trim definition.id))))
  | sharedOrder (named : Text.trim definition.id ≠ "")
      (accepted : ¬∃ option ∈ definition.options, option.HasRejectedEntry) {order : Int32}
      (least : IsLeast {order | 2 ≤ definition.orders.count order} order) :
      Verdict definition context (.error (.duplicateOrder (Text.trim definition.id) order))
  | compiled (named : Text.trim definition.id ≠ "")
      (accepted : ¬∃ option ∈ definition.options, option.HasRejectedEntry)
      (distinct : definition.orders.Nodup) {event : Event}
      (compiles : definition.CompilesTo context event) : Verdict definition context (.ok event)

end EventDefinition

/-- In an event with ascending options an option is found by its order. -/
theorem Event.IsAscending.option?_eq_some_iff {event : Event} (ascending : event.IsAscending)
    {order : Int32} {option : EventOption} :
    event.option? order = some option ↔ option ∈ event.options ∧ option.order = order := by
  constructor
  · intro found
    exact ⟨List.mem_of_find?_eq_some found, by simpa using List.find?_some found⟩
  · rintro ⟨listed, rfl⟩
    cases found : event.option? option.order with
    | none => simpa using List.find?_eq_none.mp found option listed
    | some other =>
        have otherListed := List.mem_of_find?_eq_some found
        have sameOrder : other.order = option.order := by simpa using List.find?_some found
        have distinct : (event.options.map EventOption.order).Nodup :=
          List.pairwise_map.mpr (ascending.imp Int32.ne_of_lt)
        rw [List.inj_on_of_nodup_map distinct otherListed listed sameOrder]

namespace EventDefinition

variable {definition : EventDefinition} {context : TemplateContext}

/-- Options that are compiled together are compiled each on its own. -/
theorem compile_map_of_gather {id : String} {options : List EventOption}
    (joined : gather (compiledOptions context id definition.options) = .ok options) :
    definition.options.map (fun part => part.compile context) = options.map .ok := by
  rw [gather_eq_ok_iff, compiledOptions, ← List.forall₂_eq_eq_eq, List.forall₂_map_left_iff,
    List.forall₂_map_right_iff] at joined
  rw [← List.forall₂_eq_eq_eq, List.forall₂_map_left_iff, List.forall₂_map_right_iff]
  exact joined.imp fun _ _ => mapError_eq_ok_iff.mp

/-- An option of the compiled event is found by the order that it was given by its author. -/
theorem option?_eq_some_iff {event : Event} (ascending : event.IsAscending)
    (options : (definition.options.map fun part => part.compile context).Perm
      (event.options.map .ok)) {order : Int32} {option : EventOption} :
    event.option? order = some option ↔
      ∃ part ∈ definition.options, part.order = order ∧ part.CompilesTo context option := by
  have member : option ∈ event.options ↔
      ∃ part ∈ definition.options, part.CompilesTo context option := by
    rw [← List.mem_map_of_injective (f := Except.ok) (fun _ _ => Except.ok.inj),
      ← options.mem_iff, List.mem_map]
    simp only [OptionDefinition.compile_eq_ok_iff]
  rw [ascending.option?_eq_some_iff, member]
  constructor
  · rintro ⟨⟨part, listed, compiles⟩, rfl⟩
    exact ⟨part, listed, compiles.order.symm, compiles⟩
  · rintro ⟨part, listed, rfl, compiles⟩
    exact ⟨⟨part, listed, compiles⟩, compiles.order⟩

/-- Options that are sorted and share no order make up the event. -/
theorem compilesTo_of_sorted {options : List EventOption}
    (parts : definition.options.map (fun part => part.compile context) = options.map .ok)
    (distinct : sharedOrder? (sortOptions options) = none) :
    definition.CompilesTo context
      ⟨Text.trim definition.id, context.render definition.name,
        context.render definition.description, sortOptions options⟩ := by
  have ascending : Event.IsAscending ⟨Text.trim definition.id, context.render definition.name,
      context.render definition.description, sortOptions options⟩ :=
    pairwise_lt_of_sharedOrder? (sortOptions_pairwise options) distinct
  have sorted : (definition.options.map fun part => part.compile context).Perm
      ((sortOptions options).map .ok) := by
    rw [parts]
    exact ((sortOptions_perm options).map _).symm
  exact ⟨rfl, rfl, rfl, sorted, ascending, fun order option => option?_eq_some_iff ascending sorted⟩

/-- There is only one event with these options in ascending order. -/
theorem CompilesTo.unique {event other : Event} (first : definition.CompilesTo context event)
    (second : definition.CompilesTo context other) : event = other := by
  have reordered : event.options.Perm other.options :=
    (List.map_perm_map_iff fun _ _ => Except.ok.inj).mp (first.options.symm.trans second.options)
  have options : event.options = other.options :=
    reordered.eq_of_pairwise
      (fun _ _ _ _ below above => (Int32.lt_irrefl (Int32.lt_trans below above)).elim)
      first.ascending second.ascending
  obtain ⟨id, name, description, listed⟩ := event
  obtain ⟨otherId, otherName, otherDescription, otherListed⟩ := other
  obtain rfl : id = otherId := first.id.trans second.id.symm
  obtain rfl : name = otherName := first.name.trans second.name.symm
  obtain rfl : description = otherDescription := first.description.trans second.description.symm
  exact congrArg _ options

/-- The conditions of a verdict exclude those of any other. -/
theorem Verdict.unique {result other : Except CompileError Event}
    (first : definition.Verdict context result) (second : definition.Verdict context other) :
    result = other := by
  cases first with
  | missingId blank =>
      cases second with
      | missingId => rfl
      | rejected named => exact absurd blank named
      | sharedOrder named => exact absurd blank named
      | compiled named => exact absurd blank named
  | rejected named rejected =>
      cases second with
      | missingId blank => exact absurd blank named
      | rejected => rfl
      | sharedOrder _ accepted => exact absurd rejected accepted
      | compiled _ accepted => exact absurd rejected accepted
  | sharedOrder named accepted least =>
      cases second with
      | missingId blank => exact absurd blank named
      | rejected _ rejected => exact absurd rejected accepted
      | sharedOrder _ _ otherLeast =>
          rw [Int32.le_antisymm (least.2 otherLeast.1) (otherLeast.2 least.1)]
      | compiled _ _ distinct =>
          exact absurd distinct (List.duplicate_iff_two_le_count.mpr least.1).not_nodup
  | compiled named accepted distinct compiles =>
      cases second with
      | missingId blank => exact absurd blank named
      | rejected _ rejected => exact absurd rejected accepted
      | sharedOrder _ _ least =>
          exact absurd distinct (List.duplicate_iff_two_le_count.mpr least.1).not_nodup
      | compiled _ _ _ otherCompiles => rw [compiles.unique otherCompiles]

/-- Compiling gives one of the verdicts. -/
theorem verdict_compile (definition : EventDefinition) (context : TemplateContext) :
    definition.Verdict context (definition.compile context) := by
  have trimmed := Text.trimmed?_eq definition.id
  by_cases blank : Text.trim definition.id = ""
  · rw [if_pos blank] at trimmed
    rw [compile, trimmed]
    exact .missingId blank
  rw [if_neg blank] at trimmed
  by_cases rejected : ∃ option ∈ definition.options, option.HasRejectedEntry
  · rw [compile_of_rejections trimmed context (rejections_ne_nil_iff.mpr rejected)]
    exact .rejected blank rejected
  have accepted : ∀ option ∈ definition.options, option.rejections = [] := fun option listed =>
    not_not.mp fun some => rejected ⟨option, listed, OptionDefinition.rejections_ne_nil_iff.mp some⟩
  obtain ⟨options, joined, orders⟩ :=
    gather_compiledOptions_of_accepted context (Text.trim definition.id) accepted
  rw [compile_of_id trimmed, joined]
  dsimp only
  have sameOrders : ((sortOptions options).map EventOption.order).Perm definition.orders :=
    ((sortOptions_perm options).map EventOption.order).trans (.of_eq orders)
  split
  next order found =>
    have twice := count_of_sharedOrder? found
    rw [sameOrders.count_eq] at twice
    refine .sharedOrder blank rejected ⟨twice, fun other otherTwice => ?_⟩
    change 2 ≤ definition.orders.count other at otherTwice
    rw [← sameOrders.count_eq] at otherTwice
    exact le_of_sharedOrder? (sortOptions_pairwise options) found otherTwice
  next none =>
    have distinct := sharedOrder?_sortOptions_eq_none_iff.mp none
    rw [orders] at distinct
    exact .compiled blank rejected distinct
      (compilesTo_of_sorted (compile_map_of_gather joined) none)

end EventDefinition

/-- Compiling an event gives exactly the result whose conditions are met: the id is looked at before
the entries, and the entries before the orders. The messages about rejected entries are those of
the readers, option by option and field by field. -/
theorem EventDefinition.compiled_in_stages (definition : EventDefinition)
    (context : TemplateContext) :
    (∀ result, definition.compile context = result ↔ definition.Verdict context result) ∧
      (∀ (part : OptionDefinition) option,
        part.compile context = .ok option ↔ part.CompilesTo context option) ∧
      ∀ id, (definition.rejections id).map Misentry.message =
        definition.options.flatMap fun part =>
          (failures (readConditions "Conditions" part.conditions) ++
            failures (readCosts "Costs" part.costs) ++
            failures (readEffects "Effects" part.effects)).map fun error =>
              s!"Event '{id}' option {part.order.toInt}: {error.message}" := by
  refine ⟨fun result => ⟨?_, (definition.verdict_compile context).unique⟩,
    fun part option => OptionDefinition.compile_eq_ok_iff, fun id => ?_⟩
  · rintro rfl
    exact definition.verdict_compile context
  · rw [rejections, List.map_flatMap]
    congr 1
    funext part
    rw [List.map_map, OptionDefinition.rejections, ← failures_readEntries, ← failures_readEntries,
      ← failures_readEntries]
    rfl

end Gamebook
