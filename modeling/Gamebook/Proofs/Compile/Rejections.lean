/-
This file lists the entries of an event that are rejected. A definition with an id names all of
them when it is refused, and only without them are the orders of its options compared.
-/

import Gamebook.Proofs.Compile.Draft
import Gamebook.Proofs.Compile.Misentries

namespace Gamebook

/-- A result that succeeded has no failure. -/
def failure? {E A : Type} : Except E A → Option E
  | .ok _ => none
  | .error failure => some failure

/-- Joining keeps every failure in its place. -/
theorem failures_gather {E A : Type} (results : List (Except E A)) :
    failures (gather results) = results.filterMap failure? := by
  induction results with
  | nil => rfl
  | cons result rest inductionHypothesis =>
      cases result with
      | ok value =>
          rw [List.filterMap_cons_none rfl, ← inductionHypothesis, gather]
          cases gather rest <;> rfl
      | error failure =>
          have first : failure? (Except.error failure : Except E A) = some failure := rfl
          rw [List.filterMap_cons_some first, ← inductionHypothesis, gather]
          cases gather rest <;> rfl

/-- These are the errors of the entries that a reader of pairs rejects. Blank entries are skipped. -/
def rejections {A : Type} (ofPair : String → String → Except EntryFault A) (field : String)
    (entries : List String) : List EntryError :=
  (entries.filter fun entry => !Text.isBlankText entry).filterMap fun entry =>
    failure? (readEntry ofPair field entry)

theorem failures_readEntries {A : Type} (ofPair : String → String → Except EntryFault A)
    (field : String) (entries : List String) :
    failures (readEntries ofPair field entries) = rejections ofPair field entries := by
  rw [readEntries, failures_gather, List.filterMap_map]
  rfl

/-- These are the errors of all rejected entries of an option. -/
def OptionDefinition.rejections (definition : OptionDefinition) : List EntryError :=
  Gamebook.rejections Condition.ofPair "Conditions" definition.conditions ++
    Gamebook.rejections StatAmount.ofPair "Costs" definition.costs ++
    Gamebook.rejections Effect.ofPair "Effects" definition.effects

theorem OptionDefinition.failures_compile (definition : OptionDefinition)
    (context : TemplateContext) :
    failures (definition.compile context) = definition.rejections := by
  rw [rejections, ← failures_readEntries, ← failures_readEntries, ← failures_readEntries]
  simp only [compile]
  split
  next conditions costs effects conditionsRead costsRead effectsRead =>
    rw [readConditions] at conditionsRead
    rw [readCosts] at costsRead
    rw [readEffects] at effectsRead
    rw [conditionsRead, costsRead, effectsRead]
    rfl
  next => rfl

/-- An option without rejected entries is compiled. -/
theorem OptionDefinition.compile_of_no_rejections {definition : OptionDefinition}
    (accepted : definition.rejections = []) (context : TemplateContext) :
    ∃ option, definition.compile context = .ok option ∧ option.order = definition.order := by
  cases compiled : definition.compile context with
  | error found =>
      have nonempty := failures_ne_nil compiled
      rw [← definition.failures_compile context, compiled, failures] at accepted
      exact (nonempty accepted).elim
  | ok option =>
      refine ⟨option, rfl, ?_⟩
      simp only [compile] at compiled
      split at compiled
      next =>
        cases compiled
        rfl
      next => cases compiled

/-- These are the rejected entries of all options of an event. -/
def EventDefinition.rejections (definition : EventDefinition) (id : String) : List Misentry :=
  definition.options.flatMap fun option => option.rejections.map (Misentry.inOption id option.order)

/-- Joining the options of an event names every rejected entry. -/
theorem failures_compiledOptions (context : TemplateContext) (id : String)
    (options : List OptionDefinition) :
    (failures (gather (compiledOptions context id options))).flatten =
      options.flatMap fun option => option.rejections.map (Misentry.inOption id option.order) := by
  rw [failures_gather, compiledOptions, List.filterMap_map]
  induction options with
  | nil => rfl
  | cons option rest inductionHypothesis =>
      rw [List.flatMap_cons, ← inductionHypothesis, ← option.failures_compile context]
      cases compiled : option.compile context with
      | ok value =>
          rw [List.filterMap_cons_none (by simp [compiled, Except.mapError, failure?])]
          rfl
      | error found =>
          rw [List.filterMap_cons_some (by simp only [Function.comp_apply, compiled]; rfl),
            List.flatten_cons]
          rfl

/-- Options without rejected entries are all compiled, and they keep their orders. -/
theorem gather_compiledOptions_of_accepted (context : TemplateContext) (id : String)
    {options : List OptionDefinition} (accepted : ∀ option ∈ options, option.rejections = []) :
    ∃ compiled, gather (compiledOptions context id options) = .ok compiled ∧
      compiled.map EventOption.order = options.map OptionDefinition.order := by
  simp only [gather_eq_ok_iff]
  induction options with
  | nil => exact ⟨[], rfl, rfl⟩
  | cons option rest inductionHypothesis =>
      rw [List.forall_mem_cons] at accepted
      obtain ⟨first, compiled, sameOrder⟩ := option.compile_of_no_rejections accepted.1 context
      obtain ⟨others, same, sameOrders⟩ := inductionHypothesis accepted.2
      refine ⟨first :: others, ?_, ?_⟩
      · rw [compiledOptions, List.map_cons, compiled]
        exact congrArg (Except.ok first :: ·) same
      · rw [List.map_cons, List.map_cons, sameOrder, sameOrders]

section

variable {definition : EventDefinition} {id : String}
  (named : Text.trimmed? definition.id = some id) (context : TemplateContext)

include named

/-- A definition with rejected entries is refused with all of them. -/
theorem EventDefinition.compile_of_rejections (rejected : definition.rejections id ≠ []) :
    definition.compile context = .error (.invalidEntries id (definition.rejections id)) := by
  have all := failures_compiledOptions context id definition.options
  rw [compile_of_id named]
  cases joined : gather (compiledOptions context id definition.options) with
  | ok options =>
      rw [joined] at all
      exact (rejected all.symm).elim
  | error misentries =>
      rw [joined] at all
      exact congrArg (fun misentries => Except.error (CompileError.invalidEntries id misentries)) all

/-- Without rejected entries a definition is refused exactly when two options share an order. -/
theorem EventDefinition.compile_of_no_rejections (accepted : definition.rejections id = []) :
    ((definition.options.map OptionDefinition.order).Nodup →
      ∃ event, definition.compile context = .ok event) ∧
    (¬(definition.options.map OptionDefinition.order).Nodup →
      ∃ order, 2 ≤ (definition.options.map OptionDefinition.order).count order ∧
        definition.compile context = .error (.duplicateOrder id order)) := by
  have each : ∀ option ∈ definition.options, option.rejections = [] := fun option listed =>
    List.map_eq_nil_iff.mp (List.flatMap_eq_nil_iff.mp accepted option listed)
  obtain ⟨options, joined, sameOrders⟩ := gather_compiledOptions_of_accepted context id each
  rw [compile_of_id named, joined, ← sameOrders]
  dsimp only
  constructor
  · intro distinct
    rw [sharedOrder?_sortOptions_eq_none_iff.mpr distinct]
    exact ⟨_, rfl⟩
  · intro shared
    obtain ⟨order, found, twice⟩ := exists_sharedOrder?_of_not_nodup shared
    rw [found]
    exact ⟨order, twice, rfl⟩

end

end Gamebook
