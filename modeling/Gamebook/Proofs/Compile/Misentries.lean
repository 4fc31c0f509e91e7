/-
This file shows that a definition is never refused for its entries without naming one of them.
-/

import Gamebook.Compile

namespace Gamebook

/-- A joined failure is not empty, and it holds nothing but failures of the single results. -/
theorem gather_failures {E A : Type} {results : List (Except E A)} {found : List E}
    (joined : gather results = .error found) :
    found ≠ [] ∧ ∀ failure ∈ found, .error failure ∈ results := by
  induction results generalizing found with
  | nil => cases joined
  | cons result rest inductionHypothesis =>
      cases result with
      | ok value =>
          cases tail : gather rest with
          | ok values => simp [gather, tail] at joined
          | error later =>
              simp only [gather, tail, Except.error.injEq] at joined
              subst joined
              obtain ⟨some, fromRest⟩ := inductionHypothesis tail
              exact ⟨some, fun failure listed => List.mem_cons_of_mem _ (fromRest failure listed)⟩
      | error first =>
          cases tail : gather rest with
          | ok values =>
              simp only [gather, tail, Except.error.injEq] at joined
              subst joined
              simp
          | error later =>
              simp only [gather, tail, Except.error.injEq] at joined
              subst joined
              obtain ⟨-, fromRest⟩ := inductionHypothesis tail
              refine ⟨List.cons_ne_nil _ _, fun failure listed => ?_⟩
              rcases List.mem_cons.mp listed with rfl | inTail
              · exact List.mem_cons_self
              · exact List.mem_cons_of_mem _ (fromRest failure inTail)

theorem mapError_eq_ok_iff {E F A : Type} {result : Except E A} {change : E → F} {value : A} :
    result.mapError change = .ok value ↔ result = .ok value := by
  cases result with
  | error failure =>
      constructor
      · intro impossible
        cases impossible
      · intro impossible
        cases impossible
  | ok found =>
      constructor
      · intro same
        exact congrArg Except.ok (Except.ok.inj same)
      · intro same
        exact congrArg Except.ok (Except.ok.inj same)

theorem readEntries_failures_ne_nil {A : Type} {ofPair : String → String → Except EntryFault A}
    {field : String} {entries : List String} {found : List EntryError}
    (refused : readEntries ofPair field entries = .error found) : found ≠ [] :=
  (gather_failures refused).1

/-- When three results did not all succeed, one of them names a failure. -/
theorem failures_ne_nil {E A B C : Type} {first : Except (List E) A} {second : Except (List E) B}
    {third : Except (List E) C}
    (notAll : ∀ left middle right,
      first = .ok left → second = .ok middle → third = .ok right → False)
    (firstNames : ∀ found, first = .error found → found ≠ [])
    (secondNames : ∀ found, second = .error found → found ≠ [])
    (thirdNames : ∀ found, third = .error found → found ≠ []) :
    failures first ++ failures second ++ failures third ≠ [] := by
  cases first with
  | error found => simp [failures, firstNames found rfl]
  | ok left =>
      cases second with
      | error found => simp [failures, secondNames found rfl]
      | ok middle =>
          cases third with
          | error found => simp [failures, thirdNames found rfl]
          | ok right => exact (notAll left middle right rfl rfl rfl).elim

/-- An option is only refused for an entry of one of its three lists. -/
theorem OptionDefinition.failures_ne_nil {definition : OptionDefinition} {context : TemplateContext}
    {found : List EntryError} (refused : definition.compile context = .error found) :
    found ≠ [] := by
  simp only [compile] at refused
  split at refused
  next => cases refused
  next notAll =>
    cases refused
    exact Gamebook.failures_ne_nil notAll (fun _ => readEntries_failures_ne_nil)
      (fun _ => readEntries_failures_ne_nil) (fun _ => readEntries_failures_ne_nil)

theorem EventDefinition.misentries_ne_nil {definition : EventDefinition}
    {context : TemplateContext} {owner : String} {misentries : List Misentry}
    (refused : definition.compile context = .error (.invalidEntries owner misentries)) :
    misentries ≠ [] := by
  rw [compile] at refused
  split at refused
  next => cases refused
  next id named =>
    simp only at refused
    split at refused
    next found joined =>
      cases refused
      obtain ⟨some, fromOptions⟩ := gather_failures joined
      obtain ⟨first, listed⟩ := List.exists_mem_of_ne_nil found some
      obtain ⟨option, -, compiled⟩ := List.mem_map.mp (fromOptions first listed)
      cases single : option.compile context with
      | ok value =>
          rw [single] at compiled
          cases compiled
      | error errors =>
          rw [single] at compiled
          obtain rfl := Except.error.inj compiled
          have nonempty := OptionDefinition.failures_ne_nil single
          intro none
          have vanished := List.flatten_eq_nil_iff.mp none _ listed
          exact nonempty (List.map_eq_nil_iff.mp vanished)
    next options joined =>
      split at refused
      next => cases refused
      next => cases refused

theorem ItemDefinition.misentries_ne_nil {definition : ItemDefinition} {owner : String}
    {misentries : List Misentry}
    (refused : definition.compile = .error (.invalidEntries owner misentries)) :
    misentries ≠ [] := by
  rw [compile] at refused
  split at refused
  next => cases refused
  next id named =>
    simp only at refused
    split at refused
    next => cases refused
    next notAll =>
      cases refused
      have some := failures_ne_nil notAll (fun _ => readEntries_failures_ne_nil)
        (fun _ => readEntries_failures_ne_nil) (fun _ => readEntries_failures_ne_nil)
      exact fun none => some (List.map_eq_nil_iff.mp none)

theorem NodeDefinition.misentries_ne_nil {definition : NodeDefinition} {owner : String}
    {misentries : List Misentry}
    (refused : definition.compile = .error (.invalidEntries owner misentries)) :
    misentries ≠ [] := by
  rw [compile] at refused
  split at refused
  next => cases refused
  next kind named =>
    split at refused
    next => cases refused
    next refusedEntries some =>
      cases refused
      simpa using some

end Gamebook
