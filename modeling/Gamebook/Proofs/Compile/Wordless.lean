/-
This file shows that the hero for whom an event is rendered only decides its texts.
Without their texts the events of two heroes are the same, and so are their faults.
-/

import Gamebook.Proofs.Compile.Draft

namespace Gamebook

/-- This is an option without its texts. -/
def EventOption.wordless (option : EventOption) : EventOption :=
  { option with displayText := "", resolutionText := "" }

/-- This is an event without its texts and without those of its options. -/
def Event.wordless (event : Event) : Event :=
  { event with
    name := ""
    description := ""
    options := event.options.map EventOption.wordless }

/-- Two results that are the same up to a change of their values are of the same kind. -/
theorem map_eq_map_iff {E A B : Type} {change : A → B} {first second : Except E A} :
    first.map change = second.map change ↔
      (∃ error, first = .error error ∧ second = .error error) ∨
        ∃ left right, first = .ok left ∧ second = .ok right ∧ change left = change right := by
  cases first <;> cases second <;> simp [Except.map, eq_comm]

theorem Event.wordless_rendered (context : TemplateContext) (event : Event) :
    (event.rendered context).wordless = event.wordless := by
  rw [rendered, wordless, wordless, List.map_map]
  rfl

/-- Two heroes get the same event up to its texts, or the same fault. -/
theorem EventDefinition.compile_wordless (definition : EventDefinition)
    (first second : TemplateContext) :
    (definition.compile first).map Event.wordless =
      (definition.compile second).map Event.wordless := by
  rcases definition.compile_onlyRenders with ⟨error, refused⟩ | ⟨draft, -, compiled⟩
  · rw [refused, refused]
  · rw [compiled, compiled, Except.map, Except.map, Event.wordless_rendered,
      Event.wordless_rendered]

end Gamebook
