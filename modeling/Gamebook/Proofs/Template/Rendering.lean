/-
This file says what a text shows when the hero is put into it.
A known token shows the text that it stands for, and every other character shows itself. Rendering,
which reads the text from left to right, does exactly this.
-/

import Gamebook.Proofs.Lookup
import Gamebook.Proofs.Template.Occurrence
import Mathlib.Data.List.Forall2

namespace Gamebook

namespace TemplateContext

/-- No known token stands for two texts. -/
theorem value?_eq_some_iff {context : TemplateContext} {word value : String} :
    context.value? word = some value ↔ (word, value) ∈ context.forms := by
  refine lookup_eq_some_iff_mem ?_
  change ["he", "He", "him", "Him", "his", "His", "himself", "Himself", "Name", "Title"].Nodup
  decide

/-- A known token is at the given position, and it stands for the value. -/
structure Replaces (context : TemplateContext) (text : List Char) (start : Nat) (word : List Char)
    (value : String) : Prop where
  occurs : Occurs text start word
  known : (String.ofList word, value) ∈ context.forms

/-- This is what the character at a position becomes. The opening brace of a known token becomes the
value, and the other characters of the token vanish. All that is in no known token is copied. -/
inductive Shows (context : TemplateContext) (text : List Char) (position : Nat) : List Char → Prop
  | value {word : List Char} {value : String}
      (token : context.Replaces text position word value) : Shows context text position value.toList
  | covered {start : Nat} {word : List Char} {value : String}
      (token : context.Replaces text start word value) (after : start < position)
      (before : position < start + word.length + 2) : Shows context text position []
  | copied {character : Char} (written : text[position]? = some character)
      (free : ∀ start word value, context.Replaces text start word value →
        position < start ∨ start + word.length + 2 ≤ position) :
      Shows context text position [character]

/-- The text becomes what its positions show, one after the other. -/
def ShownAs (context : TemplateContext) (text shown : List Char) : Prop :=
  ∃ parts, List.Forall₂ (context.Shows text) (List.range text.length) parts ∧ shown = parts.flatten

variable {context : TemplateContext} {text first second : List Char}

theorem Replaces.unique {start : Nat} {word other : List Char} {value otherValue : String}
    (token : context.Replaces text start word value)
    (again : context.Replaces text start other otherValue) : value = otherValue := by
  have known := value?_eq_some_iff.mpr token.known
  rw [token.occurs.unique again.occurs, value?_eq_some_iff.mpr again.known] at known
  exact (Option.some.inj known).symm

/-- A position shows only one thing. -/
theorem shows_rightUnique : Relator.RightUnique (context.Shows text) := by
  intro position part other first second
  cases first with
  | value token =>
      cases second with
      | value again => rw [token.unique again]
      | covered again after before =>
          exact absurd (again.occurs.end_le_of_lt token.occurs after) (by omega)
      | copied _ free => exact absurd (free _ _ _ token) (by omega)
  | covered token after before =>
      cases second with
      | value again => exact absurd (token.occurs.end_le_of_lt again.occurs after) (by omega)
      | covered => rfl
      | copied _ free => exact absurd (free _ _ _ token) (by omega)
  | copied written free =>
      cases second with
      | value again => exact absurd (free _ _ _ again) (by omega)
      | covered again after before => exact absurd (free _ _ _ again) (by omega)
      | copied again => rw [Option.some.inj (written.symm.trans again)]

theorem ShownAs.unique {shown other : List Char} (shows : context.ShownAs text shown)
    (again : context.ShownAs text other) : shown = other := by
  obtain ⟨parts, each, rfl⟩ := shows
  obtain ⟨otherParts, otherEach, rfl⟩ := again
  rw [shows_rightUnique.forall₂ each otherEach]

end TemplateContext

end Gamebook
