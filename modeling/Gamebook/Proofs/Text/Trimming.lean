/-
This file says what trimming does to a text that is cut at a character which is not blank.
The trimmed parts around the cut are the same whether or not the text was trimmed before.
-/

import Gamebook.Text.Blank
import Mathlib.Data.List.DropRight

namespace Gamebook.Text

theorem trimChars_eq (characters : List Char) :
    trimChars characters = (characters.dropWhile isBlank).rdropWhile isBlank := rfl

theorem dropWhile_append_cons {character : Char} (solid : isBlank character = false)
    (before after : List Char) :
    (before ++ character :: after).dropWhile isBlank =
      before.dropWhile isBlank ++ character :: after := by
  rw [List.dropWhile_append, List.dropWhile_cons_of_neg (by simp [solid])]
  split
  next nothing => rw [List.isEmpty_iff.mp nothing, List.nil_append]
  next => rfl

/-- Nothing is trimmed next to a character that is not blank. -/
theorem trimChars_append_cons {character : Char} (solid : isBlank character = false)
    (before after : List Char) :
    trimChars (before ++ character :: after) =
      before.dropWhile isBlank ++ character :: after.rdropWhile isBlank := by
  rw [trimChars_eq, dropWhile_append_cons solid, List.rdropWhile, List.reverse_append,
    List.reverse_cons, List.append_assoc, List.singleton_append, dropWhile_append_cons solid]
  simp [List.rdropWhile]

theorem trimChars_dropWhile (characters : List Char) :
    trimChars (characters.dropWhile isBlank) = trimChars characters := by
  rw [trimChars_eq, List.dropWhile_idempotent, ← trimChars_eq]

/-- A blank character at the end does not count. -/
theorem trimChars_append_singleton {character : Char} (blank : isBlank character = true)
    (characters : List Char) : trimChars (characters ++ [character]) = trimChars characters := by
  rw [trimChars_eq, trimChars_eq, List.dropWhile_append]
  split
  next nothing => simp [List.isEmpty_iff.mp nothing, blank]
  next => rw [List.rdropWhile_concat_pos _ _ _ blank]

theorem trimChars_rdropWhile (characters : List Char) :
    trimChars (characters.rdropWhile isBlank) = trimChars characters := by
  induction characters using List.reverseRecOn with
  | nil => rfl
  | append_singleton earlier last inductionHypothesis =>
      rw [List.rdropWhile_concat]
      split
      next blank => rw [inductionHypothesis, trimChars_append_singleton blank]
      next => rfl

/-- A trimmed text has nothing left to trim. -/
theorem trim_trim (text : String) : trim (trim text) = trim text := by
  rw [trim, trim, String.toList_ofList, trimChars_eq text.toList, trimChars_rdropWhile,
    trimChars_dropWhile, ← trimChars_eq]

theorem trim_ofList_dropWhile (characters : List Char) :
    trim (String.ofList (characters.dropWhile isBlank)) = trim (String.ofList characters) := by
  rw [trim, trim, String.toList_ofList, String.toList_ofList, trimChars_dropWhile]

theorem trim_ofList_rdropWhile (characters : List Char) :
    trim (String.ofList (characters.rdropWhile isBlank)) = trim (String.ofList characters) := by
  rw [trim, trim, String.toList_ofList, String.toList_ofList, trimChars_rdropWhile]

/-- Every character that is left stood in the text. -/
theorem mem_of_mem_trimChars {character : Char} {characters : List Char}
    (left : character ∈ trimChars characters) : character ∈ characters :=
  (List.dropWhile_suffix isBlank).mem ((List.rdropWhile_prefix isBlank _).mem left)

theorem isBlankText_of_mem {character : Char} {text : String} (solid : isBlank character = false)
    (listed : character ∈ text.toList) : isBlankText text = false := by
  obtain ⟨before, after, parts⟩ := List.append_of_mem listed
  rw [isBlankText, parts, trimChars_append_cons solid]
  simp

end Gamebook.Text
