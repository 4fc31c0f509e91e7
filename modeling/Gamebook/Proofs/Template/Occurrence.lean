/-
This file says where words in braces occur in a text. No two of them overlap, because there is only
one opening brace in each. A text can therefore be cut into parts without cutting a word apart.
-/

import Gamebook.Template
import Mathlib.Data.List.Infix

namespace Gamebook

/-- A word of letters is written in braces, and the opening brace is at the given position. -/
structure Occurs (text : List Char) (start : Nat) (word : List Char) : Prop where
  nonempty : word ≠ []
  letters : ∀ letter ∈ word, letter.isAlpha = true
  written : '{' :: (word ++ ['}']) <+: text.drop start

namespace Occurs

variable {text word : List Char} {start : Nat}

/-- The characters of the text are those of the token. -/
theorem getElem?_eq (occurs : Occurs text start word) {offset : Nat}
    (inside : offset < word.length + 2) :
    text[start + offset]? = ('{' :: (word ++ ['}']))[offset]? := by
  have inToken : offset < ('{' :: (word ++ ['}'])).length := by
    rw [List.length_cons, List.length_append, List.length_singleton]
    omega
  rw [← List.getElem?_drop, List.getElem?_eq_getElem inToken]
  exact List.prefix_iff_getElem?.mp occurs.written offset inToken

theorem opening (occurs : Occurs text start word) : text[start]? = some '{' := by
  simpa using occurs.getElem?_eq (Nat.zero_lt_succ _)

theorem closing (occurs : Occurs text start word) :
    text[start + (word.length + 1)]? = some '}' := by
  rw [occurs.getElem?_eq (by omega)]
  simp

/-- After its opening brace a token has letters, and then the closing brace. -/
theorem character_inside (occurs : Occurs text start word) {position : Nat}
    (after : start < position) (before : position < start + word.length + 2) {character : Char}
    (written : text[position]? = some character) :
    character.isAlpha = true ∧ position < start + word.length + 1 ∨
      character = '}' ∧ position = start + word.length + 1 := by
  obtain ⟨offset, rfl⟩ := Nat.exists_eq_add_of_lt after
  rw [Nat.add_assoc, occurs.getElem?_eq (by omega), List.getElem?_cons_succ] at written
  rcases Nat.lt_or_ge offset word.length with inWord | atEnd
  · rw [List.getElem?_append_left inWord] at written
    exact .inl ⟨occurs.letters _ (List.mem_of_getElem? written), by omega⟩
  · obtain rfl : offset = word.length := by omega
    exact .inr ⟨by simpa using written.symm, by omega⟩

theorem character_inside_ne (occurs : Occurs text start word) {position : Nat}
    (after : start < position) (before : position < start + word.length + 2) :
    text[position]? ≠ some '{' := fun written => by
  rcases occurs.character_inside after before written with ⟨letter, -⟩ | ⟨same, -⟩
  · exact absurd letter (by decide)
  · exact absurd same (by decide)

/-- A token starts where no other one has started that is not yet closed. -/
theorem end_le_of_lt (occurs : Occurs text start word) {later : Nat} {other : List Char}
    (again : Occurs text later other) (after : start < later) :
    start + word.length + 2 ≤ later := by
  by_contra inside
  exact occurs.character_inside_ne after (by omega) again.opening

theorem length_le (occurs : Occurs text start word) {other : List Char}
    (again : Occurs text start other) : word.length ≤ other.length := by
  by_contra shorter
  rcases occurs.character_inside (by omega) (by omega) again.closing with ⟨letter, -⟩ | ⟨-, atEnd⟩
  · exact absurd letter (by decide)
  · omega

/-- There is only one word at a position. -/
theorem unique (occurs : Occurs text start word) {other : List Char}
    (again : Occurs text start other) : word = other := by
  have sameLength : word.length = other.length :=
    Nat.le_antisymm (occurs.length_le again) (again.length_le occurs)
  have sameToken : '{' :: (word ++ ['}']) = '{' :: (other ++ ['}']) := by
    rw [List.prefix_iff_eq_take.mp occurs.written, List.prefix_iff_eq_take.mp again.written]
    simp [sameLength]
  simpa using sameToken

end Occurs

section

variable {first second word : List Char} {start : Nat}

end

end Gamebook
