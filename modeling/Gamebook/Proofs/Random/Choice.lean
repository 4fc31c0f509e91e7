/-
This file says which elements of a list can be picked.
The numbers that are drawn have more values than the list has positions. Scaled to the length of
the list they meet every position with a remainder that is accepted, so that every element is picked
from some source.
-/

import Gamebook.Random.Choice
import Mathlib.Algebra.Group.Nat.Defs

namespace Gamebook

theorem size_lt_drawnRange (size : Nat) : size < drawnRange size := by
  have words : drawnRange size = 2 ^ (32 * wordsIn size) := (Nat.pow_mul 2 32 (wordsIn size)).symm
  rw [words]
  refine Nat.lt_of_lt_of_le Nat.lt_log2_self (Nat.pow_le_pow_right (by decide) ?_)
  rw [wordsIn]
  omega

theorem pred_le_acceptedZone (size : Nat) : size - 1 ≤ acceptedZone size :=
  Nat.sub_le_sub_right (Nat.le_mul_of_pos_right size (Nat.two_pow_pos _)) 1

/-- Every position is met by the least number whose product reaches it. -/
theorem exists_number_at_position {size position : Nat} (inside : position < size) :
    ∃ number < drawnRange size, acceptedPosition? size number = some position := by
  have positive : 0 < size := Nat.zero_lt_of_lt inside
  have wide := size_lt_drawnRange size
  have zone := pred_le_acceptedZone size
  generalize reached : position * drawnRange size + (size - 1) = target
  have split := Nat.div_add_mod target size
  have rest := Nat.mod_lt target positive
  have product : target / size * size =
      drawnRange size * position + (size - 1 - target % size) := by
    rw [Nat.mul_comm, Nat.mul_comm (drawnRange size)]
    omega
  have below : size - 1 - target % size < drawnRange size := by omega
  refine ⟨target / size, ?_, ?_⟩
  · refine Nat.lt_of_mul_lt_mul_right (a := size) ?_
    calc target / size * size < drawnRange size * (position + 1) := by
          rw [product, Nat.mul_succ]
          omega
      _ ≤ drawnRange size * size := Nat.mul_le_mul_left _ inside
  · rw [acceptedPosition?, product, Nat.mul_add_mod, Nat.mod_eq_of_lt below,
      Nat.mul_add_div (by omega), Nat.div_eq_of_lt below, if_pos (by omega), Nat.add_zero]

namespace RandomSource

/-- The words of this source are those of the number, from the lowest on. -/
def ofNumber (value : Nat) : RandomSource where
  word position := UInt32.ofNat (value / UInt32.size ^ position)

theorem number_ofNumber (value drawn count : Nat) :
    (number count ⟨(ofNumber value).word, drawn⟩).1 =
      value / UInt32.size ^ drawn % UInt32.size ^ count := by
  induction count generalizing drawn with
  | zero => rw [number, pow_zero, Nat.mod_one]
  | succ count inductionHypothesis =>
      have word : ((ofNumber value).word drawn).toNat =
          value / UInt32.size ^ drawn % UInt32.size := UInt32.toNat_ofNat'
      have higher := inductionHypothesis (drawn + 1)
      rw [pow_succ, ← Nat.div_div_eq_div_mul] at higher
      rw [number]
      dsimp only [next]
      rw [word, higher, pow_succ', Nat.mod_mul]

variable {A : Type} {values : List A} {value : A}

theorem position?_of_accepted {size position attempts : Nat} {source : RandomSource}
    (accepted : acceptedPosition? size (number (wordsIn size) source).1 = some position)
    (patient : 0 < attempts) : (position? size attempts source).1 = some position := by
  cases attempts with
  | zero => exact absurd patient (Nat.lt_irrefl 0)
  | succ attempts =>
      rw [position?, accepted]

theorem mem_of_choose {source : RandomSource} (chosen : (source.choose values).1 = some value) :
    value ∈ values := by
  rw [choose] at chosen
  split at chosen
  next => cases chosen
  next =>
    split at chosen
    next => exact List.mem_of_getElem? chosen
    next => cases chosen

theorem exists_choose (listed : value ∈ values) :
    ∃ source : RandomSource, (source.choose values).1 = some value := by
  obtain ⟨position, inside, stands⟩ := List.getElem_of_mem listed
  obtain ⟨drawn, fits, accepted⟩ := exists_number_at_position inside
  have number_eq : (number (wordsIn values.length) (ofNumber drawn)).1 = drawn := by
    have spelled := number_ofNumber drawn 0 (wordsIn values.length)
    rw [pow_zero, Nat.div_one] at spelled
    exact spelled.trans (Nat.mod_eq_of_lt fits)
  have found : ((ofNumber drawn).position? values.length patience).1 = some position :=
    position?_of_accepted (number_eq.symm ▸ accepted) (Nat.two_pow_pos 64)
  refine ⟨ofNumber drawn, ?_⟩
  rw [choose, if_neg (by simpa using List.ne_nil_of_mem listed)]
  generalize (ofNumber drawn).position? values.length patience = result at found
  obtain ⟨_, rest⟩ := result
  obtain rfl := found
  exact List.getElem?_eq_some_iff.mpr ⟨inside, stands⟩

/-- Exactly the elements of a list can be picked from it. -/
theorem exists_choose_iff :
    (∃ source : RandomSource, (source.choose values).1 = some value) ↔ value ∈ values :=
  ⟨fun ⟨_, chosen⟩ => mem_of_choose chosen, exists_choose⟩

end RandomSource

end Gamebook
