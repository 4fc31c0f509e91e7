/-
This file says what becomes of a sum when every addition is rounded.
The sum never falls, and it becomes infinite exactly when one addition leads beyond the finite
numbers. A sum of numbers that are not above a power of two stands still at `2 ^ 24` times that
power, since one more number is then at most half a step.
-/

import Gamebook.Proofs.Binary32.Rounding
import Mathlib.Data.List.Induction

namespace Gamebook.Binary32

section Addition

variable {left right : Nat}

theorem magnitude_zero : magnitude 0 = 0 := rfl

theorem addCodes_le_infinityCode : addCodes left right ≤ infinityCode :=
  nearestCode_le _ _

theorem addCodes_comm : addCodes left right = addCodes right left := by
  rw [addCodes, addCodes, Nat.add_comm]

theorem addCodes_zero (bounded : left ≤ infinityCode) : addCodes left 0 = left := by
  rw [addCodes, magnitude_zero, Nat.add_zero, nearestCode_magnitude_of_le bounded]

theorem zero_addCodes (bounded : right ≤ infinityCode) : addCodes 0 right = right :=
  addCodes_comm.trans (addCodes_zero bounded)

/-- To add a number never makes a sum less. -/
theorem le_addCodes_left (bounded : left ≤ infinityCode) : left ≤ addCodes left right :=
  calc left = nearestCode (magnitude left) 1 := (nearestCode_magnitude_of_le bounded).symm
    _ ≤ addCodes left right := nearestCode_mono (Nat.le_add_right _ _)

theorem addCodes_eq_zero_iff (leftBounded : left ≤ infinityCode)
    (rightBounded : right ≤ infinityCode) :
    addCodes left right = 0 ↔ left = 0 ∧ right = 0 := by
  constructor
  · intro zero
    have fromLeft : left ≤ addCodes left right := le_addCodes_left leftBounded
    have fromRight : right ≤ addCodes left right :=
      (le_addCodes_left rightBounded).trans_eq addCodes_comm
    omega
  · rintro ⟨rfl, rfl⟩
    exact addCodes_zero leftBounded

end Addition

/-- This is the code of the sum of the numbers, which are added one after the other. -/
def sum (numbers : List Binary32) : Nat :=
  numbers.foldl (fun sum number => addCodes sum number.code) 0

/-- One of the numbers leads beyond the finite numbers when it is added to the sum of those before
it. -/
def Overflows (numbers : List Binary32) : Prop :=
  ∃ before number after, numbers = before ++ number :: after ∧
    overflowUnits ≤ magnitude (sum before) + magnitude number.code

variable {numbers : List Binary32} {number : Binary32}

theorem sum_nil : sum [] = 0 := rfl

theorem sum_append_singleton : sum (numbers ++ [number]) = addCodes (sum numbers) number.code := by
  rw [sum, sum, List.foldl_append, List.foldl_cons, List.foldl_nil]

theorem sum_le_infinityCode : sum numbers ≤ infinityCode := by
  induction numbers using List.reverseRecOn with
  | nil =>
      rw [sum_nil]
      exact Nat.zero_le _
  | append_singleton rest number _ =>
      rw [sum_append_singleton]
      exact addCodes_le_infinityCode

theorem sum_eq_zero_iff (bounded : ∀ number ∈ numbers, number.code ≤ infinityCode) :
    sum numbers = 0 ↔ ∀ number ∈ numbers, number.isZero = true := by
  induction numbers using List.reverseRecOn with
  | nil => simp [sum_nil]
  | append_singleton rest number inductionHypothesis =>
      obtain ⟨restBounded, numberBounded⟩ := List.forall_mem_append.mp bounded
      rw [sum_append_singleton, List.forall_mem_append, List.forall_mem_singleton,
        addCodes_eq_zero_iff sum_le_infinityCode (numberBounded _ (List.mem_singleton_self _)),
        inductionHypothesis restBounded, isZero, beq_iff_eq]

/-- The number that leads beyond the finite numbers is the last one or stands before it. -/
theorem overflows_append_singleton_iff : Overflows (numbers ++ [number]) ↔
    Overflows numbers ∨ overflowUnits ≤ magnitude (sum numbers) + magnitude number.code := by
  constructor
  · rintro ⟨before, beyond, after, split, reached⟩
    induction after using List.reverseRecOn with
    | nil =>
        obtain ⟨rfl, last⟩ := List.append_inj' split rfl
        cases last
        exact .inr reached
    | append_singleton after last _ =>
        rw [← List.cons_append, ← List.append_assoc] at split
        exact .inl ⟨before, beyond, after, (List.append_inj' split rfl).1, reached⟩
  · rintro (⟨before, beyond, after, rfl, reached⟩ | reached)
    · exact ⟨before, beyond, after ++ [number], by simp, reached⟩
    · exact ⟨numbers, number, [], rfl, reached⟩

/-- Once a sum is infinite it remains so. -/
theorem overflows_iff : Overflows numbers ↔ infinityCode ≤ sum numbers := by
  induction numbers using List.reverseRecOn with
  | nil =>
      constructor
      · rintro ⟨before, beyond, after, split, -⟩
        simp at split
      · intro infinite
        exact absurd infinite (by decide)
  | append_singleton rest number inductionHypothesis =>
      rw [overflows_append_singleton_iff, sum_append_singleton, inductionHypothesis]
      constructor
      · rintro (infinite | reached)
        · exact infinite.trans (le_addCodes_left sum_le_infinityCode)
        · exact infinityCode_le_nearestCode_iff.mpr reached
      · intro infinite
        exact .inr (infinityCode_le_nearestCode_iff.mp infinite)

section Growth

variable {exponent : Nat}

/-- Every multiple of a power of two by at most `2 ^ 24` is a number. -/
theorem exists_code_of_multiple {count : Nat} (fits : count ≤ 16777216) :
    ∃ code, magnitude code = count * 2 ^ exponent := by
  induction exponent generalizing count with
  | zero => exact ⟨0 * 8388608 + count, magnitude_scaled fits (.inl rfl)⟩
  | succ exponent inductionHypothesis =>
      rcases Nat.lt_or_ge count 8388608 with small | full
      · obtain ⟨code, same⟩ := inductionHypothesis (show 2 * count ≤ 16777216 by omega)
        exact ⟨code, by rw [same]; ring⟩
      · exact ⟨(exponent + 1) * 8388608 + count, magnitude_scaled fits (.inr full)⟩

theorem magnitude_nearestCode_le {units : Nat} {code : Nat} (known : magnitude code = units) :
    magnitude (nearestCode units 1) ≤ units := by
  subst known
  rw [nearestCode_magnitude]
  exact magnitude_strictMono.monotone (Nat.min_le_left _ _)

/-- A further step is a tie, which is rounded to the even number below it. -/
theorem magnitude_nearestCode_full :
    magnitude (nearestCode (16777217 * 2 ^ exponent) 1) ≤ 16777216 * 2 ^ exponent := by
  have bits : (16777217 * 2 ^ exponent).log2 = 24 + exponent := by
    refine (Nat.log2_eq_iff (Nat.mul_pos (by decide) (Nat.two_pow_pos _)).ne').mpr ⟨?_, ?_⟩
    · rw [Nat.pow_add]
      exact Nat.mul_le_mul_right _ (by decide)
    · rw [Nat.add_right_comm, Nat.pow_add]
      exact Nat.mul_lt_mul_of_pos_right (by decide) (Nat.two_pow_pos _)
  have cut : excessBits (16777217 * 2 ^ exponent) = exponent + 1 := by
    rw [excessBits, bits]
    omega
  have tie : roundedQuotient (16777217 * 2 ^ exponent) (2 * 2 ^ exponent) = 8388608 := by
    rw [roundedQuotient_mul_right (Nat.two_pow_pos _)]
    rfl
  have code : unboundedCode (16777217 * 2 ^ exponent) 1 = (exponent + 1) * 8388608 + 8388608 := by
    rw [unboundedCode, Nat.div_one, cut, Nat.one_mul, Nat.pow_succ', tie]
  rw [nearestCode_eq, code]
  calc magnitude (min ((exponent + 1) * 8388608 + 8388608) infinityCode)
      ≤ magnitude ((exponent + 1) * 8388608 + 8388608) :=
        magnitude_strictMono.monotone (Nat.min_le_left _ _)
    _ = 8388608 * 2 ^ (exponent + 1) := magnitude_scaled (by decide) (.inr le_rfl)
    _ = 16777216 * 2 ^ exponent := by ring

theorem magnitude_sum_le (small : ∀ number ∈ numbers, magnitude number.code ≤ 2 ^ exponent) :
    magnitude (sum numbers) ≤ min numbers.length 16777216 * 2 ^ exponent := by
  induction numbers using List.reverseRecOn with
  | nil => exact Nat.zero_le _
  | append_singleton rest number inductionHypothesis =>
      obtain ⟨restSmall, numberSmall⟩ := List.forall_mem_append.mp small
      have bounded := Nat.add_le_add (inductionHypothesis restSmall)
        (numberSmall number (List.mem_singleton_self _))
      rw [sum_append_singleton, List.length_append, List.length_singleton]
      refine (magnitude_strictMono.monotone (nearestCode_mono bounded)).trans ?_
      rw [← Nat.succ_mul]
      rcases Nat.lt_or_ge rest.length 16777216 with few | many
      · rw [Nat.min_eq_left few.le, Nat.min_eq_left few]
        obtain ⟨code, known⟩ : ∃ code, magnitude code = rest.length.succ * 2 ^ exponent :=
          exists_code_of_multiple few
        exact magnitude_nearestCode_le known
      · rw [Nat.min_eq_right many, Nat.min_eq_right (by omega)]
        exact magnitude_nearestCode_full

/-- Up to `2 ^ size` numbers of at most `2 ^ (276 - size)` units do not overflow, and for the last
size it does not matter how many they are. -/
theorem not_overflows_of_small {size : Nat} (possible : size ≤ 24)
    (count : numbers.length ≤ 2 ^ size ∨ size = 24)
    (small : ∀ number ∈ numbers, magnitude number.code ≤ 2 ^ (276 - size)) :
    ¬Overflows numbers := by
  rintro ⟨before, number, after, rfl, reached⟩
  obtain ⟨beforeSmall, laterSmall⟩ := List.forall_mem_append.mp small
  have bounded := Nat.add_le_add (magnitude_sum_le beforeSmall)
    (laterSmall number List.mem_cons_self)
  rw [← Nat.succ_mul] at bounded
  have least : (min before.length 16777216).succ * 2 ^ (276 - size) ≤ 16777217 * 2 ^ 252 := by
    rcases count with few | rfl
    · rw [List.length_append, List.length_cons] at few
      calc (min before.length 16777216).succ * 2 ^ (276 - size)
          ≤ 2 ^ size * 2 ^ (276 - size) := Nat.mul_le_mul_right _ (by omega)
        _ = 2 ^ size * 2 ^ (24 - size) * 2 ^ 252 := by
            rw [show 276 - size = (24 - size) + 252 by omega, pow_add, Nat.mul_assoc]
        _ = 2 ^ 24 * 2 ^ 252 := by rw [← pow_add, Nat.add_sub_of_le possible]
        _ ≤ 16777217 * 2 ^ 252 := Nat.mul_le_mul_right _ (by decide)
    · exact Nat.mul_le_mul_right _ (Nat.succ_le_succ (Nat.min_le_right _ _))
  have beyond : 16777217 * 2 ^ 252 < overflowUnits :=
    Nat.mul_lt_mul_of_pos_right (by decide) (Nat.two_pow_pos 252)
  exact absurd (reached.trans (bounded.trans least)) (Nat.not_le_of_lt beyond)

end Growth

end Gamebook.Binary32
