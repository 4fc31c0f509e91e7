/-
This file says how sums and multiples of numbers are rounded.
Rounding keeps the order, it leaves alone what is a number already, and it leads beyond all finite
numbers exactly from halfway behind the greatest one.
-/

import Gamebook.Binary32.Basic
import Mathlib.Data.Nat.Log
import Mathlib.Order.Monotone.Basic
import Mathlib.Tactic.Ring

namespace Gamebook.Binary32

/-- The code of a significand of at most `2 ^ 24` units at a power of two. A full significand can be
written with the next power as well. -/
theorem magnitude_scaled {significand excess : Nat} (fits : significand ≤ 16777216)
    (normal : excess = 0 ∨ 8388608 ≤ significand) :
    magnitude (excess * 8388608 + significand) = significand * 2 ^ excess := by
  rw [magnitude, Nat.pow_eq]
  rcases Nat.lt_or_ge significand 8388608 with small | large
  · obtain rfl : excess = 0 := by omega
    rw [if_pos (by omega)]
    omega
  · rcases Nat.lt_or_eq_of_le fits with below | rfl
    · have exponent : (excess * 8388608 + significand) / 8388608 = excess + 1 := by omega
      have fraction : (excess * 8388608 + significand) % 8388608 = significand - 8388608 := by omega
      rw [exponent, fraction, if_neg (by omega), Nat.add_sub_cancel, Nat.add_sub_of_le large]
    · have exponent : (excess * 8388608 + 16777216) / 8388608 = excess + 2 := by omega
      have fraction : (excess * 8388608 + 16777216) % 8388608 = 0 := by omega
      rw [exponent, fraction, if_neg (by omega)]
      change 8388608 * 2 ^ (excess + 1) = _
      ring

/-- Every code has a significand and a power of two. -/
theorem exists_scaled (code : Nat) : ∃ significand excess,
    code = excess * 8388608 + significand ∧ significand < 16777216 ∧
      (excess = 0 ∨ 8388608 ≤ significand) := by
  rcases Nat.lt_or_ge code 8388608 with small | large
  · exact ⟨code, 0, by omega, by omega, .inl rfl⟩
  · exact ⟨8388608 + code % 8388608, code / 8388608 - 1, by omega, by omega, .inr (by omega)⟩

theorem magnitude_strictMono : StrictMono magnitude := by
  refine strictMono_nat_of_lt_succ fun code => ?_
  obtain ⟨significand, excess, rfl, below, normal⟩ := exists_scaled code
  rw [Nat.add_assoc, magnitude_scaled below.le normal, magnitude_scaled below (by omega)]
  exact Nat.mul_lt_mul_of_pos_right (Nat.lt_succ_self _) (Nat.two_pow_pos _)

theorem roundedQuotient_mono {denominator lower upper : Nat} (ordered : lower ≤ upper) :
    roundedQuotient lower denominator ≤ roundedQuotient upper denominator := by
  have whole : lower / denominator ≤ upper / denominator := Nat.div_le_div_right ordered
  have lowerSplit := Nat.div_add_mod lower denominator
  have upperSplit := Nat.div_add_mod upper denominator
  simp only [roundedQuotient]
  rcases Nat.lt_or_eq_of_le whole with less | same
  · split_ifs <;> omega
  · rw [same] at lowerSplit ⊢
    split_ifs <;> omega

/-- A common factor makes no difference. -/
theorem roundedQuotient_mul_right {numerator denominator factor : Nat} (positive : 0 < factor) :
    roundedQuotient (numerator * factor) (denominator * factor) =
      roundedQuotient numerator denominator := by
  have below : 2 * (numerator % denominator * factor) < denominator * factor ↔
      2 * (numerator % denominator) < denominator := by
    rw [← Nat.mul_assoc, Nat.mul_lt_mul_right positive]
  have above : denominator * factor < 2 * (numerator % denominator * factor) ↔
      denominator < 2 * (numerator % denominator) := by
    rw [← Nat.mul_assoc, Nat.mul_lt_mul_right positive]
  simp only [roundedQuotient, Nat.mul_div_mul_right _ _ positive, Nat.mul_mod_mul_right, below, above]

theorem roundedQuotient_one (numerator : Nat) : roundedQuotient numerator 1 = numerator := by
  simp [roundedQuotient, Nat.mod_one]

theorem roundedQuotient_bounds (numerator denominator : Nat) :
    numerator / denominator ≤ roundedQuotient numerator denominator ∧
      roundedQuotient numerator denominator ≤ numerator / denominator + 1 := by
  simp only [roundedQuotient]
  split_ifs <;> omega

/-- The significand that is left has at most twenty-four bits, and exactly as many when any were
cut off. -/
theorem significand_bounds (units : Nat) :
    units / 2 ^ excessBits units < 16777216 ∧
      (excessBits units = 0 ∨ 8388608 ≤ units / 2 ^ excessBits units) := by
  have upper : units < 2 ^ (units.log2 + 1) := Nat.lt_log2_self
  rw [excessBits]
  constructor
  · rw [Nat.div_lt_iff_lt_mul (Nat.two_pow_pos _)]
    calc units < 2 ^ (units.log2 + 1) := upper
      _ ≤ 2 ^ (24 + (units.log2 - 23)) := Nat.pow_le_pow_right (by decide) (by omega)
      _ = 16777216 * 2 ^ (units.log2 - 23) := Nat.pow_add 2 24 _
  · rcases Nat.lt_or_ge 23 units.log2 with cut | uncut
    · have lower : 2 ^ units.log2 ≤ units :=
        Nat.log2_self_le fun zero => by rw [zero] at cut; exact absurd cut (by decide)
      refine .inr ((Nat.le_div_iff_mul_le (Nat.two_pow_pos _)).mpr ?_)
      calc 8388608 * 2 ^ (units.log2 - 23) = 2 ^ (23 + (units.log2 - 23)) :=
            (Nat.pow_add 2 23 _).symm
        _ = 2 ^ units.log2 := by rw [Nat.add_sub_of_le cut.le]
        _ ≤ units := lower
    · exact .inl (Nat.sub_eq_zero_of_le uncut)

/-- This is the code before it is cut off at infinity. -/
def unboundedCode (numerator denominator : Nat) : Nat :=
  let excess := excessBits (numerator / denominator)
  excess * 8388608 + roundedQuotient numerator (denominator * 2 ^ excess)

theorem nearestCode_eq (numerator denominator : Nat) :
    nearestCode numerator denominator = min (unboundedCode numerator denominator) infinityCode :=
  rfl

theorem nearestCode_le (numerator denominator : Nat) :
    nearestCode numerator denominator ≤ infinityCode :=
  Nat.min_le_right _ _

/-- Of two quotients with the same denominator the greater one is not rounded to less. Where more
bits are cut off, the code lies in a later range of exponents. -/
theorem unboundedCode_mono {denominator lower upper : Nat} (ordered : lower ≤ upper) :
    unboundedCode lower denominator ≤ unboundedCode upper denominator := by
  have whole : lower / denominator ≤ upper / denominator := Nat.div_le_div_right ordered
  have cut : excessBits (lower / denominator) ≤ excessBits (upper / denominator) := by
    rw [excessBits, excessBits, Nat.log2_eq_log_two, Nat.log2_eq_log_two]
    exact Nat.sub_le_sub_right (Nat.log_mono_right whole) 23
  simp only [unboundedCode]
  rcases Nat.lt_or_eq_of_le cut with more | same
  · have lowerFits := (significand_bounds (lower / denominator)).1
    have upperFull := (significand_bounds (upper / denominator)).2
    rw [Nat.div_div_eq_div_mul] at lowerFits upperFull
    have lowerRounded := (roundedQuotient_bounds lower
      (denominator * 2 ^ excessBits (lower / denominator))).2
    have upperRounded := (roundedQuotient_bounds upper
      (denominator * 2 ^ excessBits (upper / denominator))).1
    omega
  · rw [same]
    exact Nat.add_le_add_left (roundedQuotient_mono ordered) _

theorem nearestCode_mono {denominator lower upper : Nat} (ordered : lower ≤ upper) :
    nearestCode lower denominator ≤ nearestCode upper denominator :=
  min_le_min_right _ (unboundedCode_mono ordered)

/-- A number keeps its code, and what lies beyond the finite numbers becomes infinity. -/
theorem nearestCode_magnitude (code : Nat) :
    nearestCode (magnitude code) 1 = min code infinityCode := by
  obtain ⟨significand, excess, rfl, below, normal⟩ := exists_scaled code
  rw [nearestCode_eq, magnitude_scaled below.le normal, unboundedCode, Nat.div_one]
  have cut : excessBits (significand * 2 ^ excess) = excess := by
    rcases normal with rfl | full
    · rw [Nat.pow_zero, Nat.mul_one, excessBits, Nat.sub_eq_zero_iff_le, ← Nat.lt_succ_iff]
      rcases Nat.eq_zero_or_pos significand with rfl | positive
      · decide
      · exact (Nat.log2_lt positive.ne').mpr below
    · have bits : (significand * 2 ^ excess).log2 = 23 + excess := by
        have nonzero : significand * 2 ^ excess ≠ 0 :=
          (Nat.mul_pos (by omega) (Nat.two_pow_pos _)).ne'
        refine (Nat.log2_eq_iff nonzero).mpr ⟨?_, ?_⟩
        · rw [Nat.pow_add]
          exact Nat.mul_le_mul_right _ full
        · rw [Nat.add_right_comm, Nat.pow_add]
          exact Nat.mul_lt_mul_of_pos_right below (Nat.two_pow_pos _)
      rw [excessBits, bits, Nat.add_sub_cancel_left]
  rw [cut, roundedQuotient_mul_right (Nat.two_pow_pos _), roundedQuotient_one]

theorem nearestCode_magnitude_of_le {code : Nat} (bounded : code ≤ infinityCode) :
    nearestCode (magnitude code) 1 = code :=
  (nearestCode_magnitude code).trans (min_eq_left bounded)

/-- From halfway behind the greatest finite number on everything is rounded to infinity. -/
def overflowUnits : Nat := 33554431 * 2 ^ 252

theorem infinityCode_le_nearestCode_iff {units : Nat} :
    infinityCode ≤ nearestCode units 1 ↔ overflowUnits ≤ units := by
  constructor
  · intro infinite
    by_contra less
    have greatest : nearestCode (overflowUnits - 1) 1 < infinityCode := by decide +kernel
    have below : nearestCode units 1 ≤ nearestCode (overflowUnits - 1) 1 :=
      nearestCode_mono (by omega)
    omega
  · intro beyond
    have least : nearestCode overflowUnits 1 = infinityCode := by decide +kernel
    exact least.ge.trans (nearestCode_mono beyond)

end Gamebook.Binary32
