/-
This file says what is made of a list of weights and which of them is picked.
A choice below the total passes some of the running sums. The weight behind the last of them has
raised the sum, so that it is not zero.
-/

import Gamebook.Proofs.Binary32.Sum
import Gamebook.Random.Weighted

namespace Gamebook.WeightTable

open Binary32

/-- This says for each way in which weights can be used or not when it is taken. -/
inductive Made (weights : List Binary32) : Except WeightFault WeightTable → Prop
  | noWeights (none : weights = []) : Made weights (.error .noWeights)
  | badWeight {weight : Binary32} (listed : weight ∈ weights)
      (bad : weight.isNonnegative = false) : Made weights (.error .badWeight)
  | allZero (some : weights ≠ []) (sound : ∀ weight ∈ weights, weight.isNonnegative = true)
      (zero : sum weights = 0) : Made weights (.error .allZero)
  | overflow (sound : ∀ weight ∈ weights, weight.isNonnegative = true)
      (infinite : infinityCode ≤ sum weights) : Made weights (.error .overflow)
  | table {first : Binary32} {rest : List Binary32} (split : weights = first :: rest)
      (sound : ∀ weight ∈ weights, weight.isNonnegative = true) (positive : 0 < sum weights)
      (finite : sum weights < infinityCode) :
      Made weights (.ok ⟨(runningSums first.code rest).1, sum weights,
        fittingScale (sum weights) (sum weights)⟩)

/-- A number that is not below zero is a number, and infinity is the greatest one. -/
theorem code_le_of_isNonnegative {weight : Binary32} (sound : weight.isNonnegative = true) :
    weight.code ≤ infinityCode := by
  rw [isNonnegative, Bool.and_eq_true, isNaN] at sound
  simpa using sound.1

section RunningSums

variable {start : Nat} {weights : List Binary32}

theorem runningSums_total :
    (runningSums start weights).2 =
      weights.foldl (fun sum weight => addCodes sum weight.code) start := by
  induction weights generalizing start with
  | nil => rfl
  | cons weight rest inductionHypothesis =>
      rw [runningSums, List.foldl_cons]
      exact inductionHypothesis

/-- The sums begin with the first weight as it stands. -/
theorem runningSums_cons_total {first : Binary32} (bounded : first.code ≤ infinityCode) :
    (runningSums first.code weights).2 = sum (first :: weights) := by
  rw [runningSums_total, sum, List.foldl_cons, zero_addCodes bounded]

/-- No sum falls below the one before it. -/
theorem le_of_mem_runningSums (bounded : start ≤ infinityCode) {sum : Nat}
    (listed : sum ∈ (runningSums start weights).1) : start ≤ sum := by
  induction weights generalizing start with
  | nil => cases listed
  | cons weight rest inductionHypothesis =>
      rw [runningSums] at listed
      rcases List.mem_cons.mp listed with rfl | later
      · exact le_rfl
      · exact (le_addCodes_left bounded).trans (inductionHypothesis addCodes_le_infinityCode later)

/-- A choice that has not passed the first sum has passed none. -/
theorem passed_eq_nil (bounded : start ≤ infinityCode) {chosen : Nat} (before : chosen < start) :
    ((runningSums start weights).1.filter fun sum => decide (sum ≤ chosen)) = [] := by
  refine List.filter_eq_nil_iff.mpr fun sum listed => ?_
  simpa using before.trans_le (le_of_mem_runningSums bounded listed)

/-- A choice that has passed the first sum but not the total has passed further ones. The weight
that is added to the last of them leads beyond the choice. -/
theorem exists_weight_of_passed (bounded : start ≤ infinityCode) {chosen : Nat}
    (begun : start ≤ chosen) (inside : chosen < (runningSums start weights).2) :
    ∃ position weight,
      ((runningSums start weights).1.filter fun sum => decide (sum ≤ chosen)).length =
        position + 1 ∧
      weights[position]? = some weight ∧ weight.isZero = false := by
  induction weights generalizing start with
  | nil => exact absurd inside (Nat.not_lt_of_le begun)
  | cons weight rest inductionHypothesis =>
      rw [runningSums] at inside ⊢
      dsimp only at inside ⊢
      rw [List.filter_cons_of_pos (by simpa using begun), List.length_cons]
      rcases Nat.lt_or_ge chosen (addCodes start weight.code) with beyond | passed
      · have none : ((runningSums (addCodes start weight.code) rest).1.filter
            fun sum => decide (sum ≤ chosen)) = [] :=
          passed_eq_nil addCodes_le_infinityCode beyond
        refine ⟨0, weight, by rw [none, List.length_nil], rfl, ?_⟩
        -- To add zero would not lead beyond the choice.
        rw [isZero, beq_eq_false_iff_ne]
        intro zero
        rw [zero, addCodes_zero bounded] at beyond
        omega
      · obtain ⟨position, picked, count, found, nonzero⟩ :=
          inductionHypothesis addCodes_le_infinityCode passed inside
        exact ⟨position + 1, picked, by rw [count], found, nonzero⟩

end RunningSums

theorem ofWeights_made (weights : List Binary32) : Made weights (ofWeights weights) := by
  cases weights with
  | nil => exact .noWeights rfl
  | cons first rest =>
      rw [ofWeights]
      cases allSound : (first :: rest).all isNonnegative with
      | false =>
          obtain ⟨weight, listed, bad⟩ := List.all_eq_false.mp allSound
          exact .badWeight listed (by simpa using bad)
      | true =>
          have sound := List.all_eq_true.mp allSound
          have total : (runningSums first.code rest).2 = sum (first :: rest) :=
            runningSums_cons_total (code_le_of_isNonnegative (sound first List.mem_cons_self))
          simp only [Bool.not_true, Bool.false_eq_true, if_false, total]
          split
          next zero => exact .allZero (List.cons_ne_nil _ _) sound zero
          next nonzero =>
            split
            next infinite => exact .overflow sound infinite
            next finite =>
              exact .table rfl sound (Nat.pos_of_ne_zero nonzero) (Nat.lt_of_not_le finite)

theorem ofWeights_eq_overflow_iff {weights : List Binary32} :
    ofWeights weights = .error .overflow ↔
      (∀ weight ∈ weights, weight.isNonnegative = true) ∧ Overflows weights := by
  rw [overflows_iff]
  have made := ofWeights_made weights
  generalize ofWeights weights = result at made
  cases made with
  | noWeights none => simp [none, sum_nil, infinityCode]
  | badWeight listed bad =>
      simp only [Except.error.injEq, reduceCtorEq, false_iff]
      rintro ⟨sound, -⟩
      rw [sound _ listed] at bad
      cases bad
  | allZero some sound zero => simp [zero, infinityCode]
  | overflow sound infinite => exact ⟨fun _ => ⟨sound, infinite⟩, fun _ => rfl⟩
  | table split sound positive finite =>
      simp only [reduceCtorEq, false_iff]
      exact fun claimed => absurd claimed.2 (Nat.not_le_of_lt finite)

section Choice

/-- The greatest multiple of the scale that can be drawn lies below the total. -/
theorem scaleCode_fittingScale_lt {total : Nat} (positive : 0 < total) (scale : Nat) :
    scaleCode (fittingScale total scale) 8388607 < total := by
  induction scale with
  | zero =>
      have nothing : scaleCode 0 8388607 = 0 := by decide +kernel
      rw [fittingScale, nothing]
      exact positive
  | succ scale inductionHypothesis =>
      rw [fittingScale]
      split
      next fits => exact fits
      next => exact inductionHypothesis

/-- What is drawn lies below the total, whatever the word is. -/
theorem chosen_lt {total : Nat} (positive : 0 < total) (word : UInt32) :
    scaleCode (fittingScale total total) (word.toNat / 512) < total := by
  have steps : word.toNat / 512 ≤ 8388607 := by
    have bounded := word.toNat_lt
    omega
  exact (nearestCode_mono (Nat.mul_le_mul_left _ steps)).trans_lt
    (scaleCode_fittingScale_lt positive total)

/-- Whatever the word is, a weight that is not zero stands at the position that is picked. -/
theorem exists_weight_at_position {weights : List Binary32} {table : WeightTable}
    (made : ofWeights weights = .ok table) (word : UInt32) :
    ∃ weight, weights[table.position word]? = some weight ∧ weight.isZero = false := by
  have verdict := ofWeights_made weights
  rw [made] at verdict
  cases verdict with
  | @table first rest split sound positive finite =>
      subst split
      have bounded := code_le_of_isNonnegative (sound first List.mem_cons_self)
      have inside := chosen_lt positive word
      rw [position]
      dsimp only
      generalize scaleCode _ (word.toNat / 512) = chosen at inside ⊢
      rcases Nat.lt_or_ge chosen first.code with before | begun
      · refine ⟨first, by rw [passed_eq_nil bounded before]; rfl, ?_⟩
        rw [isZero, beq_eq_false_iff_ne]
        omega
      · rw [← runningSums_cons_total bounded] at inside
        obtain ⟨position, weight, count, found, nonzero⟩ :=
          exists_weight_of_passed bounded begun inside
        exact ⟨weight, by rw [count, List.getElem?_cons_succ, found], nonzero⟩

end Choice

/-- Sound weights of a finite sum can be used exactly when one of them is not zero. -/
theorem exists_ofWeights_iff {weights : List Binary32}
    (sound : ∀ weight ∈ weights, weight.isNonnegative = true) (finite : sum weights < infinityCode) :
    (∃ table, ofWeights weights = .ok table) ↔ ∃ weight ∈ weights, weight.isZero = false := by
  have zero_iff : sum weights = 0 ↔ ¬∃ weight ∈ weights, weight.isZero = false := by
    rw [sum_eq_zero_iff fun weight listed => code_le_of_isNonnegative (sound weight listed)]
    simp
  have made := ofWeights_made weights
  generalize ofWeights weights = result at made
  cases made with
  | noWeights none => simp [none]
  | badWeight listed bad => cases (sound _ listed).symm.trans bad
  | allZero some sound zero => simpa using zero_iff.mp zero
  | overflow sound infinite => exact absurd infinite (Nat.not_le_of_lt finite)
  | table split sound positive finite =>
      exact ⟨fun _ => not_not.mp fun none => positive.ne' (zero_iff.mpr none), fun _ => ⟨_, rfl⟩⟩

end Gamebook.WeightTable
