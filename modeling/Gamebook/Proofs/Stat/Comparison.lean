/-
This file compares two states of the stats. Every change is monotone: it keeps one state below
another, in each stat and in its ceiling at once.
-/

import Gamebook.Proofs.Stat.Levels

namespace Gamebook

/-- Stats are below others when each value is at most the other one. -/
instance : LE Stats where
  le lower upper := ∀ stat, lower.get stat ≤ upper.get stat

namespace Levels

variable {lower upper : Levels} (below : ∀ stat, lower stat ≤ upper stat)

include below

theorem ceiling_mono (stat : Stat) : lower.ceiling stat ≤ upper.ceiling stat := by
  rw [ceiling, ceiling]
  cases stat.ceiling? with
  | none => exact Int.le_refl _
  | some maximum => exact below maximum

theorem reached_mono (stat : Stat) (amount : Int) :
    lower.reached stat amount ≤ upper.reached stat amount := by
  have own := below stat
  have above := ceiling_mono below stat
  rw [reached, reached]
  omega

/-- Moving the same stat by the same amount keeps levels below others. -/
theorem move_mono (stat : Stat) (amount : Int) (other : Stat) :
    lower.move stat amount other ≤ upper.move stat amount other := by
  have own := below other
  have moved := reached_mono below stat amount
  rw [move, move]
  split
  · exact moved
  · split
    · omega
    · exact own

end Levels

namespace Stats

theorem le_iff_levels {lower upper : Stats} :
    lower ≤ upper ↔ ∀ stat, lower.levels stat ≤ upper.levels stat := by
  refine forall_congr' fun stat => ?_
  rw [levels, levels, UInt32.le_iff_toNat_le, Int.ofNat_le]

variable {lower upper : Stats} (below : lower ≤ upper)

include below

theorem add_mono (stat : Stat) (amount : UInt32) : lower.add stat amount ≤ upper.add stat amount := by
  rw [le_iff_levels, levels_add, levels_add]
  exact Levels.move_mono (le_iff_levels.mp below) stat _

theorem spend_mono (stat : Stat) (amount : UInt32) :
    lower.spend stat amount ≤ upper.spend stat amount := by
  rw [le_iff_levels, levels_spend, levels_spend]
  exact Levels.move_mono (le_iff_levels.mp below) stat _

theorem change_mono (stat : Stat) (amount : Int32) :
    lower.change stat amount ≤ upper.change stat amount := by
  rw [le_iff_levels, levels_change, levels_change]
  exact Levels.move_mono (le_iff_levels.mp below) stat _

theorem pay_mono (costs : List StatAmount) : lower.pay costs ≤ upper.pay costs := by
  induction costs generalizing lower upper with
  | nil => exact below
  | cons cost rest inductionHypothesis =>
      exact inductionHypothesis (spend_mono below cost.stat cost.amount)

/-- Whoever has more can pay whatever the other can pay. -/
theorem canPay_mono {costs : List StatAmount} (payable : lower.canPay costs = true) :
    upper.canPay costs = true := by
  simp only [canPay, List.all_eq_true, decide_eq_true_eq] at payable ⊢
  intro cost listed
  exact UInt32.le_trans (payable cost listed) (below cost.stat)

/-- Whoever has more is at the end of the story only if the other is. -/
theorem isGameOver_anti (ended : upper.isGameOver = true) : lower.isGameOver = true := by
  have spent : ∀ stat, upper.get stat = 0 → lower.get stat = 0 := fun stat nothing => by
    have least := below stat
    rw [nothing] at least
    exact UInt32.le_zero_iff.mp least
  simp only [isGameOver, Bool.or_eq_true, beq_iff_eq] at ended ⊢
  exact ended.imp (spent .population) (spent .strength)

end Stats

end Gamebook
