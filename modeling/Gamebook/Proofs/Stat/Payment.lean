/-
This file says what a settlement pays for an option that costs supplies.
The costs of an option are compared with the supplies one by one, but they are paid one after the other.
Together they can be more than there is, and then they are paid until nothing is left.
-/

import Gamebook.Proofs.Stat.Clamping
import Gamebook.Scene
import Mathlib.Algebra.GroupWithZero.Nat

namespace Gamebook

/-- Supplies have no ceiling, and they are the ceiling of nothing. -/
def Stat.isSupply : Stat → Bool
  | .population | .food | .gold => true
  | _ => false

theorem Stat.ceiling?_of_isSupply {stat : Stat} (supply : stat.isSupply = true) :
    stat.ceiling? = none := by
  cases stat <;> first | rfl | cases supply

theorem Stat.ceiling?_ne_of_isSupply {stat : Stat} (supply : stat.isSupply = true) (other : Stat) :
    other.ceiling? ≠ some stat := by
  cases other <;> rintro ⟨⟩ <;> cases supply

/-- These are the costs that are to be paid with the stat. -/
def dues (costs : List StatAmount) (stat : Stat) : List StatAmount :=
  costs.filter fun cost => cost.stat = stat

/-- This is what the costs amount to for the stat. -/
def owed (costs : List StatAmount) (stat : Stat) : Nat :=
  ((dues costs stat).map fun cost => cost.amount.toNat).sum

theorem owed_cons (cost : StatAmount) (rest : List StatAmount) (stat : Stat) :
    owed (cost :: rest) stat = (if cost.stat = stat then cost.amount.toNat else 0) + owed rest stat := by
  rw [owed, dues, List.filter_cons]
  by_cases same : cost.stat = stat <;> simp [same, owed, dues]

namespace Stats

/-- The costs are paid in full with a stat when it is lowered by all that is owed. -/
def PaidInFull (stats : Stats) (costs : List StatAmount) (stat : Stat) : Prop :=
  ((stats.pay costs).get stat).toNat + owed costs stat = (stats.get stat).toNat

instance (stats : Stats) (costs : List StatAmount) (stat : Stat) :
    Decidable (stats.PaidInFull costs stat) :=
  inferInstanceAs (Decidable (_ = _))

variable (stats : Stats)

/-- A spending of supplies stops at zero and leaves all other stats alone. -/
theorem toNat_get_spend {stat : Stat} (supply : stat.isSupply = true) (amount : UInt32)
    (other : Stat) :
    ((stats.spend stat amount).get other).toNat =
      (stats.get other).toNat - if stat = other then amount.toNat else 0 := by
  rw [spend, get_clamp]
  by_cases same : other = stat
  · subst same
    rw [if_pos (.inl rfl), bounded_of_free _ (Stat.ceiling?_of_isSupply supply), get_set_self,
      saturatingSub_toNat, if_pos rfl]
  · have apart := not_or.mpr ⟨same, Stat.ceiling?_ne_of_isSupply supply other⟩
    rw [if_neg apart, get_set_of_ne _ (Ne.symm same), if_neg (Ne.symm same), Nat.sub_zero]

/-- When no cost in another stat lowers a stat, it is lowered by what is owed with it. -/
theorem toNat_get_pay_of_each {costs : List StatAmount} {stat : Stat}
    (each : ∀ cost ∈ costs, ∀ stats : Stats,
      ((stats.spend cost.stat cost.amount).get stat).toNat =
        (stats.get stat).toNat - if cost.stat = stat then cost.amount.toNat else 0) :
    ((stats.pay costs).get stat).toNat = (stats.get stat).toNat - owed costs stat := by
  induction costs generalizing stats with
  | nil => rfl
  | cons cost rest inductionHypothesis =>
      obtain ⟨lowered, others⟩ := List.forall_mem_cons.mp each
      have later := inductionHypothesis (stats.spend cost.stat cost.amount) others
      rw [lowered, Nat.sub_sub, ← owed_cons] at later
      exact later

/-- Costs in supplies are paid until nothing is left. -/
theorem toNat_get_pay {costs : List StatAmount}
    (supplies : ∀ cost ∈ costs, cost.stat.isSupply = true) (stat : Stat) :
    ((stats.pay costs).get stat).toNat = (stats.get stat).toNat - owed costs stat :=
  stats.toNat_get_pay_of_each fun cost listed stats =>
    stats.toNat_get_spend (supplies cost listed) cost.amount stat

theorem paidInFull_iff {costs : List StatAmount}
    (supplies : ∀ cost ∈ costs, cost.stat.isSupply = true) (stat : Stat) :
    stats.PaidInFull costs stat ↔ owed costs stat ≤ (stats.get stat).toNat := by
  rw [PaidInFull, toNat_get_pay stats supplies]
  omega

/-- A payable stat that is asked for at most once covers what is owed. -/
theorem owed_le_of_canPay {costs : List StatAmount} (payable : stats.canPay costs = true)
    {stat : Stat} (single : (dues costs stat).length ≤ 1) :
    owed costs stat ≤ (stats.get stat).toNat := by
  rw [owed]
  match listed : dues costs stat with
  | [] => exact Nat.zero_le _
  | [cost] =>
      obtain ⟨member, rfl⟩ : cost ∈ costs ∧ cost.stat = stat := by
        simpa [dues] using (listed ▸ List.mem_singleton_self cost : cost ∈ dues costs stat)
      simp only [canPay, List.all_eq_true, decide_eq_true_eq] at payable
      exact UInt32.le_iff_toNat_le.mp (payable cost member)
  | first :: second :: rest =>
      rw [listed] at single
      simp at single

end Stats

/-- An option that costs supplies and is found affordable is paid for with what there is. A stat
covers all that is owed unless it is asked for at least twice, and then it may be used up before
everything is paid. -/
theorem EventOption.paid_while_supplies_last (option : EventOption) (items : ItemCatalog)
    (scene : Scene) (supplies : ∀ cost ∈ option.costs, cost.stat.isSupply = true)
    (affordable : option.isAffordable scene = true) :
    (unknownGrant? items option.effects = none →
      (option.apply items scene).1 = (settle items option.effects
        { scene with stats := scene.stats.pay option.costs }).1) ∧
    ∀ stat,
      ((scene.stats.pay option.costs).get stat).toNat =
          (scene.stats.get stat).toNat - owed option.costs stat ∧
        (scene.stats.PaidInFull option.costs stat ↔
          owed option.costs stat ≤ (scene.stats.get stat).toNat) ∧
        (¬ scene.stats.PaidInFull option.costs stat →
          2 ≤ (dues option.costs stat).length ∧ (scene.stats.pay option.costs).get stat = 0) := by
  refine ⟨fun known => ?_, fun stat => ?_⟩
  · have noneUnpaid : (option.costs.find? fun cost =>
        decide (scene.stats.get cost.stat < cost.amount)) = none := by
      simpa [isAffordable, Stats.canPay, List.find?_eq_none] using affordable
    rw [apply, noneUnpaid, known]
    dsimp only
    split
    next after error settled => rw [settled]
    next after settled => rw [settled]
  · have left := scene.stats.toNat_get_pay supplies stat
    refine ⟨left, scene.stats.paidInFull_iff supplies stat, fun short => ?_⟩
    rw [scene.stats.paidInFull_iff supplies] at short
    constructor
    · by_contra single
      exact short (scene.stats.owed_le_of_canPay affordable (by omega))
    · refine UInt32.toNat_inj.mp (left.trans ?_)
      rw [Nat.sub_eq_zero_of_le (by omega)]
      rfl

/-- A feast is asked for twice in one option. -/
def doubleFeast : EventOption where
  displayText := "Feast"
  resolutionText := "All are fed."
  order := 1
  displayCost := true
  conditions := []
  costs := [⟨.food, 3⟩, ⟨.gold, 2⟩, ⟨.food, 3⟩]
  effects := []
  nextEvent := none

/-- There is food for one feast and some more. -/
def larder : Scene where
  stats := Stats.ofList [(.population, 5), (.food, 4), (.gold, 2)]
  inventory := Inventory.empty
  title := ""
  location := none
  triggered := none

theorem paid_while_supplies_last_larder :
    (∀ cost ∈ doubleFeast.costs, cost.stat.isSupply = true) ∧
      doubleFeast.isAffordable larder = true ∧
      larder.stats.PaidInFull doubleFeast.costs .gold ∧
      2 ≤ (dues doubleFeast.costs .food).length ∧
      (larder.stats.pay doubleFeast.costs).get .food = 0 := by
  have supplies : ∀ cost ∈ doubleFeast.costs, cost.stat.isSupply = true := by decide
  have affordable : doubleFeast.isAffordable larder = true := by decide
  obtain ⟨-, each⟩ := doubleFeast.paid_while_supplies_last Catalog.empty larder supplies affordable
  exact ⟨supplies, affordable, (each .gold).2.1.mpr (by decide), (each .food).2.2 (by decide)⟩

/-- The feast passes as affordable, and its six food are paid with four. -/
theorem feast_for_less_than_owed :
    doubleFeast.isAffordable larder = true ∧ owed doubleFeast.costs .food = 6 ∧
      larder.stats.get .food = 4 ∧
      doubleFeast.apply Catalog.empty larder =
        ({ larder with stats := larder.stats.pay doubleFeast.costs },
          .ok ⟨"All are fed.", [], none⟩) ∧
      (larder.stats.pay doubleFeast.costs).get .food = 0 ∧
      ¬ larder.stats.PaidInFull doubleFeast.costs .food := by
  refine ⟨by decide, by decide, by decide, ?_, by decide, by decide⟩
  have noneUnpaid : (doubleFeast.costs.find? fun cost =>
      decide (larder.stats.get cost.stat < cost.amount)) = none := by decide
  rw [EventOption.apply, noneUnpaid]
  simp [doubleFeast, unknownGrant?, grantedItems, settle, effectLines, larder]

end Gamebook
